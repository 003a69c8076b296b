/-!
Values bound to the variables of a route, and maps of them by name.
-/

namespace PathRouter

inductive Binding where
  | one (text : String)
  | many (texts : List String)
  deriving Repr, DecidableEq

namespace Binding

def one? : Binding → Option String
  | .one text => some text
  | .many _ => none

def many? : Binding → Option (List String)
  | .one _ => none
  | .many texts => some texts

end Binding

structure Variables where
  bindings : List (String × Binding)
  deriving Repr, DecidableEq

namespace Variables

def empty : Variables :=
  ⟨[]⟩

def get? (bound : Variables) (name : String) : Option Binding :=
  bound.bindings.lookup name

def set (bound : Variables) (name : String) (binding : Binding) : Variables :=
  if bound.bindings.any (·.1 = name) then
    ⟨bound.bindings.map fun b => if b.1 = name then (name, binding) else b⟩
  else ⟨bound.bindings ++ [(name, binding)]⟩

end Variables

end PathRouter
