import PathRouter.Automaton.Construction
import PathRouter.Pattern.Parser
import PathRouter.Router

/-!
Building routers. Routes are numbered in the order in which they are added.
-/

namespace PathRouter

inductive BuildError where
  | conflict (conflict : Automaton.Conflict)
  | capacity (error : Table.CapacityError)
  deriving Repr, DecidableEq

structure BuildOptions where
  compress : Bool := false
  deriving Repr, DecidableEq

structure Builder (α : Type) where
  routes : Array (Pattern × α)

namespace Builder

variable {α : Type}

def empty : Builder α :=
  ⟨#[]⟩

def add (builder : Builder α) (mode : Pattern.Mode) (pattern : String) (value : α) :
    Except Pattern.SyntaxError (Builder α) :=
  (Pattern.parse mode pattern).map fun p => ⟨builder.routes.push (p, value)⟩

def patterns (builder : Builder α) : Array Pattern :=
  builder.routes.map (·.1)

def layout (pattern : Pattern) : Option (List (Option VariableSlot)) :=
  if pattern.hasVariables then
    some (pattern.segments.map fun
      | .literal _ => none
      | .var name quantifier => some ⟨name, quantifier.isSome⟩)
  else none

def build (builder : Builder α) (options : BuildOptions) : Except BuildError (Router α) :=
  match Automaton.build builder.patterns with
  | .error conflict => .error (.conflict conflict)
  | .ok states =>
    match Engine.compile states builder.routes.size options.compress with
    | .error e => .error (.capacity e)
    | .ok engine => .ok ⟨engine, builder.routes.map fun (pattern, value) => ⟨value, layout pattern⟩⟩

end Builder

end PathRouter
