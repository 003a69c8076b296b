/-!
JSON values. Numbers are integers or decimals, which keeps the difference between `1` and `1.0`; objects
keep the order of their members.
-/

namespace PathRouter

/-- A number: an integer, or the decimal `± digits * 10 ^ exponent`. -/
inductive Json.Number where
  | int (value : Int)
  | real (negative : Bool) (digits : Nat) (exponent : Int)
  deriving Repr, DecidableEq

inductive Json where
  | null
  | bool (value : Bool)
  | num (value : Json.Number)
  | str (text : String)
  | arr (items : List Json)
  | obj (members : List (String × Json))
  deriving Repr, Inhabited

namespace Json

def ofNat (n : Nat) : Json := .num (.int n)

def ofOption {α : Type} (f : α → Json) : Option α → Json
  | none => .null
  | some a => f a

def member? (name : String) : Json → Option Json
  | .obj members => (members.find? fun m => m.1 = name).map (·.2)
  | _ => none

def insertMember (name : String) (value : Json) : List (String × Json) → List (String × Json)
  | [] => [(name, value)]
  | (n, v) :: rest =>
    if name < n then (name, value) :: (n, v) :: rest
    else if name = n then (name, value) :: rest
    else (n, v) :: insertMember name value rest

def sortedObject (members : List (String × Json)) : Json :=
  .obj (members.foldl (fun sorted m => insertMember m.1 m.2 sorted) [])

def str? : Json → Option String
  | .str text => some text
  | _ => none

def bool? : Json → Option Bool
  | .bool value => some value
  | _ => none

def arr? : Json → Option (List Json)
  | .arr items => some items
  | _ => none

def natBelow? (bound : Nat) : Json → Option Nat
  | .num (.int value) => if 0 ≤ value && value.toNat < bound then some value.toNat else none
  | _ => none

/-- The values of a record's fields, in the order of `names`. A record is written as an object, where
fields that are not named are passed over, or as the array of its leading fields, of which at least
`least` must be there; values beyond the last field are allowed only with `surplus`. -/
def fields? (names : List String) (least : Nat) (surplus : Bool) : Json → Option (List (Option Json))
  | .obj members => some (names.map fun name => (Json.obj members).member? name)
  | .arr items =>
    if least ≤ items.length && (surplus || items.length ≤ names.length) then
      some ((List.range names.length).map fun i => items[i]?)
    else none
  | _ => none

end Json

end PathRouter
