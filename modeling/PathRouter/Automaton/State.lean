/-!
States of a route automaton over the octets of canonical paths.
-/

namespace PathRouter.Automaton

def slash : UInt8 := 0x2f

def isPathOctet (b : UInt8) : Bool :=
  0x21 ≤ b && b ≤ 0x7e

def pathOctets : List UInt8 :=
  (List.range 94).map fun i => UInt8.ofNat (0x21 + i)

def isLetter (b : UInt8) : Bool :=
  isPathOctet b && b ≠ slash

def letterCount : Nat := 93

/-- A state with its number, its transitions by increasing octet, and the route accepted in it. -/
structure State where
  id : Nat
  transitions : List (UInt8 × Nat)
  accepts : Option Nat
  deriving Repr, DecidableEq, Inhabited

namespace State

def blank (id : Nat) : State :=
  ⟨id, [], none⟩

def next? (state : State) (b : UInt8) : Option Nat :=
  (state.transitions.find? fun t => t.1 = b).map (·.2)

def slashChild? (state : State) : Option Nat :=
  state.next? slash

/-- The one state that all the octets of a variable lead to, if they do. -/
def wildcardChild? (state : State) : Option Nat :=
  match (state.transitions.filter fun t => t.1 ≠ slash).map (·.2) with
  | [] => none
  | child :: others =>
    if others.all (· = child) && others.length + 1 = letterCount then some child else none

end State

def walk (states : Array State) : Nat → List UInt8 → Option Nat
  | state, [] => some state
  | state, b :: rest =>
    match (states[state]?).bind (·.next? b) with
    | some next => walk states next rest
    | none => none

/-- The route accepted after a path, of which the first octet is passed over. -/
def route? (states : Array State) (path : List UInt8) : Option Nat :=
  (walk states 0 path.tail).bind fun state => (states[state]?).bind (·.accepts)

end PathRouter.Automaton
