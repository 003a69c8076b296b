import PathRouter.Automaton.State
import PathRouter.Table.Packed

/-!
The dense layout: a row of cells for every state, one cell for each octet of a path. A cell holds the next
state, or the number of states where there is none; a second array holds the route that a state accepts,
or the number of routes.
-/

namespace PathRouter.Table

open Automaton

structure CapacityError where
  states : Nat
  routes : Nat
  deriving Repr, DecidableEq

def CapacityError.message (e : CapacityError) : String :=
  "too many routes: " ++ toString e.states ++ " states and " ++ toString e.routes ++
    " routes exceed the 32-bit table limit"

structure Dense where
  table : Packed
  accepted : Packed
  states : Nat
  routes : Nat
  deriving Repr, DecidableEq

namespace Dense

/-- The cells of a row: one for each octet of a path after a first one that is never read. -/
def rowWidth : Nat := 95

def column (b : UInt8) : Nat :=
  b.toNat - 0x20

def row (absent : Nat) (state : State) : List Nat :=
  (List.range rowWidth).map fun i => (state.next? (UInt8.ofNat (0x20 + i))).getD absent

def build (states : Array State) (routes : Nat) : Except CapacityError Dense :=
  let count := states.size
  match Width.forMax? (max count routes) with
  | none => .error ⟨count, routes⟩
  | some width => .ok {
      table := .ofList width (states.toList.flatMap (row count))
      accepted := .ofList width (states.toList.map fun state => state.accepts.getD routes)
      states := count
      routes := routes }

def octets (m : Dense) : Nat :=
  m.table.octets + m.accepted.octets

/-- The route that octets lead to from a state. The outer `none` means that a read fell outside the
arrays. -/
def runFrom? (m : Dense) (state : Nat) : List UInt8 → Option (Option Nat)
  | [] => (m.accepted.get? state).map fun route => if route < m.routes then some route else none
  | b :: rest =>
    if isPathOctet b then
      match m.table.get? (state * rowWidth + column b) with
      | none => none
      | some next => if next < m.states then m.runFrom? next rest else some none
    else some none

def run? (m : Dense) (path : List UInt8) : Option (Option Nat) :=
  m.runFrom? 0 path.tail

inductive Flaw where
  | counts (states routes : Nat)
  | tableSize (cells expected : Nat)
  | acceptedSize (entries expected : Nat)
  | unknownState
  | unknownRoute
  deriving Repr, DecidableEq

def Flaw.detail : Flaw → String
  | .counts states routes =>
    "dense machine has " ++ toString states ++ " states and " ++ toString routes ++ " routes"
  | .tableSize cells expected =>
    "dense table has " ++ toString cells ++ " cells, expected " ++ toString expected
  | .acceptedSize entries expected =>
    "dense matches has " ++ toString entries ++ " entries, expected " ++ toString expected
  | .unknownState => "dense table references an unknown state"
  | .unknownRoute => "dense matches references an unknown route"

def flaw? (m : Dense) : Option Flaw :=
  if m.states = 0 || maxPacked < max m.states m.routes then some (.counts m.states m.routes)
  else if m.table.size ≠ m.states * rowWidth then
    some (.tableSize m.table.size (m.states * rowWidth))
  else if m.accepted.size ≠ m.states then some (.acceptedSize m.accepted.size m.states)
  else if m.table.toList.any (m.states < ·) then some .unknownState
  else if m.accepted.toList.any (m.routes < ·) then some .unknownRoute
  else none

end Dense

end PathRouter.Table
