import PathRouter.Table.Dense
import PathRouter.Text.Digits

/-!
The sparse layout: all rows one after the other, each listing only the transitions that its state has.
A state inside a variable goes the same way on every octet but the separator; its row holds one wildcard
entry for all of these, after the entry of the separator if there is one.
-/

namespace PathRouter.Table

open Automaton

/-- The key of an entry that stands for every octet a variable reads. -/
def wildcard : UInt8 := 0xff

structure Sparse where
  rowOffsets : Packed
  keys : Array UInt8
  values : Packed
  accepted : Packed
  states : Nat
  routes : Nat
  deriving Repr, DecidableEq

namespace Sparse

def row (state : State) : List (UInt8 × Nat) :=
  match state.wildcardChild? with
  | some child =>
    (match state.slashChild? with
      | some next => [(slash, next)]
      | none => []) ++ [(wildcard, child)]
  | none => state.transitions

def offsets (start : Nat) : List (List (UInt8 × Nat)) → List Nat
  | [] => [start]
  | entries :: rest => start :: offsets (start + entries.length) rest

def build (states : Array State) (routes : Nat) : Except CapacityError Sparse :=
  let count := states.size
  let rows := states.toList.map row
  let entries := rows.flatten
  let packed : Option (Packed × Packed × Packed) := do
    let accepted ← Packed.ofList? (states.toList.map fun state => state.accepts.getD routes) routes
    let rowOffsets ← Packed.ofList? (offsets 0 rows) entries.length
    let values ← Packed.ofList? (entries.map (·.2)) (count - 1)
    some (rowOffsets, values, accepted)
  match packed with
  | none => .error ⟨count, routes⟩
  | some (rowOffsets, values, accepted) => .ok {
      rowOffsets := rowOffsets
      keys := (entries.map (·.1)).toArray
      values := values
      accepted := accepted
      states := count
      routes := routes }

def entryCount (m : Sparse) : Nat :=
  m.keys.size

def octets (m : Sparse) : Nat :=
  m.rowOffsets.octets + m.keys.size + m.values.octets + m.accepted.octets

/-- Where the entry for an octet stands among the `count` entries from `start`: the first one with that
key, or else a wildcard at the very end. The outer `none` means that a read fell outside the keys. -/
def find? (m : Sparse) (b : UInt8) (start : Nat) : Nat → Option (Option Nat)
  | 0 => some none
  | count + 1 =>
    match m.keys[start]? with
    | none => none
    | some key =>
      if key = b || (count = 0 && key = wildcard && b ≠ slash) then some (some start)
      else m.find? b (start + 1) count

/-- The state after an octet. The outer `none` means that a read fell outside the arrays. -/
def next? (m : Sparse) (state : Nat) (b : UInt8) : Option (Option Nat) := do
  let start ← m.rowOffsets.get? state
  let stop ← m.rowOffsets.get? (state + 1)
  match ← m.find? b start (stop - start) with
  | none => some none
  | some entry => (m.values.get? entry).map some

/-- The route that octets lead to from a state. The outer `none` means that a read fell outside the
arrays. -/
def runFrom? (m : Sparse) (state : Nat) : List UInt8 → Option (Option Nat)
  | [] => (m.accepted.get? state).map fun route => if route < m.routes then some route else none
  | b :: rest =>
    if isPathOctet b then
      match m.next? state b with
      | none => none
      | some none => some none
      | some (some next) => m.runFrom? next rest
    else some none

def run? (m : Sparse) (path : List UInt8) : Option (Option Nat) :=
  m.runFrom? 0 path.tail

inductive Flaw where
  | counts (states routes : Nat)
  | rowOffsets
  | rowsEnd (stop keys values : Nat)
  | reversedRow (state : Nat)
  | invalidKey (state : Nat) (key : UInt8)
  | unknownState
  | accepted
  deriving Repr, DecidableEq

def hexOctet (b : UInt8) : String :=
  String.ofList ['0', 'x', Digits.lower (b.toNat / 16), Digits.lower (b.toNat % 16)]

def Flaw.detail : Flaw → String
  | .counts states routes =>
    "csr machine has " ++ toString states ++ " states and " ++ toString routes ++ " routes"
  | .rowOffsets => "csr row offsets do not cover every state"
  | .rowsEnd stop keys values =>
    "csr rows end at " ++ toString stop ++ " but hold " ++ toString keys ++ " keys and " ++
      toString values ++ " values"
  | .reversedRow state => "csr row " ++ toString state ++ " is reversed"
  | .invalidKey state key => "csr row " ++ toString state ++ " has invalid key " ++ hexOctet key
  | .unknownState => "csr values reference an unknown state"
  | .accepted => "csr matches do not fit the route table"

/-- The first key of a row that is neither an octet of a path nor a wildcard in the row's last place. -/
def badKey? (keys : Array UInt8) (start stop : Nat) : Option UInt8 :=
  ((keys.extract start stop).toList.zipIdx start).findSome? fun (key, i) =>
    if isPathOctet key || (key = wildcard && i + 1 = stop) then none else some key

/-- The first flaw of `count` rows from the row of `state` on. The outer `none` means that a read fell
outside the row offsets. -/
def rowFlaw? (m : Sparse) (state : Nat) : Nat → Option (Option Flaw)
  | 0 => some none
  | count + 1 => do
    let start ← m.rowOffsets.get? state
    let stop ← m.rowOffsets.get? (state + 1)
    if stop < start then some (some (.reversedRow state))
    else
      match badKey? m.keys start stop with
      | some key => some (some (.invalidKey state key))
      | none => m.rowFlaw? (state + 1) count

/-- The first flaw of a table from elsewhere. The outer `none` means that a read fell outside the row
offsets. -/
def inspect? (m : Sparse) : Option (Option Flaw) :=
  if m.states = 0 || maxPacked < max m.states m.routes then some (some (.counts m.states m.routes))
  else if m.rowOffsets.size ≠ m.states + 1 then some (some .rowOffsets)
  else do
    let first ← m.rowOffsets.get? 0
    let last ← m.rowOffsets.get? m.states
    if first ≠ 0 then some (some .rowOffsets)
    else if m.keys.size ≠ m.values.size || last ≠ m.keys.size then
      some (some (.rowsEnd last m.keys.size m.values.size))
    else
      match ← m.rowFlaw? 0 m.states with
      | some flaw => some (some flaw)
      | none =>
        if m.values.toList.any (m.states ≤ ·) then some (some .unknownState)
        else if m.accepted.size ≠ m.states || m.accepted.toList.any (m.routes < ·) then
          some (some .accepted)
        else some none

def flaw? (m : Sparse) : Option Flaw :=
  m.inspect?.join

end Sparse

end PathRouter.Table
