import PathRouter.Engine
import PathRouter.Json

/-!
Engines as JSON values, and back. An engine that is read must have the right form, and its arrays must
fit together.
-/

namespace PathRouter

open Table

namespace Table.Packed

def toJson (p : Packed) : Json :=
  let numbers : Json := .arr (p.toList.map Json.ofNat)
  match p with
  | .u8 _ => .obj [("U8", numbers)]
  | .u16 _ => .obj [("U16", numbers)]
  | .u32 _ => .obj [("U32", numbers)]

def ofNumbers? (width : Width) (numbers : Json) : Option Packed := do
  let items ← numbers.arr?
  let values ← items.mapM (Json.natBelow? width.bound)
  some (ofList width values)

def ofJson? : Json → Option Packed
  | .obj [("U8", numbers)] => ofNumbers? .u8 numbers
  | .obj [("U16", numbers)] => ofNumbers? .u16 numbers
  | .obj [("U32", numbers)] => ofNumbers? .u32 numbers
  | _ => none

end Table.Packed

namespace Engine

def countBound : Nat := 0x10000000000000000

def toJson : Engine → Json
  | .dense m => .obj [("Dense", .obj [
      ("table", m.table.toJson),
      ("matches", m.accepted.toJson),
      ("state_count", .ofNat m.states),
      ("route_count", .ofNat m.routes)])]
  | .sparse m => .obj [("Csr", .obj [
      ("row_offsets", m.rowOffsets.toJson),
      ("keys", .arr (m.keys.toList.map fun key => .ofNat key.toNat)),
      ("values", m.values.toJson),
      ("matches", m.accepted.toJson),
      ("state_count", .ofNat m.states),
      ("route_count", .ofNat m.routes)])]

def denseOfJson? (j : Json) : Option Dense := do
  match ← j.fields? ["table", "matches", "state_count", "route_count"] 4 false with
  | [some table, some accepted, some states, some routes] =>
    some {
      table := ← Packed.ofJson? table
      accepted := ← Packed.ofJson? accepted
      states := ← states.natBelow? countBound
      routes := ← routes.natBelow? countBound }
  | _ => none

def sparseOfJson? (j : Json) : Option Sparse := do
  match ← j.fields? ["row_offsets", "keys", "values", "matches", "state_count", "route_count"] 6
      false with
  | [some rowOffsets, some keys, some values, some accepted, some states, some routes] =>
    some {
      rowOffsets := ← Packed.ofJson? rowOffsets
      keys := ((← (← keys.arr?).mapM (Json.natBelow? 0x100)).map UInt8.ofNat).toArray
      values := ← Packed.ofJson? values
      accepted := ← Packed.ofJson? accepted
      states := ← states.natBelow? countBound
      routes := ← routes.natBelow? countBound }
  | _ => none

def partsOfJson? : Json → Option Engine
  | .obj [("Dense", parts)] => (denseOfJson? parts).map .dense
  | .obj [("Csr", parts)] => (sparseOfJson? parts).map .sparse
  | _ => none

end Engine

end PathRouter
