import PathRouter.Engine.Transfer
import PathRouter.Proofs.Table.Validity

/-! An engine is read back from the value that it is written as, since the tags of its arrays keep their widths
and its counts are below the bound of counts. -/

namespace PathRouter

open Table

namespace Json

lemma natBelow?_ofNat {bound n : Nat} (h : n < bound) : (ofNat n).natBelow? bound = some n := by
  have hn : (0 : Int) ≤ n := Int.natCast_nonneg n
  simp [ofNat, natBelow?, hn, h]

lemma mapM_map_eq_some {α β γ : Type} {f : α → β} {g : β → Option γ} {k : α → γ} {items : List α}
    (h : ∀ a ∈ items, g (f a) = some (k a)) : (items.map f).mapM g = some (items.map k) := by
  induction items with
  | nil => rfl
  | cons a rest ih =>
    obtain ⟨ha, hrest⟩ := List.forall_mem_cons.mp h
    rw [List.map_cons, List.mapM_cons, ha, ih hrest]
    rfl

lemma mapM_natBelow? {bound : Nat} {numbers : List Nat} (h : ∀ n ∈ numbers, n < bound) :
    (numbers.map ofNat).mapM (natBelow? bound) = some numbers := by
  rw [mapM_map_eq_some fun n hn => natBelow?_ofNat (h n hn), List.map_id']

end Json

namespace Table.Packed

@[simp] lemma ofNumbers?_toList (p : Packed) : ofNumbers? p.width (.arr (p.toList.map Json.ofNat)) = some p := by
  simp only [ofNumbers?, Json.arr?, Json.mapM_natBelow? fun _ => lt_bound_of_mem, Option.bind_eq_bind,
    Option.bind_some, ofList_toList]

lemma ofJson?_toJson (p : Packed) : ofJson? p.toJson = some p := by
  have hp := ofNumbers?_toList p
  cases p <;> exact hp

end Table.Packed

namespace Engine

lemma lt_countBound {n : Nat} (h : n ≤ maxPacked) : n < countBound :=
  Nat.lt_of_le_of_lt h (by decide)

lemma partsOfJson?_dense {m : Dense} (h : m.Valid) : partsOfJson? (toJson (.dense m)) = some (.dense m) := by
  obtain ⟨hstates, hroutes⟩ := Nat.max_le.mp h.counts
  have hm : denseOfJson? (.obj [
      ("table", m.table.toJson),
      ("matches", m.accepted.toJson),
      ("state_count", .ofNat m.states),
      ("route_count", .ofNat m.routes)]) = some m := by
    simp [denseOfJson?, Json.fields?, Json.member?, Packed.ofJson?_toJson,
      Json.natBelow?_ofNat (lt_countBound hstates), Json.natBelow?_ofNat (lt_countBound hroutes)]
  rw [toJson, partsOfJson?, hm]
  rfl

lemma partsOfJson?_sparse {m : Sparse} (h : m.Valid) : partsOfJson? (toJson (.sparse m)) = some (.sparse m) := by
  obtain ⟨hstates, hroutes⟩ := Nat.max_le.mp h.counts
  have hkeys : (m.keys.toList.map fun key => Json.ofNat key.toNat).mapM (Json.natBelow? 0x100) =
      some (m.keys.toList.map UInt8.toNat) :=
    Json.mapM_map_eq_some fun key _ => Json.natBelow?_ofNat key.toNat_lt
  have hm : sparseOfJson? (.obj [
      ("row_offsets", m.rowOffsets.toJson),
      ("keys", .arr (m.keys.toList.map fun key => .ofNat key.toNat)),
      ("values", m.values.toJson),
      ("matches", m.accepted.toJson),
      ("state_count", .ofNat m.states),
      ("route_count", .ofNat m.routes)]) = some m := by
    simp [sparseOfJson?, Json.fields?, Json.member?, Json.arr?, Packed.ofJson?_toJson, hkeys, Function.comp_def,
      Json.natBelow?_ofNat (lt_countBound hstates), Json.natBelow?_ofNat (lt_countBound hroutes)]
  rw [toJson, partsOfJson?, hm]
  rfl

lemma partsOfJson?_toJson {engine : Engine} (h : engine.flaw? = none) :
    partsOfJson? engine.toJson = some engine := by
  cases engine with
  | dense m => exact partsOfJson?_dense ((Dense.flaw?_eq_none_iff m).mp (Option.map_eq_none_iff.mp h))
  | sparse m => exact partsOfJson?_sparse ((Sparse.flaw?_eq_none_iff m).mp (Option.map_eq_none_iff.mp h))

end Engine

end PathRouter
