import PathRouter.Proofs.Table.Packed
import PathRouter.Table.Sparse

/-! What the inspection of a table from elsewhere promises. A table without flaw is one whose counts, arrays
and rows fit together, and no inspection reads outside the arrays, however badly they fit. -/

namespace PathRouter.Table

open Automaton

lemma ite_eq_iff_of_ne {α : Type} {p : Prop} [Decidable p] {a b x : α} (h : a ≠ b) :
    (if p then a else x) = b ↔ ¬ p ∧ x = b := by
  by_cases hp : p
  · simp [hp, h]
  · simp [hp]

namespace Dense

/-- A table of as many cells and accepting entries as its states need, all within its counts. -/
structure Valid (m : Dense) : Prop where
  nonempty : 0 < m.states
  counts : max m.states m.routes ≤ maxPacked
  table_size : m.table.size = m.states * rowWidth
  accepted_size : m.accepted.size = m.states
  targets : ∀ n ∈ m.table.toList, n ≤ m.states
  accepted_le : ∀ n ∈ m.accepted.toList, n ≤ m.routes

lemma flaw?_eq_none_iff (m : Dense) : m.flaw? = none ↔ m.Valid := by
  rw [flaw?]
  simp only [ite_eq_iff_of_ne (Option.some_ne_none _), Bool.or_eq_true, decide_eq_true_eq, not_or, Nat.not_lt,
    not_ne_iff, List.any_eq_true, not_exists, not_and, and_true]
  constructor
  · rintro ⟨⟨hpos, hcounts⟩, htable, haccepted, htargets, hle⟩
    exact ⟨Nat.pos_of_ne_zero hpos, hcounts, htable, haccepted, htargets, hle⟩
  · rintro ⟨hpos, hcounts, htable, haccepted, htargets, hle⟩
    exact ⟨⟨Nat.ne_of_gt hpos, hcounts⟩, htable, haccepted, htargets, hle⟩

end Dense

namespace Sparse

/-- Whether the row of a state lies within the keys from its start to its stop, and holds octets of paths and
at its end perhaps a wildcard. -/
def IsRow (m : Sparse) (state : Nat) : Prop :=
  ∃ start stop, m.rowOffsets.get? state = some start ∧ m.rowOffsets.get? (state + 1) = some stop ∧ start ≤ stop ∧
    ∀ (i : Nat) (key : UInt8), start ≤ i → i < stop → m.keys[i]? = some key →
      isPathOctet key = true ∨ key = wildcard ∧ i + 1 = stop

/-- A table whose rows cover its keys one after the other, with as many values, all within its counts. -/
structure Valid (m : Sparse) : Prop where
  nonempty : 0 < m.states
  counts : max m.states m.routes ≤ maxPacked
  offsets_size : m.rowOffsets.size = m.states + 1
  first : m.rowOffsets.get? 0 = some 0
  last : m.rowOffsets.get? m.states = some m.keys.size
  values_size : m.values.size = m.keys.size
  rows : ∀ state < m.states, m.IsRow state
  targets : ∀ n ∈ m.values.toList, n < m.states
  accepted_size : m.accepted.size = m.states
  accepted_le : ∀ n ∈ m.accepted.toList, n ≤ m.routes

lemma mem_zipIdx_extract (keys : Array UInt8) (start stop i : Nat) (key : UInt8) :
    (key, i) ∈ (keys.extract start stop).toList.zipIdx start ↔ start ≤ i ∧ i < stop ∧ keys[i]? = some key := by
  rw [List.mk_mem_zipIdx_iff_le_and_getElem?_sub, Array.getElem?_toList, Array.getElem?_extract]
  refine and_congr_right fun hi => ?_
  rw [Nat.add_sub_cancel' hi, Option.ite_none_right_eq_some]
  refine and_congr_left fun hk => ?_
  have hlt : i < keys.size := (Array.getElem?_eq_some_iff.mp hk).1
  omega

lemma badKey?_eq_none_iff (keys : Array UInt8) (start stop : Nat) :
    badKey? keys start stop = none ↔ ∀ (i : Nat) (key : UInt8), start ≤ i → i < stop → keys[i]? = some key →
      isPathOctet key = true ∨ key = wildcard ∧ i + 1 = stop := by
  have hkey : ∀ (i : Nat) (key : UInt8),
      (if isPathOctet key || (decide (key = wildcard) && decide (i + 1 = stop)) then none else some key) = none ↔
        isPathOctet key = true ∨ key = wildcard ∧ i + 1 = stop := fun i key => by
    rw [ite_eq_left_iff, ← Decidable.or_iff_not_imp_left]
    simp
  rw [badKey?, List.findSome?_eq_none_iff]
  constructor
  · intro h i key hi hstop hk
    exact (hkey i key).mp (h (key, i) ((mem_zipIdx_extract keys start stop i key).mpr ⟨hi, hstop, hk⟩))
  · rintro h ⟨key, i⟩ hm
    obtain ⟨hi, hstop, hk⟩ := (mem_zipIdx_extract keys start stop i key).mp hm
    exact (hkey i key).mpr (h i key hi hstop hk)

lemma isRow_iff {m : Sparse} {state start stop : Nat} (hstart : m.rowOffsets.get? state = some start)
    (hstop : m.rowOffsets.get? (state + 1) = some stop) :
    m.IsRow state ↔ start ≤ stop ∧ badKey? m.keys start stop = none := by
  rw [badKey?_eq_none_iff]
  constructor
  · rintro ⟨start', stop', hstart', hstop', h⟩
    obtain rfl := Option.some.inj (hstart.symm.trans hstart')
    obtain rfl := Option.some.inj (hstop.symm.trans hstop')
    exact h
  · exact fun h => ⟨start, stop, hstart, hstop, h⟩

lemma exists_rowFlaw? (m : Sparse) (state count : Nat) (h : state + count < m.rowOffsets.size) :
    ∃ verdict, m.rowFlaw? state count = some verdict ∧
      (verdict = none ↔ ∀ i, state ≤ i → i < state + count → m.IsRow i) := by
  induction count generalizing state with
  | zero => exact ⟨none, rfl, iff_of_true rfl fun i hi hlt => absurd hlt (Nat.not_lt.mpr hi)⟩
  | succ count ih =>
    obtain ⟨start, -, hstart⟩ := Packed.exists_get? (p := m.rowOffsets) (i := state) (by omega)
    obtain ⟨stop, -, hstop⟩ := Packed.exists_get? (p := m.rowOffsets) (i := state + 1) (by omega)
    have hrow := isRow_iff hstart hstop
    simp only [rowFlaw?, hstart, hstop, Option.bind_eq_bind, Option.bind_some]
    by_cases hle : start ≤ stop
    · rw [if_neg (Nat.not_lt.mpr hle)]
      cases hkeys : badKey? m.keys start stop with
      | some key =>
        refine ⟨_, rfl, iff_of_false (Option.some_ne_none _) fun hall => ?_⟩
        have hnone := (hrow.mp (hall state (Nat.le_refl _) (by omega))).2
        rw [hkeys] at hnone
        cases hnone
      | none =>
        obtain ⟨verdict, hv, hrest⟩ := ih (state + 1) (by omega)
        refine ⟨verdict, hv, hrest.trans ⟨fun hall i hi hlt => ?_, fun hall i hi hlt => hall i (by omega) (by omega)⟩⟩
        rcases Nat.eq_or_lt_of_le hi with rfl | hi
        · exact hrow.mpr ⟨hle, hkeys⟩
        · exact hall i hi (by omega)
    · rw [if_pos (Nat.not_le.mp hle)]
      refine ⟨_, rfl, iff_of_false (Option.some_ne_none _) fun hall => ?_⟩
      exact hle (hrow.mp (hall state (Nat.le_refl _) (by omega))).1

lemma exists_ends {m : Sparse} (h : m.rowOffsets.size = m.states + 1) :
    ∃ first last verdict, m.rowOffsets.get? 0 = some first ∧ m.rowOffsets.get? m.states = some last ∧
      m.rowFlaw? 0 m.states = some verdict ∧ (verdict = none ↔ ∀ state < m.states, m.IsRow state) := by
  obtain ⟨first, -, hfirst⟩ := Packed.exists_get? (p := m.rowOffsets) (i := 0) (by omega)
  obtain ⟨last, -, hlast⟩ := Packed.exists_get? (p := m.rowOffsets) (i := m.states) (by omega)
  obtain ⟨verdict, hv, hrows⟩ := m.exists_rowFlaw? 0 m.states (by omega)
  refine ⟨first, last, verdict, hfirst, hlast, hv, hrows.trans ?_⟩
  simp only [Nat.zero_le, Nat.zero_add, true_implies]

lemma exists_inspect? (m : Sparse) : ∃ verdict, m.inspect? = some verdict := by
  rw [inspect?]
  by_cases hsize : m.rowOffsets.size = m.states + 1
  · obtain ⟨first, last, verdict, hfirst, hlast, hv, -⟩ := exists_ends hsize
    simp only [hfirst, hlast, hv, Option.bind_eq_bind, Option.bind_some]
    cases verdict <;> split_ifs <;> exact ⟨_, rfl⟩
  · rw [if_pos hsize]
    split_ifs <;> exact ⟨_, rfl⟩

lemma inspect?_eq_none_iff (m : Sparse) : m.inspect? = some none ↔ m.Valid := by
  have hne : ∀ flaw : Flaw, some (some flaw) ≠ some (none : Option Flaw) := fun flaw => by simp
  rw [inspect?, ite_eq_iff_of_ne (hne _), ite_eq_iff_of_ne (hne _)]
  simp only [Bool.or_eq_true, decide_eq_true_eq, not_or, Nat.not_lt, not_ne_iff]
  constructor
  · rintro ⟨⟨hpos, hcounts⟩, hsize, h⟩
    obtain ⟨first, last, verdict, hfirst, hlast, hv, hrows⟩ := exists_ends hsize
    simp only [hfirst, hlast, hv, Option.bind_eq_bind, Option.bind_some, ite_eq_iff_of_ne (hne _)] at h
    obtain ⟨hzero, hkeys, h⟩ := h
    rw [not_or, not_ne_iff, not_ne_iff] at hkeys
    obtain rfl := not_ne_iff.mp hzero
    cases verdict with
    | some flaw => exact absurd h (hne flaw)
    | none =>
      simp only [ite_eq_iff_of_ne (hne _), not_or, not_ne_iff, List.any_eq_true, decide_eq_true_eq, not_exists,
        not_and, Nat.not_le, Nat.not_lt, and_true] at h
      obtain ⟨htargets, hsize', haccepted⟩ := h
      exact ⟨Nat.pos_of_ne_zero hpos, hcounts, hsize, hfirst, hkeys.2 ▸ hlast, hkeys.1.symm, hrows.mp rfl, htargets,
        hsize', haccepted⟩
  · intro h
    obtain ⟨first, last, verdict, hfirst, hlast, hv, hrows⟩ := exists_ends h.offsets_size
    refine ⟨⟨Nat.ne_of_gt h.nonempty, h.counts⟩, h.offsets_size, ?_⟩
    obtain rfl := Option.some.inj (hfirst.symm.trans h.first)
    obtain rfl := Option.some.inj (hlast.symm.trans h.last)
    obtain rfl := hrows.mpr h.rows
    simp only [hfirst, hlast, hv, Option.bind_eq_bind, Option.bind_some, ite_eq_iff_of_ne (hne _)]
    simp only [ne_eq, not_true_eq_false, or_false, not_or, not_not, List.any_eq_true, decide_eq_true_eq, not_exists,
      not_and, Nat.not_le, Nat.not_lt, and_true, true_and, not_false_eq_true]
    exact ⟨h.values_size.symm, h.targets, h.accepted_size, h.accepted_le⟩

lemma flaw?_eq_none_iff (m : Sparse) : m.flaw? = none ↔ m.Valid := by
  obtain ⟨verdict, hv⟩ := m.exists_inspect?
  rw [← inspect?_eq_none_iff, flaw?, hv, Option.join_some, Option.some.injEq]

end Sparse

end PathRouter.Table
