import PathRouter.Engine
import PathRouter.Proofs.Table.Dense
import PathRouter.Proofs.Table.Validity

/-! Running a valid table over any octets reads within its arrays: the state in hand is always one of the
states, so its cell or row is there, and so is the next state. -/

namespace PathRouter

open Automaton

namespace Table

/-- Whether a run has read within the arrays and answered with one of so many routes, if with any. -/
def IsAnswer (routes : Nat) (answer : Option (Option Nat)) : Prop :=
  ∃ route, answer = some route ∧ ∀ r, route = some r → r < routes

lemma isAnswer_none (routes : Nat) : IsAnswer routes (some none) :=
  ⟨none, rfl, fun r h => (by cases h)⟩

lemma isAnswer_accepted {accepted : Packed} {state : Nat} (h : state < accepted.size) (routes : Nat) :
    IsAnswer routes ((accepted.get? state).map fun route => if route < routes then some route else none) := by
  obtain ⟨route, -, hroute⟩ := Packed.exists_get? h
  refine ⟨_, by rw [hroute, Option.map_some], fun r hr => ?_⟩
  obtain ⟨hlt, he⟩ := Option.ite_none_right_eq_some.mp hr
  exact Option.some.inj he ▸ hlt

namespace Dense

variable {m : Dense}

lemma Valid.exists_cell (h : m.Valid) {state : Nat} (hs : state < m.states) {b : UInt8} (hb : isPathOctet b = true) :
    ∃ next, m.table.get? (state * rowWidth + column b) = some next := by
  have hin : state * rowWidth + column b < m.table.size := by
    calc state * rowWidth + column b < state * rowWidth + rowWidth := Nat.add_lt_add_left (column_lt hb) _
      _ = (state + 1) * rowWidth := (Nat.succ_mul state rowWidth).symm
      _ ≤ m.states * rowWidth := Nat.mul_le_mul_right _ hs
      _ = m.table.size := h.table_size.symm
  obtain ⟨next, -, hnext⟩ := Packed.exists_get? hin
  exact ⟨next, hnext⟩

lemma Valid.runFrom?_isAnswer (h : m.Valid) (octets : List UInt8) {state : Nat} (hs : state < m.states) :
    IsAnswer m.routes (m.runFrom? state octets) := by
  induction octets generalizing state with
  | nil => exact isAnswer_accepted (h.accepted_size.symm ▸ hs) m.routes
  | cons b rest ih =>
    rw [runFrom?]
    by_cases hb : isPathOctet b = true
    · obtain ⟨next, hnext⟩ := h.exists_cell hs hb
      rw [if_pos hb, hnext]
      by_cases hlt : next < m.states
      · simpa only [if_pos hlt] using ih hlt
      · simpa only [if_neg hlt] using isAnswer_none m.routes
    · rw [if_neg hb]
      exact isAnswer_none m.routes

end Dense

namespace Sparse

variable {m : Sparse}

/-- No row starts or stops beyond the keys, since the rows follow one another and the last one stops there. -/
lemma Valid.offset_le (h : m.Valid) {state offset : Nat} (hs : state ≤ m.states)
    (ho : m.rowOffsets.get? state = some offset) : offset ≤ m.keys.size := by
  induction hn : m.states - state generalizing state offset with
  | zero =>
    obtain rfl : state = m.states := by omega
    exact Nat.le_of_eq (Option.some.inj (ho.symm.trans h.last))
  | succ n ih =>
    obtain ⟨start, stop, hstart, hstop, hle, -⟩ := h.rows state (by omega)
    obtain rfl := Option.some.inj (ho.symm.trans hstart)
    exact Nat.le_trans hle (ih (by omega) hstop (by omega))

lemma exists_find? (m : Sparse) (b : UInt8) {start count : Nat} (h : start + count ≤ m.keys.size) :
    ∃ found, m.find? b start count = some found ∧ ∀ j, found = some j → j < m.keys.size := by
  induction count generalizing start with
  | zero => exact ⟨none, rfl, fun j hj => (by cases hj)⟩
  | succ count ih =>
    have hlt : start < m.keys.size := by omega
    rw [find?, Array.getElem?_eq_getElem hlt]
    simp only
    split
    · exact ⟨some start, rfl, fun j hj => Option.some.inj hj ▸ hlt⟩
    · exact ih (by omega)

lemma Valid.exists_next? (h : m.Valid) {state : Nat} (hs : state < m.states) (b : UInt8) :
    ∃ verdict, m.next? state b = some verdict ∧ ∀ next, verdict = some next → next < m.states := by
  obtain ⟨start, stop, hstart, hstop, hle, -⟩ := h.rows state hs
  have hin : start + (stop - start) ≤ m.keys.size := by
    rw [Nat.add_sub_cancel' hle]
    exact h.offset_le hs hstop
  obtain ⟨found, hfound, hj⟩ := m.exists_find? b hin
  simp only [next?, hstart, hstop, hfound, Option.bind_eq_bind, Option.bind_some]
  cases found with
  | none => exact ⟨none, rfl, fun next hn => (by cases hn)⟩
  | some j =>
    obtain ⟨next, hmem, hnext⟩ := Packed.exists_get? (h.values_size.symm ▸ hj j rfl)
    refine ⟨some next, ?_, fun next' hn => Option.some.inj hn ▸ h.targets next hmem⟩
    simp only [hnext, Option.map_some]

lemma Valid.runFrom?_isAnswer (h : m.Valid) (octets : List UInt8) {state : Nat} (hs : state < m.states) :
    IsAnswer m.routes (m.runFrom? state octets) := by
  induction octets generalizing state with
  | nil => exact isAnswer_accepted (h.accepted_size.symm ▸ hs) m.routes
  | cons b rest ih =>
    rw [runFrom?]
    by_cases hb : isPathOctet b = true
    · obtain ⟨verdict, hv, hnext⟩ := h.exists_next? hs b
      rw [if_pos hb, hv]
      cases verdict with
      | none => exact isAnswer_none m.routes
      | some next => exact ih (hnext next rfl)
    · rw [if_neg hb]
      exact isAnswer_none m.routes

end Sparse

end Table

namespace Engine

open Table

lemma run?_isAnswer {engine : Engine} (h : engine.flaw? = none) (path : List UInt8) :
    IsAnswer engine.routes (engine.run? path) := by
  cases engine with
  | dense m =>
    have hv := (Dense.flaw?_eq_none_iff m).mp (Option.map_eq_none_iff.mp h)
    exact hv.runFrom?_isAnswer path.tail hv.nonempty
  | sparse m =>
    have hv := (Sparse.flaw?_eq_none_iff m).mp (Option.map_eq_none_iff.mp h)
    exact hv.runFrom?_isAnswer path.tail hv.nonempty

end Engine

end PathRouter
