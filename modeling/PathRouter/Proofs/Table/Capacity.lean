import PathRouter.Proofs.Table.Compilation

/-! How much the tables hold. Both layouts refuse more routes than a packed number can count; the dense one refuses as
many states, while the sparse one numbers its states from zero and so has room for one state more, with which it is
refused when it comes from elsewhere. -/

namespace PathRouter

open Automaton

namespace Table

@[simp] lemma Packed.octets_ofList (width : Width) (numbers : List Nat) :
    (ofList width numbers).octets = width.octets * numbers.length := by
  cases width <;> simp [ofList, octets, Packed.width, size]

lemma Packed.octets_of_ofList? {numbers : List Nat} {greatest : Nat} {p : Packed}
    (h : ofList? numbers greatest = some p) :
    ∃ width, Width.forMax? greatest = some width ∧ p.octets = width.octets * numbers.length := by
  obtain ⟨width, hw, rfl⟩ := Option.map_eq_some_iff.mp h
  exact ⟨width, hw, octets_ofList width numbers⟩

variable {states : Array State} {routes : Nat}

lemma Dense.octets_of_build {m : Dense} (h : Dense.build states routes = .ok m) :
    ∃ width, Width.forMax? (max states.size routes) = some width ∧
      m.octets = width.octets * ((rowWidth + 1) * states.size) := by
  obtain ⟨width, hw, rfl⟩ := build_eq_ok_iff.mp h
  refine ⟨width, hw, ?_⟩
  simp only [octets, Packed.octets_ofList, List.length_flatMap, length_row, List.map_const', List.sum_replicate_nat,
    List.length_map, Array.length_toList]
  rw [← Nat.mul_add, Nat.add_one_mul, Nat.mul_comm states.size]

namespace Sparse

variable {m : Sparse}

lemma entryCount_of_build (h : build states routes = .ok m) : m.entryCount = (entries states).length := by
  obtain ⟨_, _, _, -, -, -, rfl⟩ := build_eq_ok_iff.mp h
  exact List.length_map _

lemma octets_of_build (h : build states routes = .ok m) : ∃ accepted offset value,
    Width.forMax? routes = some accepted ∧ Width.forMax? (entries states).length = some offset ∧
    Width.forMax? (states.size - 1) = some value ∧
    m.octets = offset.octets * (states.size + 1) + (1 + value.octets) * (entries states).length +
      accepted.octets * states.size := by
  obtain ⟨_, _, _, haccepted, hoffsets, hvalues, rfl⟩ := build_eq_ok_iff.mp h
  obtain ⟨accepted, ha, haccepted⟩ := Packed.octets_of_ofList? haccepted
  obtain ⟨offset, ho, hoffsets⟩ := Packed.octets_of_ofList? hoffsets
  obtain ⟨value, hv, hvalues⟩ := Packed.octets_of_ofList? hvalues
  refine ⟨accepted, offset, value, ha, ho, hv, ?_⟩
  simp only [octets, haccepted, hoffsets, hvalues, length_offsets, List.length_map, Array.length_toList,
    List.size_toArray]
  rw [Nat.add_mul, Nat.one_mul, Nat.add_assoc (offset.octets * _)]

end Sparse

end Table

namespace Engine

open Table

variable {states : Array State} {routes : Nat}

/-- A table that was made here passes the inspection of tables from elsewhere, unless it is a sparse one with one
state more than numbers count. -/
theorem flaw?_eq_none_iff_of_compile {compress : Bool} {engine : Engine} (hw : WellFormed states routes)
    (h : compile states routes compress = .ok engine) : engine.flaw? = none ↔ states.size ≤ maxPacked := by
  rw [← states_of_compile hw h]
  refine ⟨fun hf => ?_, flaw?_of_compile hw h⟩
  cases engine with
  | dense m => exact (Nat.max_le.mp ((Dense.flaw?_eq_none_iff m).mp (Option.map_eq_none_iff.mp hf)).counts).1
  | sparse m => exact (Nat.max_le.mp ((Sparse.flaw?_eq_none_iff m).mp (Option.map_eq_none_iff.mp hf)).counts).1

end Engine

namespace Automaton

def unconnected (count : Nat) : Array State :=
  (Array.range count).map State.blank

lemma getElem?_unconnected {count i : Nat} {state : State} (h : (unconnected count)[i]? = some state) :
    state = .blank i := by
  rw [unconnected, Array.getElem?_map] at h
  obtain ⟨j, hj, rfl⟩ := Option.map_eq_some_iff.mp h
  obtain ⟨hi, rfl⟩ := Array.getElem?_eq_some_iff.mp hj
  rw [Array.getElem_range]

lemma wellFormed_unconnected {count : Nat} (h : 0 < count) (routes : Nat) :
    WellFormed (unconnected count) routes := by
  refine ⟨by simpa [unconnected] using h, fun i state hs => ?_, fun i state hs => ?_⟩
  · rw [getElem?_unconnected hs, State.blank]
  · rw [getElem?_unconnected hs]
    constructor <;> simp [State.blank]

@[simp] lemma entries_unconnected (count : Nat) : Table.Sparse.entries (unconnected count) = [] := by
  rw [Table.Sparse.entries, List.flatten_eq_nil_iff]
  intro row hr
  obtain ⟨state, hs, rfl⟩ := List.mem_map.mp hr
  obtain ⟨i, hi⟩ := List.mem_iff_getElem?.mp hs
  obtain rfl := getElem?_unconnected ((Array.getElem?_toList ..).symm.trans hi)
  rfl

end Automaton

namespace Engine

open Table

/-- The one count of states at which the layouts disagree about what they hold. -/
theorem compile_unconnected_succ : (∀ engine, compile (unconnected (maxPacked + 1)) 0 false ≠ .ok engine) ∧
    ∃ engine, compile (unconnected (maxPacked + 1)) 0 true = .ok engine ∧ engine.flaw? ≠ none := by
  have hsize : (unconnected (maxPacked + 1)).size = maxPacked + 1 := by simp [unconnected]
  have hlt : ¬ maxPacked + 1 ≤ maxPacked := Nat.not_succ_le_self _
  constructor
  · intro engine h
    have hle := exists_compile_dense_iff.mp ⟨engine, h⟩
    rw [hsize, Nat.max_zero] at hle
    exact hlt hle
  · obtain ⟨engine, h⟩ : ∃ engine, compile (unconnected (maxPacked + 1)) 0 true = .ok engine := by
      apply exists_compile_sparse_iff.mpr
      rw [entries_unconnected, hsize]
      exact ⟨Nat.le_of_eq (Nat.max_zero _), Nat.zero_le _⟩
    refine ⟨engine, h, fun hf => hlt ?_⟩
    rwa [flaw?_eq_none_iff_of_compile (wellFormed_unconnected (Nat.succ_pos _) 0) h, hsize] at hf

end Engine

end PathRouter
