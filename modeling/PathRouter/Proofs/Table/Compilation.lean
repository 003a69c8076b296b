import PathRouter.Engine
import PathRouter.Proofs.Outcome
import PathRouter.Proofs.Table.Dense
import PathRouter.Proofs.Table.Sparse
import PathRouter.Proofs.Table.Validity

/-! Tables that are made of an automaton are valid, so they pass the inspection of tables from elsewhere. -/

namespace PathRouter

open Automaton

namespace Table

variable {states : Array State} {routes : Nat}

lemma accepts_le (hw : WellFormed states routes) :
    ∀ n ∈ states.toList.map (fun state => state.accepts.getD routes), n ≤ routes := by
  intro n hn
  obtain ⟨state, hs, rfl⟩ := List.mem_map.mp hn
  exact (hw.fits_of_mem hs).accepts_getD_le

lemma Dense.valid_of_build {m : Dense} (hw : WellFormed states routes) (hm : build states routes = .ok m) :
    m.Valid := by
  obtain ⟨hstates, hroutes, hcounts, htable, haccepted⟩ := build_reads hw hm
  refine ⟨?_, ?_, ?_, ?_, ?_, ?_⟩
  · exact hstates ▸ hw.nonempty
  · rwa [hstates, hroutes]
  · simp [← Packed.length_toList, htable, hstates, List.length_flatMap]
  · simp [← Packed.length_toList, haccepted, hstates]
  · rw [htable, hstates]
    intro n hn
    obtain ⟨state, hs, hn⟩ := List.mem_flatMap.mp hn
    exact row_le (hw.fits_of_mem hs) n hn
  · rw [haccepted, hroutes]
    exact accepts_le hw

namespace Sparse

variable {m : Sparse}

lemma row_key {state : State} (h : state.Fits states.size routes) {e : UInt8 × Nat} (he : e ∈ row state) :
    isPathOctet e.1 = true ∨ e.1 = wildcard := by
  exact (mem_row he).imp (h.octets e) fun hwild => hwild.1

lemma isRow_of_build (hw : WellFormed states routes) (hm : build states routes = .ok m) {i : Nat} {state : State}
    (hs : states[i]? = some state) : m.IsRow i := by
  obtain ⟨start, hstart, hstop, hkeys, -⟩ := exists_row hw hm hs
  refine ⟨start, _, hstart, hstop, Nat.le_add_right _ _, fun j key hj hlt hk => ?_⟩
  obtain ⟨k, rfl⟩ := Nat.exists_eq_add_of_le hj
  have hk' : k < (row state).length := Nat.add_lt_add_iff_left.mp hlt
  rw [hkeys k hk', List.getElem?_eq_getElem hk'] at hk
  obtain rfl := Option.some.inj hk
  have hfits := hw.fits i state hs
  refine (row_key hfits (List.getElem_mem hk')).imp_right fun hkey => ⟨hkey, ?_⟩
  -- A wildcard stands nowhere before the end of its row.
  by_contra hne
  have hbefore : k < (row state).dropLast.length := by
    rw [List.length_dropLast]
    omega
  have hmem : (row state)[k] ∈ (row state).dropLast := by
    rw [← List.getElem_dropLast hbefore]
    exact List.getElem_mem hbefore
  exact row_wildcard_last hfits _ hmem hkey

lemma valid_of_build (hw : WellFormed states routes) (hm : build states routes = .ok m)
    (hsize : states.size ≤ maxPacked) : m.Valid := by
  obtain ⟨hstates, hroutes, hmax, hkeys, hoffsets, hvalues, haccepted⟩ := build_reads hw hm
  have hlast : (states.toList.map row).take states.size = states.toList.map row :=
    List.take_of_length_le (by simp)
  refine ⟨?_, ?_, ?_, ?_, ?_, ?_, ?_, ?_, ?_, ?_⟩
  · exact hstates ▸ hw.nonempty
  · rw [hstates, hroutes]
    exact Nat.max_le.mpr ⟨hsize, hmax⟩
  · simp [← Packed.length_toList, hoffsets, hstates]
  · rw [Packed.get?_eq, hoffsets, getElem?_offsets 0 _ (Nat.zero_le _)]
    rfl
  · rw [Packed.get?_eq, hoffsets, hstates, getElem?_offsets 0 _ (by rw [List.length_map, Array.length_toList]), hlast,
      Nat.zero_add, ← Array.length_toList, hkeys, List.length_map]
  · rw [← Packed.length_toList, hvalues, ← Array.length_toList, hkeys, List.length_map, List.length_map]
  · intro i hi
    exact isRow_of_build hw hm (Array.getElem?_eq_getElem (hstates ▸ hi))
  · rw [hvalues, hstates]
    intro n hn
    obtain ⟨e, he, rfl⟩ := List.mem_map.mp hn
    exact rows_value_lt hw e he
  · simp [← Packed.length_toList, haccepted, hstates]
  · rw [haccepted, hroutes]
    exact accepts_le hw

end Sparse

end Table

namespace Engine

open Table

variable {states : Array State} {routes : Nat} {compress : Bool} {engine : Engine}

lemma compile_dense (states : Array State) (routes : Nat) :
    compile states routes false = (Dense.build states routes).map .dense :=
  rfl

lemma compile_sparse (states : Array State) (routes : Nat) :
    compile states routes true = (Sparse.build states routes).map .sparse :=
  rfl

lemma compile_eq_ok (h : compile states routes compress = .ok engine) :
    (compress = false ∧ ∃ m, Dense.build states routes = .ok m ∧ engine = .dense m) ∨
      (compress = true ∧ ∃ m, Sparse.build states routes = .ok m ∧ engine = .sparse m) := by
  cases compress with
  | false =>
    obtain ⟨m, hm, he⟩ := exists_of_map_eq_ok (compile_dense states routes ▸ h)
    exact .inl ⟨rfl, m, hm, he.symm⟩
  | true =>
    obtain ⟨m, hm, he⟩ := exists_of_map_eq_ok (compile_sparse states routes ▸ h)
    exact .inr ⟨rfl, m, hm, he.symm⟩

lemma compile_eq_error {e : CapacityError} (h : compile states routes compress = .error e) :
    e = ⟨states.size, routes⟩ := by
  cases compress with
  | false => exact Dense.build_eq_error (eq_error_of_map_eq_error (compile_dense states routes ▸ h))
  | true => exact Sparse.build_eq_error (eq_error_of_map_eq_error (compile_sparse states routes ▸ h))

lemma exists_compile_dense_iff :
    (∃ engine, compile states routes false = .ok engine) ↔ max states.size routes ≤ maxPacked := by
  rw [compile_dense, exists_map_eq_ok_iff, Dense.exists_build_iff]

lemma exists_compile_sparse_iff : (∃ engine, compile states routes true = .ok engine) ↔
    max (states.size - 1) routes ≤ maxPacked ∧ (Sparse.entries states).length ≤ maxPacked := by
  rw [compile_sparse, exists_map_eq_ok_iff, Sparse.exists_build_iff]

/-- Whether the tables of a layout have room for an automaton: the dense ones for its states and routes, the sparse
ones for the numbers of its states, which begin at zero, its routes and the entries of its rows. -/
def Holds (states : Array State) (routes : Nat) : Bool → Prop
  | false => max states.size routes ≤ maxPacked
  | true => max (states.size - 1) routes ≤ maxPacked ∧ (Sparse.entries states).length ≤ maxPacked

lemma exists_compile_iff : (∃ engine, compile states routes compress = .ok engine) ↔ Holds states routes compress := by
  cases compress with
  | false => exact exists_compile_dense_iff
  | true => exact exists_compile_sparse_iff

lemma holds_of_le (hw : WellFormed states routes) (h : max (pathOctets.length * states.size) routes ≤ maxPacked)
    (compress : Bool) : Holds states routes compress := by
  rw [← exists_compile_iff]
  cases compress with
  | false =>
    obtain ⟨hsize, hroutes⟩ := Nat.max_le.mp h
    have hle : states.size ≤ pathOctets.length * states.size := Nat.le_mul_of_pos_left _ (by decide)
    exact exists_compile_dense_iff.mpr (Nat.max_le.mpr ⟨Nat.le_trans hle hsize, hroutes⟩)
  | true =>
    rw [compile_sparse, exists_map_eq_ok_iff]
    exact Sparse.exists_build hw h

lemma states_of_compile (hw : WellFormed states routes) (h : compile states routes compress = .ok engine) :
    engine.states = states.size := by
  obtain ⟨-, m, hm, rfl⟩ | ⟨-, m, hm, rfl⟩ := compile_eq_ok h
  · exact (Dense.build_reads hw hm).1
  · exact (Sparse.build_reads hw hm).1

lemma routes_of_compile (hw : WellFormed states routes) (h : compile states routes compress = .ok engine) :
    engine.routes = routes := by
  obtain ⟨-, m, hm, rfl⟩ | ⟨-, m, hm, rfl⟩ := compile_eq_ok h
  · exact (Dense.build_reads hw hm).2.1
  · exact (Sparse.build_reads hw hm).2.1

lemma flaw?_of_compile (hw : WellFormed states routes) (h : compile states routes compress = .ok engine)
    (hsize : engine.states ≤ maxPacked) : engine.flaw? = none := by
  obtain ⟨-, m, hm, rfl⟩ | ⟨-, m, hm, rfl⟩ := compile_eq_ok h
  · exact Option.map_eq_none_iff.mpr ((Dense.flaw?_eq_none_iff m).mpr (Dense.valid_of_build hw hm))
  · have hstates : m.states = states.size := (Sparse.build_reads hw hm).1
    exact Option.map_eq_none_iff.mpr
      ((Sparse.flaw?_eq_none_iff m).mpr (Sparse.valid_of_build hw hm (hstates ▸ hsize)))

end Engine

end PathRouter
