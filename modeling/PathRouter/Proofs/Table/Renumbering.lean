import PathRouter.Proofs.Automaton.Isomorphism
import PathRouter.Proofs.Table.Capacity

/-! Tables of isomorphic automata. Renumbering keeps the length of every row, so the tables of one layout are both made
or both refused, and have the same measures. -/

namespace PathRouter

open Automaton

variable {f σ : Nat → Nat} {states states' : Array State} {routes : Nat}

namespace Table.Sparse

lemma row_renumber {state : State} {count : Nat} (h : state.Fits count routes) (hf : Set.InjOn f (Set.Iio count)) :
    row (state.renumber f σ) = (row state).map fun e => (e.1, f e.2) := by
  rw [row, row, State.wildcardChild?_renumber h hf, State.slashChild?, State.slashChild?, State.next?_renumber]
  cases state.wildcardChild? with
  | none => rfl
  | some child => cases state.next? slash <;> rfl

lemma length_entries_of_isIsomorphism (h : IsIsomorphism f σ states states') (hw : WellFormed states routes)
    (hw' : WellFormed states' routes) : (entries states').length = (entries states).length := by
  have hrows : ((states.toList.map (·.renumber f σ)).map row).map List.length =
      (states.toList.map row).map List.length := by
    rw [List.map_map, List.map_map, List.map_map]
    apply List.map_congr_left
    intro state hs
    simp only [Function.comp_apply, row_renumber (hw.fits_of_mem hs) h.bijOn.injOn, List.length_map]
  have hperm := ((h.toList_perm hw hw').map row).map List.length
  rw [entries, entries, List.length_flatten, List.length_flatten, hperm.sum_eq, hrows]

end Table.Sparse

namespace Engine

open Table

/-- Whether two engines have the same layout, and tables of it with as many states, routes, entries and octets. -/
def SameMeasures : Engine → Engine → Prop
  | .dense m, .dense m' => m'.states = m.states ∧ m'.routes = m.routes ∧ m'.octets = m.octets
  | .sparse m, .sparse m' =>
    m'.states = m.states ∧ m'.routes = m.routes ∧ m'.entryCount = m.entryCount ∧ m'.octets = m.octets
  | _, _ => False

variable (h : IsIsomorphism f σ states states') (hw : WellFormed states routes) (hw' : WellFormed states' routes)
  {compress : Bool}
include h hw hw'

lemma exists_compile_iff_of_isIsomorphism :
    (∃ engine, compile states routes compress = .ok engine) ↔
      ∃ engine, compile states' routes compress = .ok engine := by
  cases compress with
  | false => rw [exists_compile_dense_iff, exists_compile_dense_iff, h.size_eq]
  | true =>
    rw [exists_compile_sparse_iff, exists_compile_sparse_iff, h.size_eq,
      Sparse.length_entries_of_isIsomorphism h hw hw']

lemma sameMeasures_of_isIsomorphism {engine engine' : Engine} (hc : compile states routes compress = .ok engine)
    (hc' : compile states' routes compress = .ok engine') : SameMeasures engine engine' := by
  have hsize := h.size_eq
  have hentries := Sparse.length_entries_of_isIsomorphism h hw hw'
  obtain ⟨rfl, m, hm, rfl⟩ | ⟨rfl, m, hm, rfl⟩ := compile_eq_ok hc <;>
    obtain ⟨hcompress, m', hm', rfl⟩ | ⟨hcompress, m', hm', rfl⟩ := compile_eq_ok hc' <;>
      cases hcompress
  · obtain ⟨hstates, hroutes, -⟩ := Dense.build_reads hw hm
    obtain ⟨hstates', hroutes', -⟩ := Dense.build_reads hw' hm'
    obtain ⟨width, hwidth, hoctets⟩ := Dense.octets_of_build hm
    obtain ⟨width', hwidth', hoctets'⟩ := Dense.octets_of_build hm'
    rw [hsize, hwidth] at hwidth'
    obtain rfl := Option.some.inj hwidth'
    exact ⟨by rw [hstates', hstates, hsize], by rw [hroutes', hroutes], by rw [hoctets', hoctets, hsize]⟩
  · obtain ⟨hstates, hroutes, -⟩ := Sparse.build_reads hw hm
    obtain ⟨hstates', hroutes', -⟩ := Sparse.build_reads hw' hm'
    refine ⟨by rw [hstates', hstates, hsize], by rw [hroutes', hroutes], ?_, ?_⟩
    · rw [Sparse.entryCount_of_build hm, Sparse.entryCount_of_build hm', hentries]
    · obtain ⟨accepted, offset, value, ha, ho, hv, hoctets⟩ := Sparse.octets_of_build hm
      obtain ⟨accepted', offset', value', ha', ho', hv', hoctets'⟩ := Sparse.octets_of_build hm'
      rw [hsize, hv] at hv'
      rw [hentries, ho] at ho'
      rw [ha] at ha'
      obtain rfl := Option.some.inj hv'
      obtain rfl := Option.some.inj ho'
      obtain rfl := Option.some.inj ha'
      rw [hoctets', hoctets, hsize, hentries]

end Engine

end PathRouter
