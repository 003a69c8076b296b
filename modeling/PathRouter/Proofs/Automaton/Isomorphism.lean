import Mathlib.Data.Set.Card
import Mathlib.Order.Interval.Set.Nat
import PathRouter.Proofs.Automaton.WellFormed

/-! Automata that are the same but for the numbers of their states and routes. Octets lead in both to states of one
another, and so to the same answers. -/

namespace PathRouter.Automaton

def State.renumber (f σ : Nat → Nat) (state : State) : State :=
  ⟨f state.id, state.transitions.map fun t => (t.1, f t.2), state.accepts.map σ⟩

/-- Whether the states of two automata correspond one to one, the start states to each other, such that
corresponding states have transitions by the same octets to corresponding states and accept corresponding routes. -/
structure IsIsomorphism (f σ : Nat → Nat) (states states' : Array State) : Prop where
  bijOn : Set.BijOn f (Set.Iio states.size) (Set.Iio states'.size)
  start : f 0 = 0
  renumbered : ∀ (i : Nat) (state : State), states[i]? = some state → states'[f i]? = some (state.renumber f σ)

namespace State

variable {f σ : Nat → Nat} {state : State}

@[simp] lemma next?_renumber (f σ : Nat → Nat) (state : State) (b : UInt8) :
    (state.renumber f σ).next? b = (state.next? b).map f := by
  simp only [next?, renumber, List.find?_map, Option.map_map]
  rfl

lemma wildcardChild?_renumber {states routes : Nat} (h : state.Fits states routes) (hf : Set.InjOn f (Set.Iio states)) :
    (state.renumber f σ).wildcardChild? = state.wildcardChild?.map f := by
  have hfilter : ((state.renumber f σ).transitions.filter fun t => t.1 ≠ slash).map (·.2) =
      ((state.transitions.filter fun t => t.1 ≠ slash).map (·.2)).map f := by
    rw [renumber, List.filter_map, List.map_map, List.map_map]
    rfl
  have htarget : ∀ n ∈ (state.transitions.filter fun t => t.1 ≠ slash).map (·.2), n < states := by
    intro n hn
    obtain ⟨t, ht, rfl⟩ := List.mem_map.mp hn
    exact h.targets t (List.mem_filter.mp ht).1
  rw [wildcardChild?, wildcardChild?, hfilter]
  cases hl : (state.transitions.filter fun t => t.1 ≠ slash).map (·.2) with
  | nil => rfl
  | cons child others =>
    rw [hl] at htarget
    obtain ⟨hchild, hothers⟩ := List.forall_mem_cons.mp htarget
    -- Targets are distinct after renumbering if they were before.
    have hall : (others.map f).all (· = f child) = others.all (· = child) := by
      rw [List.all_map, Bool.eq_iff_iff, List.all_eq_true, List.all_eq_true]
      apply forall₂_congr
      intro n hn
      rw [Function.comp_apply, decide_eq_true_iff, decide_eq_true_iff]
      exact hf.eq_iff (hothers n hn) hchild
    rw [List.map_cons]
    dsimp only
    rw [hall, List.length_map]
    split <;> rfl

end State

namespace WellFormed

variable {states : Array State} {routes : Nat} (h : WellFormed states routes)
include h

lemma map_id : states.toList.map State.id = List.range states.size := by
  apply List.ext_getElem?
  intro i
  rw [List.getElem?_map, Array.getElem?_toList]
  cases hs : states[i]? with
  | none => simpa using hs
  | some state =>
    have hi := (Array.getElem?_eq_some_iff.mp hs).1
    rw [List.getElem?_range hi, Option.map_some, h.numbered i state hs]

lemma nodup : states.toList.Nodup := by
  apply List.Nodup.of_map State.id
  rw [h.map_id]
  exact List.nodup_range

end WellFormed

namespace IsIsomorphism

variable {f σ : Nat → Nat} {states states' : Array State} {routes : Nat} (h : IsIsomorphism f σ states states')
include h

lemma size_eq : states'.size = states.size := by
  have hcard := h.bijOn.injOn.ncard_image
  rw [h.bijOn.image_eq] at hcard
  simpa using hcard

variable (hw : WellFormed states routes)
include hw

lemma answer?_eq (w : List UInt8) {i : Nat} (hi : i < states.size) :
    answer? states' (f i) w = (answer? states i w).map σ := by
  induction w generalizing i with
  | nil =>
    have hs := Array.getElem?_eq_getElem hi
    simp [hs, h.renumbered i _ hs, State.renumber]
  | cons b rest ih =>
    have hs := Array.getElem?_eq_getElem hi
    have hfits := hw.fits i _ hs
    simp only [answer?_cons, hs, h.renumbered i _ hs, Option.bind_some, State.next?_renumber]
    cases hn : states[i].next? b with
    | none => rfl
    | some next => exact ih (hfits.next?_lt hn)

lemma route?_eq (path : List UInt8) : route? states' path = (route? states path).map σ := by
  have ha := h.answer?_eq hw path.tail hw.nonempty
  rwa [h.start] at ha

lemma toList_perm (hw' : WellFormed states' routes) :
    states'.toList.Perm (states.toList.map (·.renumber f σ)) := by
  have hnodup : (states.toList.map (·.renumber f σ)).Nodup := by
    apply List.Nodup.of_map State.id
    have hids : (states.toList.map (·.renumber f σ)).map State.id = (List.range states.size).map f := by
      rw [← hw.map_id, List.map_map, List.map_map]
      rfl
    rw [hids]
    exact List.nodup_range.map_on fun i hi j hj => h.bijOn.injOn (List.mem_range.mp hi) (List.mem_range.mp hj)
  apply (List.perm_ext_iff_of_nodup hw'.nodup hnodup).mpr
  intro state'
  rw [List.mem_map, Array.mem_toList_iff, Array.mem_iff_getElem?]
  constructor
  · rintro ⟨j, hj⟩
    obtain ⟨i, hi, rfl⟩ := h.bijOn.surjOn (Array.getElem?_eq_some_iff.mp hj).1
    have hs := Array.getElem?_eq_getElem hi
    rw [h.renumbered i _ hs] at hj
    exact ⟨states[i], Array.mem_toList_iff.mpr (Array.getElem_mem hi), Option.some.inj hj⟩
  · rintro ⟨state, hm, rfl⟩
    obtain ⟨i, hs⟩ := Array.mem_iff_getElem?.mp (Array.mem_toList_iff.mp hm)
    exact ⟨f i, h.renumbered i state hs⟩

end IsIsomorphism

end PathRouter.Automaton
