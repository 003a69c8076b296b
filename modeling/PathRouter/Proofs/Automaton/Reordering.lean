import Mathlib.Data.List.Perm.Basic
import Mathlib.Logic.Equiv.Basic
import PathRouter.Proofs.Automaton.Isomorphism
import PathRouter.Proofs.Automaton.Representation

/-! The order of the routes. In another order the octets of a path reach the same items under other numbers of their
routes, so the states of the two automata correspond: to the state that octets lead to in one of them corresponds
the state that they lead to in the other. -/

namespace PathRouter

/-- Whether one list has the entries of another in the order that a permutation of their numbers says. -/
def Reorders {α : Type} (σ : Equiv.Perm Nat) (l l' : Array α) : Prop :=
  ∀ i, l'[σ i]? = l[i]?

namespace Reorders

variable {α β : Type} {σ : Equiv.Perm Nat} {l l' : Array α}

lemma symm (h : Reorders σ l l') : Reorders σ.symm l' l := fun i => by
  rw [← h, Equiv.apply_symm_apply]

lemma map (h : Reorders σ l l') (g : α → β) : Reorders σ (l.map g) (l'.map g) := fun i => by
  rw [Array.getElem?_map, Array.getElem?_map, h]

lemma lt_size_iff (h : Reorders σ l l') {i : Nat} : σ i < l'.size ↔ i < l.size := by
  rw [← not_iff_not, Nat.not_lt, Nat.not_lt, ← Array.getElem?_eq_none_iff, ← Array.getElem?_eq_none_iff, h]

lemma map_getElem?_range (l : List α) : (List.range l.length).map (l[·]?) = l.map some := by
  apply List.ext_getElem?
  intro i
  by_cases hi : i < l.length
  · simp [hi]
  · simp [hi]

def underHead (σ : Equiv.Perm Nat) : Equiv.Perm Nat where
  toFun
    | 0 => 0
    | i + 1 => σ i + 1
  invFun
    | 0 => 0
    | i + 1 => σ.symm i + 1
  left_inv i := by cases i <;> simp
  right_inv i := by cases i <;> simp

lemma exists_getElem?_of_perm {l l' : List α} (h : l.Perm l') :
    ∃ σ : Equiv.Perm Nat, ∀ i : Nat, l'[σ i]? = l[i]? := by
  induction h with
  | nil => exact ⟨Equiv.refl Nat, fun _ => rfl⟩
  | cons a _ ih =>
    obtain ⟨σ, h⟩ := ih
    refine ⟨underHead σ, fun i => ?_⟩
    cases i with
    | zero => rfl
    | succ i => exact h i
  | swap a b l =>
    refine ⟨Equiv.swap 0 1, fun i => ?_⟩
    rcases i with _ | _ | i
    · rfl
    · rfl
    · rw [Equiv.swap_apply_of_ne_of_ne (by omega) (by omega)]
      rfl
  | trans _ _ ih ih' =>
    obtain ⟨σ, h⟩ := ih
    obtain ⟨τ, h'⟩ := ih'
    exact ⟨σ.trans τ, fun i => (h' (σ i)).trans (h i)⟩

lemma exists_of_perm (h : l.toList.Perm l'.toList) : ∃ σ, Reorders σ l l' := by
  obtain ⟨σ, hσ⟩ := exists_getElem?_of_perm h
  exact ⟨σ, fun i => by simpa only [Array.getElem?_toList] using hσ i⟩

lemma perm (h : Reorders σ l l') : l.toList.Perm l'.toList := by
  have hrange : ((List.range l.size).map σ).Perm (List.range l'.size) := by
    apply (List.perm_ext_iff_of_nodup (List.nodup_range.map σ.injective) List.nodup_range).mpr
    intro j
    rw [List.mem_map, List.mem_range]
    constructor
    · rintro ⟨i, hi, rfl⟩
      exact h.lt_size_iff.mpr (List.mem_range.mp hi)
    · intro hj
      exact ⟨σ.symm j, List.mem_range.mpr (h.symm.lt_size_iff.mpr hj), σ.apply_symm_apply j⟩
  apply (List.map_perm_map_iff (Option.some_injective α)).mp
  rw [← map_getElem?_range, ← map_getElem?_range, Array.length_toList, Array.length_toList]
  have hmap : (List.range l.size).map (l.toList[·]?) = ((List.range l.size).map σ).map (l'.toList[·]?) := by
    rw [List.map_map]
    apply List.map_congr_left
    intro i _
    rw [Function.comp_apply, Array.getElem?_toList, Array.getElem?_toList, h]
  rw [hmap]
  exact hrange.map _

lemma size_eq (h : Reorders σ l l') : l'.size = l.size :=
  h.perm.length_eq.symm

end Reorders

namespace Automaton

def Item.renumber (σ : Nat → Nat) (item : Item) : Item :=
  { item with route := σ item.route }

namespace Item

lemma renumber_injective (σ : Equiv.Perm Nat) : Function.Injective (renumber σ) := by
  rintro ⟨r, i, o⟩ ⟨r', i', o'⟩ h
  simpa [renumber] using h

lemma renumber_surjective (σ : Equiv.Perm Nat) : Function.Surjective (renumber σ) :=
  fun item => ⟨item.renumber σ.symm, by simp [renumber]⟩

variable (σ : Nat → Nat) (item : Item) (segments : List Segment)

lemma outlook_renumber (atStart : Bool) : (item.renumber σ).outlook segments atStart =
    ⟨(item.outlook segments atStart).moves.map fun m => (m.1, m.2.renumber σ),
      (item.outlook segments atStart).accepts⟩ := by
  have hend : ∀ segment next, (item.renumber σ).atSegmentEnd segment next =
      ⟨(item.atSegmentEnd segment next).moves.map fun m => (m.1, m.2.renumber σ),
        (item.atSegmentEnd segment next).accepts⟩ := by
    intro segment next
    cases next with
    | some next => rfl
    | none => cases hq : segment.isQuantified <;> simp [atSegmentEnd, hq, renumber]
  rw [outlook, outlook]
  simp only [show (item.renumber σ).segment = item.segment from rfl,
    show (item.renumber σ).offset = item.offset from rfl]
  cases hs : segments[item.segment]? with
  | none => rfl
  | some segment =>
    cases segment with
    | literal text =>
      cases hb : (Utf8.encode text.toList)[item.offset]? with
      | some b => simp [hb, renumber]
      | none => simp [hb, hend]
    | var name quantifier =>
      by_cases ho : item.offset = 0
      · simp [ho, renumber]
      · dsimp only
        rw [if_neg ho, if_neg ho, hend]
        rfl

@[simp] lemma next?_renumber (b : UInt8) :
    (item.renumber σ).next? segments b = (item.next? segments b).map (renumber σ) := by
  rw [next?, next?, outlook_renumber, List.find?_map, Option.map_map, Option.map_map]
  rfl

@[simp] lemma walk?_renumber (w : List UInt8) :
    walk? segments (item.renumber σ) w = (walk? segments item w).map (renumber σ) := by
  induction w generalizing item with
  | nil => rfl
  | cons b rest ih =>
    rw [walk?, walk?, next?_renumber, Option.bind_map, Option.map_bind]
    exact congrArg _ (funext ih)

@[simp] lemma accepts_renumber (atStart : Bool) :
    (item.renumber σ).accepts segments atStart = item.accepts segments atStart := by
  rw [accepts, outlook_renumber, accepts]

end Item

variable {σ : Equiv.Perm Nat} {routes routes' : Array Pattern}

section Reached

variable (h : Reorders σ routes routes')
include h

lemma reached_reorders (w : List UInt8) : reached routes' w = Item.renumber σ '' reached routes w := by
  ext item'
  obtain ⟨item, rfl⟩ := Item.renumber_surjective σ item'
  rw [(Item.renumber_injective σ).mem_set_image]
  have hwalk : ∀ route : Pattern, Item.walk? route.segments ⟨σ item.route, 0, 0⟩ w = some (item.renumber σ) ↔
      Item.walk? route.segments ⟨item.route, 0, 0⟩ w = some item := fun route => by
    have hmap := Item.walk?_renumber σ ⟨item.route, 0, 0⟩ route.segments w
    rw [show (⟨σ item.route, 0, 0⟩ : Item) = Item.renumber σ ⟨item.route, 0, 0⟩ from rfl, hmap, ← Option.map_some]
    exact (Option.map_injective (Item.renumber_injective σ)).eq_iff
  apply exists_congr
  intro route
  rw [← hwalk, ← h item.route]
  rfl

lemma reached_eq_iff (u v : List UInt8) :
    reached routes' u = reached routes' v ↔ reached routes u = reached routes v := by
  rw [reached_reorders h, reached_reorders h]
  exact (Set.image_injective.mpr (Item.renumber_injective σ)).eq_iff

lemma reached_nonempty_iff (w : List UInt8) : (reached routes' w).Nonempty ↔ (reached routes w).Nonempty := by
  rw [reached_reorders h, Set.image_nonempty]

lemma accepting_reorders (w : List UInt8) (atStart : Bool) (r : Nat) :
    σ r ∈ accepting routes' (reached routes' w) atStart ↔ r ∈ accepting routes (reached routes w) atStart := by
  rw [mem_accepting_reached, mem_accepting_reached, h r]
  apply exists_congr
  intro p
  apply and_congr_right
  intro _
  have hwalk := Item.walk?_renumber σ ⟨r, 0, 0⟩ p.segments w
  rw [show (⟨σ r, 0, 0⟩ : Item) = Item.renumber σ ⟨r, 0, 0⟩ from rfl, hwalk, Option.any_map]
  simp only [Item.accepts_renumber]

lemma exists_build_of_reorders (hb : ∃ states, build routes' = .ok states) : ∃ states, build routes = .ok states := by
  obtain ⟨states', hb⟩ := hb
  cases ha : build routes with
  | ok states => exact ⟨states, rfl⟩
  | error conflict =>
    obtain ⟨w, hw, numbers, hsorted, hmem, hlength, -⟩ := build_eq_error ha
    obtain ⟨r, r', rest, rfl⟩ : ∃ r r' rest, numbers = r :: r' :: rest := by
      match numbers, hlength with
      | r :: r' :: rest, _ => exact ⟨r, r', rest, rfl⟩
    -- Both routes would be the answer to one path.
    have hroute := @route?_eq_some_iff _ _ hb (slash :: w) hw
    have hanswer : ∀ n ∈ r :: r' :: rest, route? states' (slash :: w) = some (σ n) := fun n hn =>
      (hroute (σ n)).mpr ((accepting_reorders h w _ n).mpr ((hmem n).mp hn))
    have hsame := (hanswer r (by simp)).symm.trans (hanswer r' (by simp))
    have hlt : r < r' := (List.pairwise_cons.mp hsorted).1 r' (by simp)
    exact absurd (σ.injective (Option.some.inj hsame)) (Nat.ne_of_lt hlt)

end Reached

namespace Construction

def Correspond (routes routes' : Array Pattern) (c c' : Construction) (i j : Nat) : Prop :=
  ∃ u, StandsFor routes c i (Automaton.reached routes u) u.isEmpty ∧
    StandsFor routes' c' j (Automaton.reached routes' u) u.isEmpty

variable {c c' : Construction}

lemma Correspond.symm {i j : Nat} (hij : Correspond routes routes' c c' i j) : Correspond routes' routes c' c j i := by
  obtain ⟨u, hi, hj⟩ := hij
  exact ⟨u, hj, hi⟩

variable (h : Reorders σ routes routes') (hc : c.Consistent routes)
include h hc

lemma exists_transition {u : List UInt8} {atStart atStart' : Bool} {state state' : State}
    (hf : Filled routes c (Automaton.reached routes u) atStart state)
    (hf' : Filled routes' c' (Automaton.reached routes' u) atStart' state') {b : UInt8} {i : Nat}
    (ht : (b, i) ∈ state.transitions) :
    ∃ j, (b, j) ∈ state'.transitions ∧ Correspond routes routes' c c' i j := by
  obtain ⟨hb, hs⟩ := hf.target b i ht
  rw [follow_reached] at hs
  have hne := (reached_nonempty_iff h (u ++ [b])).mpr (hs.nonempty hc)
  rw [← follow_reached] at hne
  obtain ⟨j, hj⟩ := hf'.total b hb hne
  have hs' := (hf'.target b j hj).2
  rw [follow_reached] at hs'
  have hstart : false = (u ++ [b]).isEmpty := by simp
  exact ⟨j, hj, u ++ [b], hstart ▸ hs, hstart ▸ hs'⟩

variable (hc' : c'.Consistent routes')
include hc'

lemma Correspond.right_unique {i j j' : Nat} (hj : Correspond routes routes' c c' i j)
    (hj' : Correspond routes routes' c c' i j') : j = j' := by
  obtain ⟨u, hi, hj⟩ := hj
  obtain ⟨v, hi', hj'⟩ := hj'
  obtain ⟨hsets, hstart⟩ := hi.set_unique hc hi'
  rw [hstart, (reached_eq_iff h u v).mpr hsets] at hj
  exact hj.unique hc' hj'

lemma Correspond.left_unique {i i' j : Nat} (hi : Correspond routes routes' c c' i j)
    (hi' : Correspond routes routes' c c' i' j) : i = i' :=
  hi.symm.right_unique h.symm hc' hc hi'.symm

lemma Filled.transitions_eq {f : Nat → Nat} (hcorr : ∀ i < c.states.size, Correspond routes routes' c c' i (f i))
    {u : List UInt8} {atStart atStart' : Bool} {state state' : State}
    (hf : Filled routes c (Automaton.reached routes u) atStart state)
    (hf' : Filled routes' c' (Automaton.reached routes' u) atStart' state') :
    state'.transitions = state.transitions.map fun t => (t.1, f t.2) := by
  have hsorted : (state.transitions.map fun t => (t.1, f t.2)).Pairwise fun t u => t.1 < u.1 :=
    List.pairwise_map.mpr hf.sorted
  have hlt : ∀ {b i}, (b, i) ∈ state.transitions → i < c.states.size := fun ht => (hf.target _ _ ht).2.lt hc
  apply eq_of_pairwise_of_mem (fun hlt => UInt8.lt_asymm hlt) hf'.sorted hsorted
  rintro ⟨b, j⟩
  rw [List.mem_map]
  constructor
  · intro ht
    obtain ⟨i, ht, hji⟩ := exists_transition h.symm hc' hf' hf ht
    exact ⟨(b, i), ht, congrArg (b, ·) ((hcorr i (hlt ht)).right_unique h hc hc' hji.symm)⟩
  · rintro ⟨⟨a, i⟩, ht, he⟩
    obtain ⟨rfl, rfl⟩ := Prod.mk.inj he
    obtain ⟨j, ht', hij⟩ := exists_transition h hc hf hf' ht
    rwa [(hcorr i (hlt ht)).right_unique h hc hc' hij]

omit hc hc' in
lemma Filled.accepts_eq {u : List UInt8} {atStart : Bool} {state state' : State}
    (hf : Filled routes c (Automaton.reached routes u) atStart state)
    (hf' : Filled routes' c' (Automaton.reached routes' u) atStart state') : state'.accepts = state.accepts.map σ := by
  ext r
  obtain ⟨r, rfl⟩ := σ.surjective r
  rw [← hf'.accepts, accepting_reorders h, hf.accepts, ← Option.map_some, (Option.map_injective σ.injective).eq_iff]

variable (hx : Completed routes c none) (hx' : Completed routes' c' none) (hp : c.pending = []) (hp' : c'.pending = [])
include hx' hp'

lemma exists_correspond {i : Nat} (hi : i < c.states.size) :
    ∃ j, j < c'.states.size ∧ Correspond routes routes' c c' i j := by
  rcases Nat.eq_zero_or_pos i with rfl | hpos
  · exact ⟨0, hc'.nonempty, [], .start, .start⟩
  · obtain ⟨u, hu, hpath, hne, hs⟩ := hc.exists_reached hpos hi
    obtain ⟨j, -, hlt, hs'⟩ := exists_standsFor_reached hc' hx' hp' hu hpath ((reached_nonempty_iff h u).mpr hne)
    have hstart : u.isEmpty = false := List.isEmpty_eq_false_iff.mpr hu
    exact ⟨j, hlt, u, hstart.symm ▸ hs, hstart.symm ▸ hs'⟩

include hx hp

lemma exists_isIsomorphism : ∃ f, IsIsomorphism f σ c.states c'.states := by
  choose! f hlt hcorr using fun i (hi : i < c.states.size) => exists_correspond h hc hc' hx' hp' hi
  refine ⟨f, ⟨fun i hi => hlt i hi, ?inj, ?onto⟩, ?start, ?renumbered⟩
  case inj =>
    intro i hi i' hi' he
    exact (hcorr i hi).left_unique h hc hc' (he ▸ hcorr i' hi')
  case onto =>
    intro j hj
    obtain ⟨i, hi, hji⟩ := exists_correspond h.symm hc' hc hx hp hj
    exact ⟨i, hi, (hcorr i hi).right_unique h hc hc' hji.symm⟩
  case start => exact (hcorr 0 hc.nonempty).right_unique h hc hc' ⟨[], .start, .start⟩
  case renumbered =>
    intro i state hstate
    have hi := (Array.getElem?_eq_some_iff.mp hstate).1
    obtain ⟨u, hs, hs'⟩ := hcorr i hi
    obtain ⟨state', hstate', hf'⟩ := exists_filled hc' hx' hp' hs'
    have hf := filled hx hp hs hstate
    rw [hstate', State.renumber, ← hf.transitions_eq h hc hc' hcorr hf', ← hf.accepts_eq h hf',
      hc.numbered i state hstate, ← hc'.numbered (f i) state' hstate']

end Construction

lemma wellFormed_of_reorders (h : Reorders σ routes routes') {states' : Array State}
    (hb' : build routes' = .ok states') : WellFormed states' routes.size :=
  h.size_eq ▸ build_wellFormed hb'

lemma exists_isIsomorphism_of_reorders (h : Reorders σ routes routes') {states states' : Array State}
    (hb : build routes = .ok states) (hb' : build routes' = .ok states') : ∃ f, IsIsomorphism f σ states states' := by
  obtain ⟨c, hc, hx, hp, rfl⟩ := exists_of_build_eq_ok hb
  obtain ⟨c', hc', hx', hp', rfl⟩ := exists_of_build_eq_ok hb'
  exact Construction.exists_isIsomorphism h hc hc' hx hx' hp hp'

end Automaton

end PathRouter
