import PathRouter.Proofs.Automaton.Minimality

/-! The automaton of some routes has no state to spare: octets lead to each of them from the start, and from each of
them to the acceptance of a route. No octet leads back to the start. -/

namespace PathRouter.Automaton

def Accepts (states : Array State) (i r : Nat) : Prop :=
  ∃ state, states[i]? = some state ∧ state.accepts = some r

/-- A well-formed automaton that is left at its start for good, reaches all its states, and can still accept a route
from each of them; the start of an automaton without routes is the one exception. -/
structure IsTrim (states : Array State) (routes : Nat) : Prop where
  wellFormed : WellFormed states routes
  start_left : ∀ (i : Nat) (state : State), states[i]? = some state → ∀ t ∈ state.transitions, t.2 ≠ 0
  reachable : ∀ i < states.size, ∃ w, walk states 0 w = some i
  productive : ∀ i < states.size, i ≠ 0 ∨ 0 < routes → ∃ w j r, walk states i w = some j ∧ Accepts states j r
  accepted : ∀ r < routes, ∃ i, Accepts states i r

lemma exists_accepts_of_answer? {states : Array State} {i r : Nat} {w : List UInt8}
    (h : answer? states i w = some r) : ∃ j, walk states i w = some j ∧ Accepts states j r := by
  obtain ⟨j, hw, h⟩ := Option.bind_eq_some_iff.mp h
  obtain ⟨state, hs, ha⟩ := Option.bind_eq_some_iff.mp h
  exact ⟨j, hw, state, hs, ha⟩

lemma Item.accepts_of_anywhere {item : Item} {segments : List Segment} (atStart : Bool)
    (h : item.accepts segments false = true) : item.accepts segments atStart = true := by
  cases hs : segments[item.segment]? with
  | none =>
    rw [accepts, outlook, hs] at h
    cases h
  | some segment =>
    cases segment with
    | literal text => simpa [accepts, outlook, hs] using h
    | var name quantifier =>
      by_cases ho : item.offset = 0
      · rw [accepts, outlook_unread hs ho] at h
        cases h
      · rw [accepts, outlook_read hs ho] at h ⊢
        exact h

variable {routes : Array Pattern}

lemma accepting_of_anywhere {X : Set Item} (atStart : Bool) :
    accepting routes X false ⊆ accepting routes X atStart := by
  rintro r ⟨item, hx, hr, p, hp, ha⟩
  exact ⟨item, hx, hr, p, hp, Item.accepts_of_anywhere atStart ha⟩

lemma isIn_of_mem_reached {u : List UInt8} {item : Item} (hi : item ∈ reached routes u)
    (hproper : ∀ p ∈ routes.toList, p.Proper) : ∃ p, routes[item.route]? = some p ∧ item.IsIn p.segments := by
  obtain ⟨p, hr, hw⟩ := hi
  refine ⟨p, hr, ?_⟩
  by_cases hu : u = []
  · subst hu
    obtain ⟨segment, others, hp⟩ := List.exists_cons_of_ne_nil
      (hproper p (Array.mem_toList_iff.mpr (Array.mem_of_getElem? hr))).nonempty
    rw [← Option.some.inj hw]
    exact ⟨segment, by rw [hp]; rfl, Item.itemCount_pos segment⟩
  · exact Item.walk?_isIn hu hw

namespace Construction

variable {c : Construction} (hc : c.Consistent routes) (hx : Completed routes c none) (hp : c.pending = [])
include hc hx hp

lemma exists_walk_of_lt {id : Nat} (h : id < c.states.size) :
    ∃ u, walk c.states 0 u = some id ∧ StandsFor routes c id (Automaton.reached routes u) u.isEmpty ∧
      (id ≠ 0 ∨ 0 < routes.size → (Automaton.reached routes u).Nonempty) := by
  rcases Nat.eq_zero_or_pos id with rfl | hpos
  · refine ⟨[], rfl, .start, fun hne => ?_⟩
    exact ⟨⟨0, 0, 0⟩, mem_reached_nil.mpr ⟨hne.resolve_left fun h => h rfl, rfl⟩⟩
  · obtain ⟨u, hu, hw, hne, hs⟩ := hc.exists_reached hpos h
    have hstart : u.isEmpty = false := List.isEmpty_eq_false_iff.mpr hu
    obtain ⟨id', hwalk⟩ := exists_walk hc hx hp (u := []) .start hw fun _ => hne
    have hs' := standsFor_walk hc hx hp (u := []) .start hwalk
    rw [List.nil_append, hstart] at hs'
    obtain rfl := hs.unique hc hs'
    exact ⟨u, hwalk, hstart.symm ▸ hs, fun _ => hne⟩

lemma exists_answer?_of_mem (hproper : ∀ p ∈ routes.toList, p.Proper) {u : List UInt8} {id : Nat}
    (hs : StandsFor routes c id (Automaton.reached routes u) u.isEmpty) {item : Item}
    (hi : item ∈ Automaton.reached routes u) : ∃ v, answer? c.states id v = some item.route := by
  obtain ⟨p, hr, hin⟩ := isIn_of_mem_reached hi hproper
  obtain ⟨v, hv, ha⟩ := (hproper p (Array.mem_toList_iff.mpr (Array.mem_of_getElem? hr))).exists_acceptsAfter hin
  use v
  apply (answer?_eq_some_iff hc hx hp hs hv _).mpr
  apply accepting_of_anywhere
  exact mem_accepting_append.mpr ⟨item, hi, rfl, p, hr, ha⟩

lemma isTrim (hproper : ∀ p ∈ routes.toList, p.Proper) : IsTrim c.states routes.size where
  wellFormed := wellFormed hc hx hp
  start_left i state hstate t ht := by
    obtain ⟨X, atStart, hs⟩ := hc.exists_standsFor (Array.getElem?_eq_some_iff.mp hstate).1
    have htarget := ((filled hx hp hs hstate).target t.1 t.2 ht).2
    exact Nat.ne_of_gt (htarget.pos hc)
  reachable i hi := by
    obtain ⟨u, hwalk, -⟩ := exists_walk_of_lt hc hx hp hi
    exact ⟨u, hwalk⟩
  productive i hi hne := by
    obtain ⟨u, hwalk, hs, hreached⟩ := exists_walk_of_lt hc hx hp hi
    obtain ⟨item, hitem⟩ := hreached hne
    obtain ⟨v, ha⟩ := exists_answer?_of_mem hc hx hp hproper hs hitem
    obtain ⟨j, hw, hj⟩ := exists_accepts_of_answer? ha
    exact ⟨v, j, item.route, hw, hj⟩
  accepted r hr := by
    have hitem : ⟨r, 0, 0⟩ ∈ Automaton.reached routes [] := mem_reached_nil.mpr ⟨hr, rfl⟩
    obtain ⟨v, ha⟩ := exists_answer?_of_mem hc hx hp hproper .start hitem
    obtain ⟨j, -, hj⟩ := exists_accepts_of_answer? ha
    exact ⟨j, hj⟩

end Construction

theorem build_isTrim (hr : ∀ p ∈ routes.toList, p.IsRead) {states : Array State} (h : build routes = .ok states) :
    IsTrim states routes.size := by
  obtain ⟨c, hc, hx, hp, rfl⟩ := exists_of_build_eq_ok h
  exact Construction.isTrim hc hx hp fun p hp => (hr p hp).proper

theorem build_isTrim_optionalAfterFirst : (∀ p ∈ [optionalAfterFirst], p.IsRead) ∧
    ∃ states, build #[optionalAfterFirst] = .ok states ∧ IsTrim states 1 := by
  have hr : ∀ p ∈ [optionalAfterFirst], p.IsRead := List.forall_mem_singleton.mpr ⟨.template, by decide +kernel⟩
  obtain ⟨states, h⟩ := exists_build_of_size_le_one (Nat.le_refl (#[optionalAfterFirst].size))
  exact ⟨hr, states, h, build_isTrim hr h⟩

end PathRouter.Automaton
