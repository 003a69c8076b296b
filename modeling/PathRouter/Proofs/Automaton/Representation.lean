import PathRouter.Proofs.Automaton.StateBound
import PathRouter.Proofs.Outcome

/-! The automaton of some routes stands, after octets, at the state of the set that the octets reach, and
accepts the route that accepts there; from any of its states it goes on in this way. -/

namespace PathRouter.Automaton

variable {routes : Array Pattern} {states : Array State} {c : Construction}

lemma exists_of_build_eq_ok (h : build routes = .ok states) :
    ∃ c : Construction, c.Consistent routes ∧ Construction.Completed routes c none ∧ c.pending = [] ∧
      c.states = states := by
  obtain ⟨n, e, hr, hlast, hb⟩ := Expansion.exists_last routes
  rw [hb] at h
  obtain ⟨c, ho, hs⟩ := exists_of_map_eq_ok h
  have hdone := hr.sound.done ho
  exact ⟨c, hdone.consistent, hdone.completed, hlast c ho, hs⟩

lemma build_eq_error {conflict : Conflict} (h : build routes = .error conflict) :
    ∃ w, (∀ b ∈ w, isPathOctet b = true) ∧ conflict.ReportedAfter routes w := by
  obtain ⟨n, e, hr, -, hb⟩ := Expansion.exists_last routes
  rw [hb] at h
  exact hr.sound.reportedAfter (eq_error_of_map_eq_error h)

lemma exists_build_of_size_le_one (h : routes.size ≤ 1) : ∃ states, build routes = .ok states := by
  cases hb : build routes with
  | ok states => exact ⟨states, rfl⟩
  | error conflict =>
    obtain ⟨w, -, accs, hsorted, hmem, hlength, -⟩ := build_eq_error hb
    have hlt : ∀ r ∈ accs, r < 1 := fun r hr => by
      obtain ⟨item, -, -, p, hp, -⟩ := (hmem r).mp hr
      exact Nat.lt_of_lt_of_le (Array.getElem?_eq_some_iff.mp hp).1 h
    match accs, hlength with
    | first :: second :: _, _ =>
      have hfirst := List.rel_of_pairwise_cons hsorted List.mem_cons_self
      have hsecond := hlt second (List.mem_cons_of_mem _ List.mem_cons_self)
      omega

namespace Construction

lemma filled (hx : Completed routes c none) (hp : c.pending = []) {id : Nat} {X : Set Item} {atStart : Bool}
    {state : State} (hs : StandsFor routes c id X atStart) (hstate : c.states[id]? = some state) :
    Filled routes c X atStart state :=
  hx id X atStart state hs hstate (by simp [hp]) (by simp)

variable (hc : c.Consistent routes) (hx : Completed routes c none) (hp : c.pending = [])
include hc hx hp

lemma exists_filled {id : Nat} {X : Set Item} {atStart : Bool} (hs : StandsFor routes c id X atStart) :
    ∃ state, c.states[id]? = some state ∧ Filled routes c X atStart state :=
  ⟨_, Array.getElem?_eq_getElem (hs.lt hc), filled hx hp hs (Array.getElem?_eq_getElem (hs.lt hc))⟩

lemma wellFormed : WellFormed c.states routes.size where
  nonempty := hc.nonempty
  numbered := hc.numbered
  fits i state hstate := by
    obtain ⟨X, atStart, hs⟩ := hc.exists_standsFor (Array.getElem?_eq_some_iff.mp hstate).1
    have hf := filled hx hp hs hstate
    refine ⟨hf.sorted, fun t ht => (hf.target t.1 t.2 ht).1, fun t ht => (hf.target t.1 t.2 ht).2.lt hc, ?_⟩
    intro r hr
    obtain ⟨item, -, -, route, hroute, -⟩ := (hf.accepts r).mpr hr
    exact (Array.getElem?_eq_some_iff.mp hroute).1

lemma standsFor_walk {u : List UInt8} {id : Nat} (hs : StandsFor routes c id (Automaton.reached routes u) u.isEmpty)
    {v : List UInt8} {id' : Nat} (hw : walk c.states id v = some id') :
    StandsFor routes c id' (Automaton.reached routes (u ++ v)) (u ++ v).isEmpty := by
  induction v generalizing u id with
  | nil =>
    obtain rfl := Option.some.inj hw
    rwa [List.append_nil]
  | cons b rest ih =>
    obtain ⟨state, hstate, hf⟩ := exists_filled hc hx hp hs
    rw [walk, hstate, Option.bind_some] at hw
    cases hn : state.next? b with
    | none =>
      rw [hn] at hw
      cases hw
    | some next =>
      simp only [hn] at hw
      obtain ⟨-, ht⟩ := hf.target b next (State.next?_mem hn)
      rw [follow_reached, show false = (u ++ [b]).isEmpty by simp] at ht
      have hh := ih ht hw
      rwa [List.append_assoc] at hh

lemma exists_walk {u : List UInt8} {id : Nat} (hs : StandsFor routes c id (Automaton.reached routes u) u.isEmpty)
    {v : List UInt8} (hv : ∀ b ∈ v, isPathOctet b = true) (hr : v ≠ [] → (Automaton.reached routes (u ++ v)).Nonempty) :
    ∃ id', walk c.states id v = some id' := by
  induction v generalizing u id with
  | nil => exact ⟨id, rfl⟩
  | cons b rest ih =>
    obtain ⟨hb, hrest⟩ := List.forall_mem_cons.mp hv
    have hr := hr (List.cons_ne_nil b rest)
    rw [List.append_cons] at hr
    have hfollow := reached_nonempty_left hr
    rw [← follow_reached] at hfollow
    obtain ⟨state, hstate, hf⟩ := exists_filled hc hx hp hs
    obtain ⟨next, ht⟩ := hf.total b hb hfollow
    obtain ⟨-, hstands⟩ := hf.target b next ht
    rw [follow_reached, show false = (u ++ [b]).isEmpty by simp] at hstands
    obtain ⟨id', hw⟩ := ih hstands hrest fun _ => hr
    refine ⟨id', ?_⟩
    rw [walk, hstate, Option.bind_some, State.next?_of_mem hf.sorted ht]
    exact hw

lemma exists_standsFor_reached {u : List UInt8} (hu : u ≠ []) (hpath : ∀ b ∈ u, isPathOctet b = true)
    (hne : (Automaton.reached routes u).Nonempty) :
    ∃ id, 0 < id ∧ id < c.states.size ∧ StandsFor routes c id (Automaton.reached routes u) false := by
  obtain ⟨id, hwalk⟩ := exists_walk hc hx hp (u := []) .start hpath fun _ => hne
  have hs := standsFor_walk hc hx hp (u := []) .start hwalk
  rw [List.nil_append, List.isEmpty_eq_false_iff.mpr hu] at hs
  exact ⟨id, hs.pos hc, hs.lt hc, hs⟩

lemma answer?_eq_some_iff {u : List UInt8} {id : Nat}
    (hs : StandsFor routes c id (Automaton.reached routes u) u.isEmpty) {v : List UInt8}
    (hv : ∀ b ∈ v, isPathOctet b = true) (r : Nat) :
    answer? c.states id v = some r ↔ r ∈ accepting routes (Automaton.reached routes (u ++ v)) (u ++ v).isEmpty := by
  cases hwalk : walk c.states id v with
  | some id' =>
    obtain ⟨state, hstate, hf⟩ := exists_filled hc hx hp (standsFor_walk hc hx hp hs hwalk)
    rw [hf.accepts r, answer?, hwalk, Option.bind_some, hstate, Option.bind_some]
  | none =>
    rw [answer?, hwalk]
    refine ⟨fun h => (by cases h), ?_⟩
    rintro ⟨item, hitem, -⟩
    obtain ⟨id', hid⟩ := exists_walk hc hx hp hs hv fun _ => ⟨item, hitem⟩
    rw [hwalk] at hid
    cases hid

end Construction

theorem build_wellFormed (h : build routes = .ok states) : WellFormed states routes.size := by
  obtain ⟨c, hc, hx, hp, rfl⟩ := exists_of_build_eq_ok h
  exact Construction.wellFormed hc hx hp

lemma build_size_le (h : build routes = .ok states) : states.size ≤ stateBound routes := by
  obtain ⟨c, hc, -, -, rfl⟩ := exists_of_build_eq_ok h
  exact hc.size_le_stateBound

theorem route?_eq_some_iff (h : build routes = .ok states) {path : List UInt8}
    (hw : ∀ b ∈ path.tail, isPathOctet b = true) (r : Nat) :
    route? states path = some r ↔ r ∈ accepting routes (reached routes path.tail) path.tail.isEmpty := by
  obtain ⟨c, hc, hx, hp, rfl⟩ := exists_of_build_eq_ok h
  exact Construction.answer?_eq_some_iff hc hx hp (u := []) .start hw r

end PathRouter.Automaton
