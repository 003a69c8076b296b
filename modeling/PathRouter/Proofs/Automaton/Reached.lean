import Mathlib.Data.Set.Basic
import PathRouter.Proofs.Automaton.Position

/-! The set of items at which the routes stand after some octets. It holds at most one item of a route, and
an octet leads from it to the set that is reached with that octet in addition. -/

namespace PathRouter.Automaton

def reached (routes : Array Pattern) (w : List UInt8) : Set Item :=
  {item | ∃ route, routes[item.route]? = some route ∧
    Item.walk? route.segments ⟨item.route, 0, 0⟩ w = some item}

def follow (routes : Array Pattern) (X : Set Item) (b : UInt8) : Set Item :=
  {next | ∃ item ∈ X, ∃ route, routes[item.route]? = some route ∧ item.next? route.segments b = some next}

def accepting (routes : Array Pattern) (X : Set Item) (atStart : Bool) : Set Nat :=
  {r | ∃ item ∈ X, item.route = r ∧ ∃ route, routes[r]? = some route ∧
    item.accepts route.segments atStart = true}

variable {routes : Array Pattern} {w : List UInt8} {item item' : Item}

lemma follow_reached (routes : Array Pattern) (w : List UInt8) (b : UInt8) :
    follow routes (reached routes w) b = reached routes (w ++ [b]) := by
  ext next
  constructor
  · rintro ⟨item, ⟨route, hr, hw⟩, route', hr', hn⟩
    obtain rfl := Option.some.inj (hr.symm.trans hr')
    have he := (Item.next?_isIn hn).1
    refine ⟨route, he ▸ hr, ?_⟩
    rw [he, Item.walk?_append, hw, Option.bind_some, Item.walk?, hn]
    rfl
  · rintro ⟨route, hr, hw⟩
    rw [Item.walk?_append] at hw
    obtain ⟨item, hi, hw⟩ := Option.bind_eq_some_iff.mp hw
    obtain ⟨item', hn, he⟩ := Option.bind_eq_some_iff.mp hw
    obtain rfl := Option.some.inj he
    have he := Item.walk?_route hi
    refine ⟨item, ⟨route, ?_, ?_⟩, route, ?_, hn⟩
    · exact he ▸ hr
    · exact he ▸ hi
    · exact he ▸ hr

lemma reached_unique (h : item ∈ reached routes w) (h' : item' ∈ reached routes w)
    (he : item.route = item'.route) : item = item' := by
  obtain ⟨route, hr, hw⟩ := h
  obtain ⟨route', hr', hw'⟩ := h'
  rw [he] at hr hw
  obtain rfl := Option.some.inj (hr.symm.trans hr')
  exact Option.some.inj (hw.symm.trans hw')

lemma mem_reached_nil : item ∈ reached routes [] ↔ item.route < routes.size ∧ item = ⟨item.route, 0, 0⟩ := by
  constructor
  · rintro ⟨route, hr, hw⟩
    exact ⟨(Array.getElem?_eq_some_iff.mp hr).1, (Option.some.inj hw).symm⟩
  · rintro ⟨hlt, he⟩
    exact ⟨routes[item.route], Array.getElem?_eq_getElem hlt, congrArg some he.symm⟩

lemma reached_nonempty_left {u v : List UInt8} (h : (reached routes (u ++ v)).Nonempty) :
    (reached routes u).Nonempty := by
  obtain ⟨item, route, hr, hw⟩ := h
  rw [Item.walk?_append] at hw
  obtain ⟨item', hi, -⟩ := Option.bind_eq_some_iff.mp hw
  have he := Item.walk?_route hi
  exact ⟨item', route, he ▸ hr, he ▸ hi⟩

lemma mem_accepting_reached {r : Nat} {atStart : Bool} :
    r ∈ accepting routes (reached routes w) atStart ↔ ∃ route, routes[r]? = some route ∧
      (Item.walk? route.segments ⟨r, 0, 0⟩ w).any (·.accepts route.segments atStart) = true := by
  constructor
  · rintro ⟨item, ⟨route, hr, hw⟩, rfl, route', hr', ha⟩
    obtain rfl := Option.some.inj (hr.symm.trans hr')
    refine ⟨route, hr, ?_⟩
    rw [hw, Option.any_some]
    exact ha
  · rintro ⟨route, hr, ha⟩
    obtain ⟨item, hw, ha⟩ := (Option.any_eq_true _ _).mp ha
    have he : item.route = r := Item.walk?_route hw
    exact ⟨item, ⟨route, he ▸ hr, he ▸ hw⟩, he, route, hr, ha⟩

end PathRouter.Automaton
