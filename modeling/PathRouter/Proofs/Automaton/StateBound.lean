import Mathlib.Order.Interval.Finset.Nat
import PathRouter.Proofs.Automaton.Completion

/-! A reached set holds an item or none of each route, so there are no more states than choices of such
items and the start state. The bound is fuel enough to fill in all states. -/

namespace PathRouter.Automaton

def places (r : Nat) : Nat → List Segment → List Item
  | _, [] => []
  | i, segment :: rest => (List.range (itemCount segment)).map (⟨r, i, ·⟩) ++ places r (i + 1) rest

@[simp] lemma length_places (r i : Nat) (segments : List Segment) :
    (places r i segments).length = segments.foldr (fun segment count => itemCount segment + count) 0 := by
  induction segments generalizing i with
  | nil => rfl
  | cons segment rest ih => rw [places, List.length_append, List.length_map, List.length_range, ih, List.foldr_cons]

lemma mem_places (r i : Nat) {segments : List Segment} {k offset : Nat} {segment : Segment}
    (hs : segments[k]? = some segment) (ho : offset < itemCount segment) :
    ⟨r, i + k, offset⟩ ∈ places r i segments := by
  induction segments generalizing i k with
  | nil => cases hs
  | cons first rest ih =>
    cases k with
    | zero =>
      obtain rfl := Option.some.inj hs
      exact List.mem_append_left _ (List.mem_map_of_mem (List.mem_range.mpr ho))
    | succ k =>
      have hm := ih (i + 1) hs
      rw [Nat.add_right_comm] at hm
      exact List.mem_append_right _ hm

def choices (r : Nat) : List Pattern → List (List (Option Item))
  | [] => [[]]
  | route :: rest =>
    (none :: (places r 0 route.segments).map some).flatMap fun choice => (choices (r + 1) rest).map (choice :: ·)

@[simp] lemma length_choices (r : Nat) (routes : List Pattern) :
    (choices r routes).length = routes.foldr (fun route count => (routeItemCount route + 1) * count) 1 := by
  induction routes generalizing r with
  | nil => rfl
  | cons route rest ih =>
    simp only [choices, List.length_flatMap, List.length_map, List.map_const', List.sum_replicate_nat,
      List.length_cons, length_places, ih, List.foldr_cons, routeItemCount]

def positions (w : List UInt8) (r : Nat) : List Pattern → List (Option Item)
  | [] => []
  | route :: rest => Item.walk? route.segments ⟨r, 0, 0⟩ w :: positions w (r + 1) rest

lemma positions_mem_choices {w : List UInt8} (hw : w ≠ []) (r : Nat) (routes : List Pattern) :
    positions w r routes ∈ choices r routes := by
  induction routes generalizing r with
  | nil => exact List.mem_singleton.mpr rfl
  | cons route rest ih =>
    refine List.mem_flatMap.mpr ⟨_, ?_, List.mem_map_of_mem (ih (r + 1))⟩
    cases h : Item.walk? route.segments ⟨r, 0, 0⟩ w with
    | none => exact List.mem_cons_self
    | some item =>
      obtain ⟨segment, hs, ho⟩ := Item.walk?_isIn hw h
      have hr : item.route = r := Item.walk?_route h
      have hm := mem_places item.route 0 hs ho
      rw [Nat.zero_add] at hm
      subst hr
      exact List.mem_cons_of_mem _ (List.mem_map_of_mem hm)

lemma getElem?_positions (w : List UInt8) (r k : Nat) (routes : List Pattern) :
    (positions w r routes)[k]? = routes[k]?.map fun route => Item.walk? route.segments ⟨r + k, 0, 0⟩ w := by
  induction routes generalizing r k with
  | nil => rfl
  | cons route rest ih =>
    cases k with
    | zero => rfl
    | succ k =>
      have hh := ih (r + 1) k
      rw [Nat.add_right_comm] at hh
      exact hh

lemma reached_eq_of_positions {routes : Array Pattern} {u w : List UInt8}
    (h : positions u 0 routes.toList = positions w 0 routes.toList) : reached routes u = reached routes w := by
  ext item
  have hk := congrArg (·[item.route]?) h
  simp only [getElem?_positions, Nat.zero_add, Array.getElem?_toList] at hk
  refine exists_congr fun route => and_congr_right fun hr => ?_
  rw [hr] at hk
  have hk : Item.walk? route.segments ⟨item.route, 0, 0⟩ u = Item.walk? route.segments ⟨item.route, 0, 0⟩ w :=
    Option.some.inj hk
  rw [hk]

variable {routes : Array Pattern}

namespace Construction

variable {c : Construction}

lemma Consistent.size_le_stateBound (hc : c.Consistent routes) : c.states.size ≤ stateBound routes := by
  have hw : ∀ id ∈ Finset.Ico 1 c.states.size, ∃ w, w ≠ [] ∧
      StandsFor routes c id (Automaton.reached routes w) false := by
    intro id hid
    obtain ⟨hpos, hlt⟩ := Finset.mem_Ico.mp hid
    obtain ⟨w, hne, -, -, hs⟩ := hc.exists_reached hpos hlt
    exact ⟨w, hne, hs⟩
  choose! word hne hstands using hw
  have hcard := Finset.card_le_card_of_injOn (s := Finset.Ico 1 c.states.size)
    (t := (choices 0 routes.toList).toFinset) (fun id => positions (word id) 0 routes.toList)
    (fun id hid => List.mem_toFinset.mpr (positions_mem_choices (hne id hid) 0 _)) fun id hid id' hid' he => by
      have hs := hstands id hid
      rw [reached_eq_of_positions he] at hs
      exact hs.unique hc (hstands id' hid')
  have hle := Nat.le_trans hcard (List.toFinset_card_le _)
  rw [Nat.card_Ico, length_choices] at hle
  rw [stateBound]
  omega

end Construction

namespace Expansion

open Construction

variable {n : Nat} {e : Expansion}

def IsLast (routes : Array Pattern) (e : Expansion) : Prop :=
  ∀ c, e.outcome routes = .ok c → c.pending = []

lemma Runs.lt_stateBound (h : Runs routes n e) : n < stateBound routes := by
  have hle := h.sound.consistent.size_le_stateBound
  have hcount := h.sound.count
  omega

lemma complete_succ (fuel : Nat) {c : Construction} (hn : next? c = some e) :
    complete routes (fuel + 1) c = (e.outcome routes).bind (complete routes fuel) := by
  cases hp : c.pending with
  | nil =>
    rw [next?, hp] at hn
    cases hn
  | cons entry rest =>
    rw [next?, hp] at hn
    obtain rfl := Option.some.inj hn
    simp only [complete, hp, outcome]
    cases expand { c with pending := rest } routes entry.1 entry.2 false <;> rfl

-- By induction on the fuel. It cannot run out first, since each expansion has a state of its own.
lemma Runs.exists_last (fuel : Nat) (h : Runs routes n e) (hfuel : stateBound routes ≤ n + fuel) :
    ∃ n' e', Runs routes n' e' ∧ e'.IsLast routes ∧
      (e.outcome routes).bind (complete routes fuel) = e'.outcome routes := by
  induction fuel generalizing n e with
  | zero => exact absurd h.lt_stateBound (Nat.not_lt.mpr hfuel)
  | succ fuel ih =>
    cases ho : e.outcome routes with
    | error conflict =>
      refine ⟨n, e, h, fun c hc => ?_, ho.symm⟩
      rw [ho] at hc
      cases hc
    | ok c =>
      cases hn : next? c with
      | none =>
        have hp : c.pending = [] := by
          cases hp : c.pending with
          | nil => rfl
          | cons entry rest =>
            rw [next?, hp] at hn
            cases hn
        refine ⟨n, e, h, fun c' hc => ?_, ?_⟩
        · rw [ho] at hc
          obtain rfl := Except.ok.inj hc
          exact hp
        · rw [ho, Except.bind, complete, hp]
      | some e' =>
        obtain ⟨n', last, hlast, hdone, hc⟩ := ih (.next h ho hn) (by omega)
        refine ⟨n', last, hlast, hdone, ?_⟩
        rw [← hc]
        exact complete_succ fuel hn

lemma exists_last (routes : Array Pattern) :
    ∃ n e, Runs routes n e ∧ e.IsLast routes ∧ build routes = (e.outcome routes).map (·.states) := by
  obtain ⟨n, e, h, hlast, hc⟩ := Runs.first.exists_last (stateBound routes) (Nat.le_add_left _ 0)
  refine ⟨n, e, h, hlast, ?_⟩
  have hstart : start routes = (first routes).outcome routes := rfl
  rw [← hc, ← hstart, build]
  cases start routes <;> rfl

end Expansion

end PathRouter.Automaton
