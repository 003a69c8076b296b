import Mathlib.Algebra.Ring.Nat
import PathRouter.Proofs.Automaton.Trim

/-! The construction of an automaton ends, and the routes bound what it makes on the way. A set holds at most one item
of a route, the pool has at most the places among the segments of the routes, and there are no more states than choices
of a place or none in each route, and the start. -/

namespace PathRouter.Automaton

structure ItemPool.IsSelection (pool : ItemPool) (numbers : List Nat) : Prop where
  nodup : numbers.Nodup
  known : ∀ n ∈ numbers, ∃ item, pool.items[n]? = some item
  apart : ∀ m ∈ numbers, ∀ n ∈ numbers, ∀ item item', pool.items[m]? = some item → pool.items[n]? = some item' →
    item.route = item'.route → m = n

def allPlaces (r : Nat) : List Pattern → List Item
  | [] => []
  | route :: rest => places r 0 route.segments ++ allPlaces (r + 1) rest

@[simp] lemma length_allPlaces (r : Nat) (routes : List Pattern) :
    (allPlaces r routes).length = (routes.map routeItemCount).sum := by
  induction routes generalizing r with
  | nil => rfl
  | cons route rest ih =>
    simp [allPlaces, ih, routeItemCount]

lemma mem_allPlaces (r : Nat) {routes : List Pattern} {k : Nat} {route : Pattern} (hr : routes[k]? = some route)
    {item : Item} (hi : item ∈ places (r + k) 0 route.segments) : item ∈ allPlaces r routes := by
  induction routes generalizing r k with
  | nil => cases hr
  | cons first rest ih =>
    cases k with
    | zero =>
      obtain rfl := Option.some.inj hr
      exact List.mem_append_left _ hi
    | succ k =>
      rw [← Nat.add_assoc, Nat.add_right_comm] at hi
      exact List.mem_append_right _ (ih (r + 1) hr hi)

lemma Item.IsIn.mem_places {item : Item} {segments : List Segment} (h : item.IsIn segments) :
    item ∈ places item.route 0 segments := by
  obtain ⟨segment, hs, ho⟩ := h
  have hm := Automaton.mem_places item.route 0 hs ho
  rwa [Nat.zero_add] at hm

lemma stateBound_eq (routes : Array Pattern) :
    stateBound routes = 1 + (routes.toList.map fun p => routeItemCount p + 1).prod := by
  rw [stateBound, List.prod_eq_foldr, List.foldr_map]

variable {routes : Array Pattern} {pool : ItemPool} {numbers : List Nat} {w : List UInt8}

lemma ItemPool.Names.isSelection (hc : pool.Consistent) (h : pool.Names numbers (reached routes w)) :
    pool.IsSelection numbers where
  nodup := h.sorted.imp Nat.ne_of_lt
  known n hn := by
    obtain ⟨item, -, hi⟩ := h.known n hn
    exact ⟨item, hi⟩
  apart m hm n hn item item' hi hi' he := by
    obtain ⟨x, hx, hxi⟩ := h.known m hm
    obtain ⟨y, hy, hyi⟩ := h.known n hn
    obtain rfl := Option.some.inj (hxi.symm.trans hi)
    obtain rfl := Option.some.inj (hyi.symm.trans hi')
    obtain rfl := reached_unique hx hy he
    exact hc.inj hi hi'

lemma ItemPool.IsReached.size_le (hproper : ∀ p ∈ routes.toList, p.Proper) (hc : pool.Consistent)
    (hp : pool.IsReached routes) : pool.items.size ≤ (routes.toList.map routeItemCount).sum := by
  have hsub : pool.items.toList ⊆ allPlaces 0 routes.toList := by
    intro item hi
    obtain ⟨w, hw⟩ := hp item (Array.mem_toList_iff.mp hi)
    obtain ⟨p, hr, hin⟩ := isIn_of_mem_reached hw hproper
    rw [← Array.getElem?_toList] at hr
    refine mem_allPlaces 0 hr ?_
    rw [Nat.zero_add]
    exact hin.mem_places
  have hle := (List.subperm_of_subset hc.nodup hsub).length_le
  rwa [length_allPlaces, Array.length_toList] at hle

structure Construction.IsBounded (routes : Array Pattern) (c : Construction) : Prop where
  selections : ∀ (numbers : List Nat) (id : Nat), c.index[numbers]? = some id → c.pool.IsSelection numbers
  pool : c.pool.items.size ≤ (routes.toList.map routeItemCount).sum
  states : c.states.size ≤ 1 + (routes.toList.map fun p => routeItemCount p + 1).prod

lemma Construction.Consistent.isBounded {c : Construction} (hproper : ∀ p ∈ routes.toList, p.Proper)
    (hc : c.Consistent routes) (hp : c.pool.IsReached routes) : c.IsBounded routes where
  selections numbers id hi := by
    obtain ⟨w, -, -, -, hn⟩ := hc.reached numbers id hi
    exact hn.isSelection hc.pool
  pool := hp.size_le hproper hc.pool
  states := by
    rw [← stateBound_eq]
    exact hc.size_le_stateBound

namespace Expansion

variable {n : Nat} {e : Expansion}

/-- Whether an expansion stays within the bounds, before, in the item sets and the pool that it makes, even if there is
a conflict in the end, and after. -/
structure IsBounded (routes : Array Pattern) (e : Expansion) : Prop where
  before : e.construction.IsBounded routes
  selection : e.construction.pool.IsSelection e.numbers
  selections : ∀ s ∈ (e.successors routes).1, (e.successors routes).2.IsSelection s.2
  pool : (e.successors routes).2.items.size ≤ (routes.toList.map routeItemCount).sum
  after : ∀ c, e.outcome routes = .ok c → c.IsBounded routes

lemma Sound.isBounded (hproper : ∀ p ∈ routes.toList, p.Proper) (h : e.Sound routes n) : e.IsBounded routes := by
  obtain ⟨w, -, -, hn⟩ := h.exists_word
  have hc := h.consistent.pool
  obtain ⟨hpool, -, -, hnames⟩ := Construction.successors_spec routes hc hn e.atStart
  refine ⟨h.consistent.isBounded hproper h.isReached, hn.isSelection hc, fun s hs => ?_, ?_, fun c ho => ?_⟩
  · have hnext := hnames s hs
    rw [follow_reached] at hnext
    exact hnext.isSelection hpool
  · exact (Construction.successors_isReached h.isReached hn e.atStart).size_le hproper hpool
  · have hdone := h.done ho
    exact hdone.consistent.isBounded hproper hdone.isReached

end Expansion

/-- The construction comes to a last expansion, which leaves what is built. There are fewer expansions than states are
possible, and each of them stays within the bounds that the routes give. -/
theorem build_bounded (hr : ∀ p ∈ routes.toList, p.IsRead) :
    (∃ n e, Expansion.Runs routes n e ∧ e.IsLast routes ∧ build routes = (e.outcome routes).map (·.states)) ∧
      ∀ n e, Expansion.Runs routes n e →
        n < 1 + (routes.toList.map fun p => routeItemCount p + 1).prod ∧ e.IsBounded routes := by
  refine ⟨Expansion.exists_last routes, fun n e h => ⟨?_, ?_⟩⟩
  · rw [← stateBound_eq]
    exact h.lt_stateBound
  · exact h.sound.isBounded fun p hp => (hr p hp).proper

theorem build_bounded_files : (∀ p ∈ [nestedFiles], p.IsRead) ∧
    ∃ n e, Expansion.Runs #[nestedFiles] n e ∧ e.IsLast #[nestedFiles] ∧ n < 10 ∧ e.IsBounded #[nestedFiles] := by
  have hr : ∀ p ∈ [nestedFiles], p.IsRead := List.forall_mem_singleton.mpr ⟨.template, by decide +kernel⟩
  obtain ⟨⟨n, e, h, hlast, -⟩, hbounds⟩ := build_bounded hr
  obtain ⟨hlt, hbounded⟩ := hbounds n e h
  exact ⟨hr, n, e, h, hlast, hlt, hbounded⟩

end PathRouter.Automaton
