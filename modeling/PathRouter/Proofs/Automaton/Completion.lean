import PathRouter.Proofs.Automaton.Expansion

/-! The expansions of a construction, one after another. Each fills in one state more and keeps the construction
consistent, and its pool has only items that some route reaches. A conflict is found at the end of a path. -/

namespace PathRouter.Automaton

/-- Whether a conflict names, in order, the routes that accept after some path, which are several. -/
def Conflict.ReportedAfter (conflict : Conflict) (routes : Array Pattern) (w : List UInt8) : Prop :=
  ∃ accs : List Nat, accs.Pairwise (· < ·) ∧
    (∀ r, r ∈ accs ↔ r ∈ accepting routes (reached routes w) w.isEmpty) ∧
    1 < accs.length ∧ conflict.sources = accs.filterMap fun r => routes[r]?.map (·.source)

def ItemPool.IsReached (pool : ItemPool) (routes : Array Pattern) : Prop :=
  ∀ item ∈ pool.items, ∃ w, item ∈ reached routes w

namespace Construction

variable {routes : Array Pattern} {c c' : Construction} {id : Nat} {numbers : List Nat}
  {rest : List (Nat × List Nat)}

lemma Consistent.take (hc : c.Consistent routes) (hx : Completed routes c none)
    (hp : c.pending = (id, numbers) :: rest) :
    Consistent routes { c with pending := rest } ∧ Completed routes { c with pending := rest } (some id) ∧
      id ∉ rest.map (·.1) ∧ ∃ X, StandsFor routes { c with pending := rest } id X false ∧
        c.pool.Names numbers X := by
  have hmem : ∀ e ∈ rest, e ∈ c.pending := fun e he => hp ▸ List.mem_cons_of_mem _ he
  have hnodup := hc.pending_nodup
  rw [hp, List.map_cons, List.nodup_cons] at hnodup
  have hi := hc.pending_indexed (id, numbers) (hp ▸ List.mem_cons_self)
  obtain ⟨w, -, -, -, hn⟩ := hc.reached numbers id hi
  refine ⟨{ hc with
      pending_indexed := fun e he => hc.pending_indexed e (hmem e he)
      pending_blank := fun e he => hc.pending_blank e (hmem e he)
      pending_nodup := hnodup.2 }, ?_, hnodup.1, _, .indexed hi hn, hn⟩
  intro id' X atStart state hs hstate hpending hother
  have hs : StandsFor routes c id' X atStart := hs.of_eq rfl rfl
  refine (hx id' X atStart state hs hstate (fun hm => ?_) (by simp)).of_eq rfl rfl
  rw [hp, List.map_cons, List.mem_cons] at hm
  rcases hm with rfl | hm
  · exact hother rfl
  · exact hpending hm

def initial (pool : ItemPool) : Construction :=
  ⟨pool, ∅, #[State.blank 0], []⟩

lemma not_indexed_initial (pool : ItemPool) (numbers : List Nat) (id : Nat) :
    (initial pool).index[numbers]? ≠ some id := by
  simp [initial]

lemma initial_consistent {pool : ItemPool} (hp : pool.Consistent) : Consistent routes (initial pool) where
  pool := hp
  nonempty := Nat.one_pos
  numbered i state hs := by
    obtain ⟨hi, rfl⟩ := Array.getElem?_eq_some_iff.mp hs
    obtain rfl : i = 0 := Nat.lt_one_iff.mp hi
    rfl
  index_range numbers id hi := absurd hi (not_indexed_initial pool numbers id)
  index_inj numbers _ id hi _ := absurd hi (not_indexed_initial pool numbers id)
  index_onto id hpos hlt := absurd hlt (Nat.not_lt.mpr hpos)
  reached numbers id hi := absurd hi (not_indexed_initial pool numbers id)
  pending_indexed e he := by cases he
  pending_blank e he := by cases he
  pending_nodup := List.nodup_nil

lemma initial_completed (pool : ItemPool) : Completed routes (initial pool) (some 0) := by
  intro id X atStart state hs _ _ hother
  cases hs with
  | start => exact absurd rfl hother
  | indexed hi hn => exact absurd hi (not_indexed_initial pool _ _)

def entry (routes : Array Pattern) : List Nat × ItemPool :=
  ItemPool.empty.internAll ((List.range routes.size).map fun route => ⟨route, 0, 0⟩)

lemma entry_spec (routes : Array Pattern) : (entry routes).2.Consistent ∧
    (entry routes).2.Names (numberSet (entry routes).1) (Automaton.reached routes []) := by
  obtain ⟨hc, -, hn⟩ := ItemPool.internAll_spec ItemPool.empty_consistent
    ((List.range routes.size).map fun route => (⟨route, 0, 0⟩ : Item))
  refine ⟨hc, ?_⟩
  have hX : Automaton.reached routes [] =
      {item | item ∈ (List.range routes.size).map fun route => (⟨route, 0, 0⟩ : Item)} := by
    ext item
    rw [mem_reached_nil]
    simp only [Set.mem_ofPred_eq, List.mem_map, List.mem_range]
    constructor
    · rintro ⟨hlt, he⟩
      exact ⟨item.route, hlt, he.symm⟩
    · rintro ⟨r, hlt, rfl⟩
      exact ⟨hlt, rfl⟩
  rw [hX]
  exact ItemPool.names_numberSet hn

lemma entry_isReached (routes : Array Pattern) : (entry routes).2.IsReached routes := by
  intro item hi
  rcases ItemPool.mem_internAll hi with hi | hi
  · exact absurd hi (Array.not_mem_empty item)
  · obtain ⟨r, hr, rfl⟩ := List.mem_map.mp hi
    exact ⟨[], mem_reached_nil.mpr ⟨List.mem_range.mp hr, rfl⟩⟩

lemma successors_isReached {w : List UInt8} (hp : c.pool.IsReached routes)
    (hn : c.pool.Names numbers (Automaton.reached routes w)) (atStart : Bool) :
    (c.successors routes numbers atStart).2.IsReached routes := by
  intro item hi
  rcases mem_successors_pool hn hi with hi | ⟨b, hi⟩
  · exact hp item hi
  · rw [follow_reached] at hi
    exact ⟨w ++ [b], hi⟩

end Construction

/-- A state that is about to be filled in: the construction, the state, and the item set that it stands for. -/
structure Expansion where
  construction : Construction
  id : Nat
  numbers : List Nat
  atStart : Bool

namespace Expansion

open Construction

variable {routes : Array Pattern} {n : Nat} {e : Expansion} {c : Construction}

def outcome (e : Expansion) (routes : Array Pattern) : Except Conflict Construction :=
  e.construction.expand routes e.id e.numbers e.atStart

def successors (e : Expansion) (routes : Array Pattern) : List (UInt8 × List Nat) × ItemPool :=
  e.construction.successors routes e.numbers e.atStart

def first (routes : Array Pattern) : Expansion :=
  ⟨initial (entry routes).2, 0, numberSet (entry routes).1, true⟩

def next? (c : Construction) : Option Expansion :=
  match c.pending with
  | [] => none
  | (id, numbers) :: rest => some ⟨{ c with pending := rest }, id, numbers, false⟩

lemma exists_of_next?_eq_some {c : Construction} {e : Expansion} (h : next? c = some e) :
    ∃ rest, c.pending = (e.id, e.numbers) :: rest ∧ e = ⟨{ c with pending := rest }, e.id, e.numbers, false⟩ := by
  rw [next?] at h
  cases hp : c.pending with
  | nil =>
    rw [hp] at h
    cases h
  | cons entry rest =>
    rw [hp] at h
    obtain rfl := Option.some.inj h
    exact ⟨rest, rfl, rfl⟩

/-- The expansions of a construction, each with the number of those before it. -/
inductive Runs (routes : Array Pattern) : Nat → Expansion → Prop
  | first : Runs routes 0 (first routes)
  | next {n : Nat} {e e' : Expansion} {c : Construction} (h : Runs routes n e) (ho : e.outcome routes = .ok c)
      (hn : next? c = some e') : Runs routes (n + 1) e'

structure Sound (routes : Array Pattern) (n : Nat) (e : Expansion) : Prop where
  consistent : e.construction.Consistent routes
  completed : Completed routes e.construction (some e.id)
  stands : ∃ X, StandsFor routes e.construction e.id X e.atStart ∧ e.construction.pool.Names e.numbers X
  not_pending : e.id ∉ e.construction.pending.map (·.1)
  count : e.construction.states.size = n + 1 + e.construction.pending.length
  isReached : e.construction.pool.IsReached routes

lemma Sound.exists_word (h : e.Sound routes n) : ∃ w, (∀ b ∈ w, isPathOctet b = true) ∧ e.atStart = w.isEmpty ∧
    e.construction.pool.Names e.numbers (reached routes w) := by
  obtain ⟨X, hs, hn⟩ := h.stands
  obtain ⟨w, hw, rfl, hstart⟩ := hs.exists_word h.consistent
  exact ⟨w, hw, hstart, hn⟩

structure Done (routes : Array Pattern) (n : Nat) (c : Construction) : Prop where
  consistent : c.Consistent routes
  completed : Completed routes c none
  count : c.states.size = n + c.pending.length
  isReached : c.pool.IsReached routes

lemma Sound.done (h : e.Sound routes n) (ho : e.outcome routes = .ok c) : Done routes (n + 1) c := by
  obtain ⟨X, hs, hn⟩ := h.stands
  obtain ⟨hc, hx, hcount⟩ := expand_eq_ok h.consistent h.completed hs hn h.not_pending ho
  have hsize := h.count
  refine ⟨hc, hx, by omega, ?_⟩
  obtain ⟨accepts, -, rfl⟩ := exists_of_expand_eq_ok hn ho
  obtain ⟨w, -, -, hn⟩ := h.exists_word
  have hpool := successors_isReached h.isReached hn e.atStart
  rwa [← connected_pool] at hpool

lemma Done.sound (h : Done routes n c) (hn : next? c = some e) : e.Sound routes n := by
  obtain ⟨rest, hp, he⟩ := exists_of_next?_eq_some hn
  rw [he]
  obtain ⟨hc, hx, hid, X, hs, hnames⟩ := h.consistent.take h.completed hp
  have hcount := h.count
  rw [hp, List.length_cons] at hcount
  exact ⟨hc, hx, ⟨X, hs, hnames⟩, hid, by rw [hcount, Nat.add_right_comm, Nat.add_assoc], h.isReached⟩

lemma first_sound (routes : Array Pattern) : (first routes).Sound routes 0 := by
  obtain ⟨hp, hn⟩ := entry_spec routes
  exact ⟨initial_consistent hp, initial_completed _, ⟨_, .start, hn⟩, List.not_mem_nil, rfl, entry_isReached routes⟩

lemma Runs.sound (h : Runs routes n e) : e.Sound routes n := by
  induction h with
  | first => exact first_sound routes
  | next _ ho hn ih => exact (ih.done ho).sound hn

lemma Sound.reportedAfter (h : e.Sound routes n) {conflict : Conflict} (ho : e.outcome routes = .error conflict) :
    ∃ w, (∀ b ∈ w, isPathOctet b = true) ∧ conflict.ReportedAfter routes w := by
  obtain ⟨w, hw, hstart, hn⟩ := h.exists_word
  have he := expand_eq_error hn ho
  rw [hstart] at he
  exact ⟨w, hw, he⟩

end Expansion

end PathRouter.Automaton
