import PathRouter.Proofs.Automaton.ItemPool
import PathRouter.Proofs.Automaton.Reached
import PathRouter.Proofs.Automaton.WellFormed

/-! The automaton under construction. Every state but the first stands for the item set that it is indexed
by, which some path reaches. A state that is not pending has all its transitions and its route. -/

namespace PathRouter.Automaton

def ItemPool.NamesReached (pool : ItemPool) (routes : Array Pattern) (numbers : List Nat) : Prop :=
  ∃ w, w ≠ [] ∧ (∀ b ∈ w, isPathOctet b = true) ∧ (reached routes w).Nonempty ∧
    pool.Names numbers (reached routes w)

lemma ItemPool.NamesReached.mono {pool pool' : ItemPool} {routes : Array Pattern} {numbers : List Nat}
    (h : pool.NamesReached routes numbers) (he : pool.Extends pool') : pool'.NamesReached routes numbers := by
  obtain ⟨w, hne, hw, hx, hn⟩ := h
  exact ⟨w, hne, hw, hx, hn.mono he⟩

namespace Construction

/-- Whether a state stands for a set of items. Only the start state does so at the start of the path. -/
inductive StandsFor (routes : Array Pattern) (c : Construction) : Nat → Set Item → Bool → Prop
  | start : StandsFor routes c 0 (reached routes []) true
  | indexed {numbers : List Nat} {id : Nat} {X : Set Item} (hi : c.index[numbers]? = some id)
      (hn : c.pool.Names numbers X) : StandsFor routes c id X false

structure Filled (routes : Array Pattern) (c : Construction) (X : Set Item) (atStart : Bool) (state : State) :
    Prop where
  sorted : state.transitions.Pairwise fun t u => t.1 < u.1
  target : ∀ b id, (b, id) ∈ state.transitions →
    isPathOctet b = true ∧ StandsFor routes c id (follow routes X b) false
  total : ∀ b, isPathOctet b = true → (follow routes X b).Nonempty → ∃ id, (b, id) ∈ state.transitions
  accepts : ∀ r, r ∈ accepting routes X atStart ↔ state.accepts = some r

structure Consistent (routes : Array Pattern) (c : Construction) : Prop where
  pool : c.pool.Consistent
  nonempty : 0 < c.states.size
  numbered : ∀ (i : Nat) (state : State), c.states[i]? = some state → state.id = i
  index_range : ∀ (numbers : List Nat) (id : Nat), c.index[numbers]? = some id → 0 < id ∧ id < c.states.size
  index_inj : ∀ (numbers numbers' : List Nat) (id : Nat), c.index[numbers]? = some id →
    c.index[numbers']? = some id → numbers = numbers'
  index_onto : ∀ id, 0 < id → id < c.states.size → ∃ numbers : List Nat, c.index[numbers]? = some id
  reached : ∀ (numbers : List Nat) (id : Nat), c.index[numbers]? = some id → c.pool.NamesReached routes numbers
  pending_indexed : ∀ e ∈ c.pending, c.index[e.2]? = some e.1
  pending_blank : ∀ e ∈ c.pending, c.states[e.1]? = some (State.blank e.1)
  pending_nodup : (c.pending.map (·.1)).Nodup

def Completed (routes : Array Pattern) (c : Construction) (other : Option Nat) : Prop :=
  ∀ (id : Nat) (X : Set Item) (atStart : Bool) (state : State), StandsFor routes c id X atStart →
    c.states[id]? = some state → id ∉ c.pending.map (·.1) → some id ≠ other → Filled routes c X atStart state

/-- Whether one construction has come from another without a change to its states. -/
structure Grows (c c' : Construction) : Prop where
  pool : c.pool.Extends c'.pool
  index : ∀ (numbers : List Nat) (id : Nat), c.index[numbers]? = some id → c'.index[numbers]? = some id
  states : ∀ (i : Nat) (state : State), c.states[i]? = some state → c'.states[i]? = some state
  pending : ∀ e ∈ c.pending, e ∈ c'.pending
  old : ∀ e ∈ c'.pending, e.1 < c.states.size → e ∈ c.pending
  added : ∀ id, c.states.size ≤ id → id < c'.states.size → id ∈ c'.pending.map (·.1)
  count : c'.states.size + c.pending.length = c.states.size + c'.pending.length

lemma Grows.refl (c : Construction) : Grows c c where
  pool := ItemPool.Extends.refl c.pool
  index _ _ h := h
  states _ _ h := h
  pending _ h := h
  old _ h _ := h
  added _ h h' := absurd h' (Nat.not_lt.mpr h)
  count := rfl

lemma Grows.size_le {c c' : Construction} (h : Grows c c') : c.states.size ≤ c'.states.size := by
  by_contra hlt
  have hc' := h.states _ _ (Array.getElem?_eq_getElem (Nat.not_le.mp hlt))
  exact absurd (Array.getElem?_eq_some_iff.mp hc').1 (Nat.lt_irrefl _)

lemma Grows.trans {c c' c'' : Construction} (h : Grows c c') (h' : Grows c' c'') : Grows c c'' where
  pool := h.pool.trans h'.pool
  index numbers id hi := h'.index numbers id (h.index numbers id hi)
  states i state hs := h'.states i state (h.states i state hs)
  pending e he := h'.pending e (h.pending e he)
  old e he hlt := h.old e (h'.old e he (Nat.lt_of_lt_of_le hlt h.size_le)) hlt
  added id hle hlt := by
    by_cases hid : id < c'.states.size
    · obtain ⟨e, he, rfl⟩ := List.mem_map.mp (h.added id hle hid)
      exact List.mem_map_of_mem (h'.pending e he)
    · exact h'.added id (Nat.not_lt.mp hid) hlt
  count := by
    have hc := h.count
    have hc' := h'.count
    omega

variable {routes : Array Pattern} {c c' : Construction} {id id' : Nat} {X X' : Set Item} {atStart atStart' : Bool}
  {state : State} {other : Option Nat} {numbers : List Nat}

namespace StandsFor

lemma mono (h : StandsFor routes c id X atStart) (hp : c.pool.Extends c'.pool)
    (hi : ∀ (numbers : List Nat) (id : Nat), c.index[numbers]? = some id → c'.index[numbers]? = some id) :
    StandsFor routes c' id X atStart := by
  cases h with
  | start => exact .start
  | indexed h hn => exact .indexed (hi _ _ h) (hn.mono hp)

lemma of_eq (h : StandsFor routes c id X atStart) (hp : c'.pool = c.pool) (hi : c'.index = c.index) :
    StandsFor routes c' id X atStart :=
  h.mono (hp ▸ ItemPool.Extends.refl _) fun _ _ hn => hi ▸ hn

lemma set_unique (hc : c.Consistent routes) (h : StandsFor routes c id X atStart)
    (h' : StandsFor routes c id X' atStart') : X = X' ∧ atStart = atStart' := by
  cases h with
  | start =>
    cases h' with
    | start => exact ⟨rfl, rfl⟩
    | indexed hi hn => exact absurd (hc.index_range _ _ hi).1 (Nat.lt_irrefl 0)
  | indexed hi hn =>
    cases h' with
    | start => exact absurd (hc.index_range _ _ hi).1 (Nat.lt_irrefl 0)
    | indexed hi' hn' =>
      obtain rfl := hc.index_inj _ _ _ hi hi'
      exact ⟨hn.set_unique hn', rfl⟩

lemma unique (hc : c.Consistent routes) (h : StandsFor routes c id X atStart)
    (h' : StandsFor routes c id' X atStart) : id = id' := by
  cases h with
  | start =>
    cases h' with
    | start => rfl
  | indexed hi hn =>
    cases h' with
    | indexed hi' hn' =>
      obtain rfl := hn.unique hc.pool hn'
      exact Option.some.inj (hi.symm.trans hi')

lemma nonempty (hc : c.Consistent routes) (h : StandsFor routes c id X false) : X.Nonempty := by
  cases h with
  | indexed hi hn =>
    obtain ⟨w, -, -, hne, hn'⟩ := hc.reached _ _ hi
    rwa [hn.set_unique hn']

lemma lt (hc : c.Consistent routes) (h : StandsFor routes c id X atStart) : id < c.states.size := by
  cases h with
  | start => exact hc.nonempty
  | indexed hi hn => exact (hc.index_range _ _ hi).2

lemma pos (hc : c.Consistent routes) (h : StandsFor routes c id X false) : 0 < id := by
  cases h with
  | indexed hi hn => exact (hc.index_range _ _ hi).1

lemma exists_word (hc : c.Consistent routes) (h : StandsFor routes c id X atStart) :
    ∃ w, (∀ b ∈ w, isPathOctet b = true) ∧ X = Automaton.reached routes w ∧ atStart = w.isEmpty := by
  cases h with
  | start => exact ⟨[], by simp, rfl, rfl⟩
  | indexed hi hn =>
    obtain ⟨w, hne, hw, -, hn'⟩ := hc.reached _ _ hi
    refine ⟨w, hw, hn.set_unique hn', ?_⟩
    rw [eq_comm, List.isEmpty_eq_false_iff]
    exact hne

end StandsFor

lemma Consistent.exists_reached (hc : c.Consistent routes) (hpos : 0 < id) (h : id < c.states.size) :
    ∃ w, w ≠ [] ∧ (∀ b ∈ w, isPathOctet b = true) ∧ (Automaton.reached routes w).Nonempty ∧
      StandsFor routes c id (Automaton.reached routes w) false := by
  obtain ⟨numbers, hi⟩ := hc.index_onto id hpos h
  obtain ⟨w, hne, hw, hx, hn⟩ := hc.reached numbers id hi
  exact ⟨w, hne, hw, hx, .indexed hi hn⟩

lemma Consistent.exists_standsFor (hc : c.Consistent routes) (h : id < c.states.size) :
    ∃ X atStart, StandsFor routes c id X atStart := by
  rcases Nat.eq_zero_or_pos id with rfl | hpos
  · exact ⟨_, _, .start⟩
  · obtain ⟨w, -, -, -, hs⟩ := hc.exists_reached hpos h
    exact ⟨_, _, hs⟩

lemma Filled.mono (h : Filled routes c X atStart state) (hp : c.pool.Extends c'.pool)
    (hi : ∀ (numbers : List Nat) (id : Nat), c.index[numbers]? = some id → c'.index[numbers]? = some id) :
    Filled routes c' X atStart state where
  sorted := h.sorted
  target b id ht := ⟨(h.target b id ht).1, (h.target b id ht).2.mono hp hi⟩
  total := h.total
  accepts := h.accepts

lemma Filled.of_eq (h : Filled routes c X atStart state) (hp : c'.pool = c.pool) (hi : c'.index = c.index) :
    Filled routes c' X atStart state :=
  h.mono (hp ▸ ItemPool.Extends.refl _) fun _ _ hn => hi ▸ hn

lemma Completed.grows (hc : c.Consistent routes) (hc' : c'.Consistent routes) (hx : Completed routes c other)
    (hg : Grows c c') : Completed routes c' other := by
  intro id X atStart state hs hstate hpending hother
  have hlt : id < c.states.size := by
    by_contra hge
    exact hpending (hg.added id (Nat.not_lt.mp hge) (hs.lt hc'))
  obtain ⟨X', atStart', hs'⟩ := hc.exists_standsFor hlt
  obtain ⟨rfl, rfl⟩ := hs.set_unique hc' (hs'.mono hg.pool hg.index)
  have hold := Array.getElem?_eq_getElem hlt
  rw [hg.states _ _ hold] at hstate
  obtain rfl := Option.some.inj hstate
  have hp : id ∉ c.pending.map (·.1) := fun hm => by
    obtain ⟨e, he, rfl⟩ := List.mem_map.mp hm
    exact hpending (List.mem_map_of_mem (hg.pending e he))
  exact (hx id X atStart _ hs' hold hp hother).mono hg.pool hg.index

lemma Consistent.pending_lt (hc : c.Consistent routes) {e : Nat × List Nat} (he : e ∈ c.pending) :
    e.1 < c.states.size :=
  (hc.index_range _ _ (hc.pending_indexed e he)).2

def enter (c : Construction) (numbers : List Nat) : Construction :=
  { c with
    index := c.index.insert numbers c.states.size
    states := c.states.push (State.blank c.states.size)
    pending := (c.states.size, numbers) :: c.pending }

lemma stateOf_of_new (hi : c.index[numbers]? = none) : c.stateOf numbers = (c.states.size, c.enter numbers) := by
  rw [stateOf, hi]
  rfl

@[simp] lemma getElem?_index_enter (c : Construction) (numbers numbers' : List Nat) :
    (c.enter numbers).index[numbers']? = if numbers = numbers' then some c.states.size else c.index[numbers']? := by
  simp [enter, Std.HashMap.getElem?_insert]

lemma ne_of_indexed {numbers' : List Nat} (hi : c.index[numbers]? = none) (h : c.index[numbers']? = some id) :
    numbers ≠ numbers' := by
  rintro rfl
  rw [hi] at h
  cases h

lemma enter_grows (hi : c.index[numbers]? = none) : Grows c (c.enter numbers) where
  pool := ItemPool.Extends.refl c.pool
  index numbers' id h := by simp [ne_of_indexed hi h, h]
  states i state hs := by
    have hlt := (Array.getElem?_eq_some_iff.mp hs).1
    rw [enter, Array.getElem?_push, if_neg (Nat.ne_of_lt hlt), hs]
  pending _ he := List.mem_cons_of_mem _ he
  old e he hlt := by
    rcases List.mem_cons.mp he with rfl | he
    · exact absurd hlt (Nat.lt_irrefl _)
    · exact he
  added id hle hlt := by
    simp only [enter, Array.size_push] at hlt
    obtain rfl : id = c.states.size := by omega
    exact List.mem_cons_self
  count := by
    simp only [enter, Array.size_push, List.length_cons]
    omega

lemma Consistent.enter (hc : c.Consistent routes) (hi : c.index[numbers]? = none)
    (hn : c.pool.NamesReached routes numbers) : Consistent routes (c.enter numbers) where
  pool := hc.pool
  nonempty := Nat.lt_of_lt_of_le hc.nonempty (enter_grows hi).size_le
  numbered i state hs := by
    rw [Construction.enter, Array.getElem?_push] at hs
    split_ifs at hs with he
    · obtain rfl := Option.some.inj hs
      exact he.symm
    · exact hc.numbered i state hs
  index_range numbers' id h := by
    rw [getElem?_index_enter] at h
    rw [Construction.enter, Array.size_push]
    split at h
    · obtain rfl := Option.some.inj h
      exact ⟨hc.nonempty, Nat.lt_succ_self _⟩
    · have hr := hc.index_range numbers' id h
      exact ⟨hr.1, Nat.lt_succ_of_lt hr.2⟩
  index_inj l l' id h h' := by
    rw [getElem?_index_enter] at h h'
    split_ifs at h h' with he he'
    · exact he.symm.trans he'
    · exact absurd (Option.some.inj h).symm (Nat.ne_of_lt (hc.index_range l' id h').2)
    · exact absurd (Option.some.inj h').symm (Nat.ne_of_lt (hc.index_range l id h).2)
    · exact hc.index_inj l l' id h h'
  index_onto id hpos hlt := by
    rw [Construction.enter, Array.size_push] at hlt
    by_cases he : id = c.states.size
    · exact ⟨numbers, by simp [he]⟩
    · obtain ⟨numbers', h⟩ := hc.index_onto id hpos (by omega)
      exact ⟨numbers', (enter_grows hi).index numbers' id h⟩
  reached numbers' id h := by
    rw [getElem?_index_enter] at h
    split_ifs at h with he
    · exact he ▸ hn
    · exact hc.reached numbers' id h
  pending_indexed e he := by
    rcases List.mem_cons.mp he with rfl | he
    · simp
    · exact (enter_grows hi).index _ _ (hc.pending_indexed e he)
  pending_blank e he := by
    rcases List.mem_cons.mp he with rfl | he
    · exact Array.getElem?_push_size
    · exact (enter_grows hi).states _ _ (hc.pending_blank e he)
  pending_nodup := by
    refine List.nodup_cons.mpr ⟨fun hm => ?_, hc.pending_nodup⟩
    obtain ⟨e, he, hs⟩ := List.mem_map.mp hm
    exact absurd hs (Nat.ne_of_lt (hc.pending_lt he))

lemma stateOf_grows (c : Construction) (numbers : List Nat) :
    Grows c (c.stateOf numbers).2 ∧ (c.stateOf numbers).2.index[numbers]? = some (c.stateOf numbers).1 := by
  cases hi : c.index[numbers]? with
  | some id =>
    rw [stateOf, hi]
    exact ⟨Grows.refl c, hi⟩
  | none =>
    rw [stateOf_of_new hi]
    exact ⟨enter_grows hi, by simp⟩

lemma stateOf_consistent (hc : c.Consistent routes) (hn : c.pool.NamesReached routes numbers) :
    (c.stateOf numbers).2.Consistent routes := by
  cases hi : c.index[numbers]? with
  | some id =>
    rw [stateOf, hi]
    exact hc
  | none =>
    rw [stateOf_of_new hi]
    exact hc.enter hi hn

@[simp] lemma stateOf_pool (c : Construction) (numbers : List Nat) : (c.stateOf numbers).2.pool = c.pool := by
  rw [stateOf]
  split <;> rfl

@[simp] lemma connect_pool (c : Construction) (successors : List (UInt8 × List Nat)) :
    (c.connect successors).2.pool = c.pool := by
  induction successors generalizing c with
  | nil => rfl
  | cons s rest ih =>
    rw [connect]
    split
    · exact ih c
    · exact (ih _).trans (stateOf_pool c s.2)

lemma connect_grows (c : Construction) (successors : List (UInt8 × List Nat)) : Grows c (c.connect successors).2 := by
  induction successors generalizing c with
  | nil => exact Grows.refl c
  | cons s rest ih =>
    rw [connect]
    split
    · exact ih c
    · exact (stateOf_grows c s.2).1.trans (ih _)

lemma connect_spec (hc : c.Consistent routes) (successors : List (UInt8 × List Nat))
    (hs : ∀ s ∈ successors, s.2 ≠ [] → c.pool.NamesReached routes s.2) :
    (c.connect successors).2.Consistent routes ∧
      ((c.connect successors).1.map (·.1)).Sublist (successors.map (·.1)) ∧
      (∀ t ∈ (c.connect successors).1, ∃ numbers, (t.1, numbers) ∈ successors ∧
        (c.connect successors).2.index[numbers]? = some t.2) ∧
      ∀ s ∈ successors, s.2 ≠ [] → ∃ id, (s.1, id) ∈ (c.connect successors).1 := by
  induction successors generalizing c with
  | nil => exact ⟨hc, List.Sublist.refl _, by simp [connect], by simp⟩
  | cons s rest ih =>
    obtain ⟨hs, hrest⟩ := List.forall_mem_cons.mp hs
    rw [connect]
    by_cases hne : s.2 = []
    · obtain ⟨hc', hsub, ht, hall⟩ := ih hc hrest
      rw [if_pos (List.isEmpty_iff.mpr hne)]
      refine ⟨hc', hsub.cons _, fun t hm => ?_, List.forall_mem_cons.mpr ⟨fun h => absurd hne h, hall⟩⟩
      obtain ⟨numbers, hm, hi⟩ := ht t hm
      exact ⟨numbers, List.mem_cons_of_mem _ hm, hi⟩
    · obtain ⟨hg, hi⟩ := stateOf_grows c s.2
      obtain ⟨hc', hsub, ht, hall⟩ := ih (stateOf_consistent hc (hs hne)) fun t hm hn =>
        (hrest t hm hn).mono hg.pool
      rw [if_neg (fun h => hne (List.isEmpty_iff.mp h))]
      refine ⟨hc', hsub.cons_cons _, List.forall_mem_cons.mpr ⟨?_, fun t hm => ?_⟩,
        List.forall_mem_cons.mpr ⟨fun _ => ⟨_, List.mem_cons_self⟩, fun t hm hn => ?_⟩⟩
      · exact ⟨s.2, List.mem_cons_self, (connect_grows _ rest).index _ _ hi⟩
      · obtain ⟨numbers, hm, hi⟩ := ht t hm
        exact ⟨numbers, List.mem_cons_of_mem _ hm, hi⟩
      · obtain ⟨id, hm⟩ := hall t hm hn
        exact ⟨id, List.mem_cons_of_mem _ hm⟩

end Construction

end PathRouter.Automaton
