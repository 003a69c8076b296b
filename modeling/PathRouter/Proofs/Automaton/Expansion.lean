import PathRouter.Proofs.Automaton.Consistency

/-! Expanding a state gives it the transitions and the route of its item set, and leaves the other states as
they are. It fails exactly if two routes accept in the set. -/

namespace PathRouter.Automaton.Construction

variable {routes : Array Pattern} {c c' : Construction} {id : Nat} {X : Set Item} {atStart : Bool}
  {numbers : List Nat} {other : Option Nat}

section Outlooks

variable (atStart) (hn : c.pool.Names numbers X)
include hn

lemma mem_outlooks {r : Nat} {o : Outlook} :
    (r, o) ∈ c.outlooks routes numbers atStart ↔ ∃ item ∈ X, item.route = r ∧
      ∃ route, routes[r]? = some route ∧ o = item.outlook route.segments atStart := by
  simp only [outlooks, List.mem_filterMap]
  constructor
  · rintro ⟨n, hm, h⟩
    obtain ⟨item, hi, h⟩ := Option.bind_eq_some_iff.mp h
    obtain ⟨route, hr, h⟩ := Option.bind_eq_some_iff.mp h
    obtain ⟨rfl, rfl⟩ := Prod.mk.inj (Option.some.inj h)
    obtain ⟨item', hx, hi'⟩ := hn.known n hm
    obtain rfl := Option.some.inj (hi.symm.trans hi')
    exact ⟨item, hx, rfl, route, hr, rfl⟩
  · rintro ⟨item, hx, rfl, route, hr, rfl⟩
    obtain ⟨n, hm, hi⟩ := hn.named item hx
    exact ⟨n, hm, Option.bind_eq_some_iff.mpr ⟨item, hi, Option.bind_eq_some_iff.mpr ⟨route, hr, rfl⟩⟩⟩

lemma mem_accepting_outlooks (r : Nat) :
    r ∈ numberSet (((c.outlooks routes numbers atStart).filter (·.2.accepts)).map (·.1)) ↔
      r ∈ accepting routes X atStart := by
  simp only [mem_numberSet, List.mem_map, List.mem_filter]
  constructor
  · rintro ⟨⟨r, o⟩, ⟨hm, ha⟩, rfl⟩
    obtain ⟨item, hx, hr, route, hroute, rfl⟩ := (mem_outlooks atStart hn).mp hm
    exact ⟨item, hx, hr, route, hroute, ha⟩
  · rintro ⟨item, hx, hr, route, hroute, ha⟩
    exact ⟨(r, _), ⟨(mem_outlooks atStart hn).mpr ⟨item, hx, hr, route, hroute, rfl⟩, ha⟩, rfl⟩

lemma mem_moves (b : UInt8) :
    {next | next ∈ ((((c.outlooks routes numbers atStart).flatMap (·.2.moves)).filter (·.1.admits b)).map (·.2))} =
      follow routes X b := by
  ext next
  simp only [Set.mem_ofPred_eq, List.mem_map, List.mem_filter, List.mem_flatMap]
  constructor
  · rintro ⟨⟨label, next⟩, ⟨⟨⟨r, o⟩, hm, hl⟩, hb⟩, rfl⟩
    obtain ⟨item, hx, rfl, route, hroute, rfl⟩ := (mem_outlooks atStart hn).mp hm
    exact ⟨item, hx, route, hroute, (item.next?_eq_some_iff _ _ b next).mpr ⟨label, hl, hb⟩⟩
  · rintro ⟨item, hx, route, hroute, hnext⟩
    obtain ⟨label, hl, hb⟩ := (item.next?_eq_some_iff _ atStart b next).mp hnext
    have hm := (mem_outlooks atStart hn).mpr ⟨item, hx, rfl, route, hroute, rfl⟩
    exact ⟨(label, next), ⟨⟨(item.route, _), hm, hl⟩, hb⟩, rfl⟩

end Outlooks

lemma map_filter_zip {pool : ItemPool} {moves : List (Label × Item)} {numbers : List Nat}
    (h : numbers.map (pool.items[·]?) = (moves.map (·.2)).map some) (b : UInt8) :
    ((((moves.map (·.1)).zip numbers).filter (·.1.admits b)).map (·.2)).map (pool.items[·]?) =
      ((moves.filter (·.1.admits b)).map (·.2)).map some := by
  induction moves generalizing numbers with
  | nil => rfl
  | cons m rest ih =>
    cases numbers with
    | nil => cases h
    | cons n numbers =>
      obtain ⟨hn, hr⟩ := List.cons.inj h
      rw [List.map_cons, List.zip_cons_cons, List.filter_cons, List.filter_cons]
      cases ha : m.1.admits b with
      | false => exact ih hr
      | true => exact congrArg₂ List.cons hn (ih hr)

lemma Consistent.withPool (hc : c.Consistent routes) {pool : ItemPool} (hp : pool.Consistent)
    (he : c.pool.Extends pool) : Consistent routes { c with pool := pool } :=
  { hc with
    pool := hp
    reached := fun numbers id hi => (hc.reached numbers id hi).mono he }

lemma withPool_grows (c : Construction) {pool : ItemPool} (he : c.pool.Extends pool) :
    Grows c { c with pool := pool } where
  pool := he
  index _ _ h := h
  states _ _ h := h
  pending _ h := h
  old _ h _ := h
  added _ h h' := absurd h' (Nat.not_lt.mpr h)
  count := rfl

lemma getElem?_set!_eq_some {states : Array State} {i j : Nat} {state new : State}
    (h : (states.set! i new)[j]? = some state) : (i = j ∧ state = new) ∨ (i ≠ j ∧ states[j]? = some state) := by
  rw [Array.set!_eq_setIfInBounds, Array.getElem?_setIfInBounds] at h
  split_ifs at h with he hlt
  · exact .inl ⟨he, (Option.some.inj h).symm⟩
  · exact .inr ⟨he, h⟩

lemma Consistent.fill (hc : c.Consistent routes) (hp : id ∉ c.pending.map (·.1))
    (transitions : List (UInt8 × Nat)) (accepts : Option Nat) :
    Consistent routes { c with states := c.states.set! id ⟨id, transitions, accepts⟩ } := by
  have hsize : (c.states.set! id ⟨id, transitions, accepts⟩).size = c.states.size := Array.size_set! ..
  exact { hc with
    nonempty := hsize.symm ▸ hc.nonempty
    numbered := fun i state hs => by
      rcases getElem?_set!_eq_some hs with ⟨he, rfl⟩ | ⟨-, hs⟩
      · exact he
      · exact hc.numbered i state hs
    index_range := fun numbers id' hi => hsize.symm ▸ hc.index_range numbers id' hi
    index_onto := fun id' hpos hlt => hc.index_onto id' hpos (hsize ▸ hlt)
    pending_blank := fun e he => by
      have hne : id ≠ e.1 := fun hid => hp (List.mem_map.mpr ⟨e, he, hid.symm⟩)
      rw [Array.set!_eq_setIfInBounds, Array.getElem?_setIfInBounds, if_neg hne]
      exact hc.pending_blank e he }

lemma Completed.fill (hx : Completed routes c (some id)) (hc : c.Consistent routes)
    (hs : StandsFor routes c id X atStart) {transitions : List (UInt8 × Nat)} {accepts : Option Nat}
    (hf : Filled routes c X atStart ⟨id, transitions, accepts⟩) :
    Completed routes { c with states := c.states.set! id ⟨id, transitions, accepts⟩ } none := by
  intro id' X' atStart' state hs' hstate hpending _
  have hs' : StandsFor routes c id' X' atStart' := hs'.of_eq rfl rfl
  rcases getElem?_set!_eq_some hstate with ⟨rfl, rfl⟩ | ⟨hne, hstate⟩
  · obtain ⟨rfl, rfl⟩ := hs.set_unique hc hs'
    exact hf.of_eq rfl rfl
  · have hother : some id' ≠ some id := fun he => hne (Option.some.inj he).symm
    exact (hx id' X' atStart' state hs' hstate hpending hother).of_eq rfl rfl

lemma head?_eq_some_iff {l : List Nat} (h : ¬ 1 < l.length) (r : Nat) : r ∈ l ↔ l.head? = some r := by
  match l with
  | [] => simp
  | [a] => simp [eq_comm]
  | _ :: _ :: _ => exact absurd (Nat.succ_lt_succ (Nat.succ_pos _)) h

def successors (c : Construction) (routes : Array Pattern) (numbers : List Nat) (atStart : Bool) :
    List (UInt8 × List Nat) × ItemPool :=
  let moves := (c.outlooks routes numbers atStart).flatMap (·.2.moves)
  let (numbers, pool) := c.pool.internAll (moves.map (·.2))
  let targets := (moves.map (·.1)).zip numbers
  (pathOctets.map fun b => (b, numberSet ((targets.filter (·.1.admits b)).map (·.2))), pool)

lemma successors_spec (routes : Array Pattern) (hp : c.pool.Consistent) (hn : c.pool.Names numbers X) (atStart : Bool) :
    (c.successors routes numbers atStart).2.Consistent ∧ c.pool.Extends (c.successors routes numbers atStart).2 ∧
      (c.successors routes numbers atStart).1.map (·.1) = pathOctets ∧
      ∀ s ∈ (c.successors routes numbers atStart).1,
        (c.successors routes numbers atStart).2.Names s.2 (follow routes X s.1) := by
  obtain ⟨hpool, he, hnumbers⟩ := ItemPool.internAll_spec hp
    (((c.outlooks routes numbers atStart).flatMap (·.2.moves)).map (·.2))
  refine ⟨hpool, he, ?_, fun s hm => ?_⟩
  · rw [successors, List.map_map]
    exact List.map_id pathOctets
  · obtain ⟨b, -, rfl⟩ := List.mem_map.mp hm
    rw [← mem_moves atStart hn b]
    exact ItemPool.names_numberSet (map_filter_zip hnumbers b)

lemma mem_successors_pool (hn : c.pool.Names numbers X) {next : Item}
    (h : next ∈ (c.successors routes numbers atStart).2.items) :
    next ∈ c.pool.items ∨ ∃ b, next ∈ follow routes X b := by
  refine (ItemPool.mem_internAll h).imp_right fun hm => ?_
  obtain ⟨⟨label, next⟩, hl, rfl⟩ := List.mem_map.mp hm
  obtain ⟨⟨r, o⟩, ho, hl⟩ := List.mem_flatMap.mp hl
  obtain ⟨item, hx, rfl, route, hroute, rfl⟩ := (mem_outlooks atStart hn).mp ho
  obtain ⟨b, hb⟩ := label.exists_admits
  exact ⟨b, item, hx, route, hroute, (item.next?_eq_some_iff _ _ b next).mpr ⟨label, hl, hb⟩⟩

def connected (c : Construction) (routes : Array Pattern) (numbers : List Nat) (atStart : Bool) :
    List (UInt8 × Nat) × Construction :=
  connect { c with pool := (c.successors routes numbers atStart).2 } (c.successors routes numbers atStart).1

@[simp] lemma connected_pool (c : Construction) (routes : Array Pattern) (numbers : List Nat) (atStart : Bool) :
    (c.connected routes numbers atStart).2.pool = (c.successors routes numbers atStart).2 :=
  connect_pool _ _

lemma connected_grows (c : Construction) (routes : Array Pattern) (numbers : List Nat) (atStart : Bool)
    (he : c.pool.Extends (c.successors routes numbers atStart).2) : Grows c (c.connected routes numbers atStart).2 :=
  (withPool_grows c he).trans (connect_grows _ _)

lemma exists_of_expand_eq_ok (hn : c.pool.Names numbers X) (h : c.expand routes id numbers atStart = .ok c') :
    ∃ accepts : Option Nat, (∀ r, r ∈ accepting routes X atStart ↔ accepts = some r) ∧
      c' = { (c.connected routes numbers atStart).2 with
        states := (c.connected routes numbers atStart).2.states.set! id
          ⟨id, (c.connected routes numbers atStart).1, accepts⟩ } := by
  simp only [expand] at h
  split_ifs at h with hacc
  refine ⟨_, fun r => ?_, (Except.ok.inj h).symm⟩
  rw [← mem_accepting_outlooks atStart hn, head?_eq_some_iff hacc]

/-- The state of a set, once expanded, is filled, and what was filled before still is. -/
lemma expand_eq_ok (hc : c.Consistent routes) (hx : Completed routes c (some id))
    (hs : StandsFor routes c id X atStart) (hn : c.pool.Names numbers X) (hp : id ∉ c.pending.map (·.1))
    (h : c.expand routes id numbers atStart = .ok c') :
    c'.Consistent routes ∧ Completed routes c' none ∧
      c'.states.size + c.pending.length = c.states.size + c'.pending.length := by
  obtain ⟨hpool, he, hkeys, hnames⟩ := successors_spec routes hc.pool hn atStart
  obtain ⟨accepts, hacc, rfl⟩ := exists_of_expand_eq_ok hn h
  have hg := c.connected_grows routes numbers atStart he
  rw [connected] at hg ⊢
  generalize (c.successors routes numbers atStart).1 = successors at hkeys hnames hg ⊢
  generalize (c.successors routes numbers atStart).2 = pool at hpool he hnames hg ⊢
  have hoctet : ∀ s ∈ successors, isPathOctet s.1 = true := fun s hm =>
    (mem_pathOctets s.1).mp (hkeys ▸ List.mem_map_of_mem hm)
  obtain ⟨w, hw, rfl, -⟩ := hs.exists_word hc
  have hreached : ∀ s ∈ successors, s.2 ≠ [] → pool.NamesReached routes s.2 := by
    intro s hm hne
    have hl := hnames s hm
    have hnonempty : (follow routes (Automaton.reached routes w) s.1).Nonempty := by
      by_contra hempty
      exact hne (hl.eq_nil_iff.mpr hempty)
    rw [follow_reached] at hl hnonempty
    refine ⟨w ++ [s.1], by simp, fun b hb => ?_, hnonempty, hl⟩
    rcases List.mem_append.mp hb with hb | hb
    · exact hw b hb
    · exact List.mem_singleton.mp hb ▸ hoctet s hm
  obtain ⟨hc', hsub, htrans, hall⟩ := connect_spec (hc.withPool hpool he) successors hreached
  have hextends := (connect_grows { c with pool := pool } successors).pool
  have hp' : id ∉ ((connect { c with pool := pool } successors).2.pending.map (·.1)) := fun hm => by
    obtain ⟨e, hpending, rfl⟩ := List.mem_map.mp hm
    exact hp (List.mem_map_of_mem (hg.old e hpending (hs.lt hc)))
  have hs' := hs.mono hg.pool hg.index
  refine ⟨hc'.fill hp' _ _, (hx.grows hc hc' hg).fill hc' hs' ⟨?_, fun b id' ht => ?_, fun b hb hne => ?_, hacc⟩, ?_⟩
  · rw [hkeys] at hsub
    exact List.pairwise_map.mp (pathOctets_sorted.sublist hsub)
  · obtain ⟨l, hm, hi⟩ := htrans _ ht
    exact ⟨hoctet _ hm, .indexed hi ((hnames _ hm).mono hextends)⟩
  · obtain ⟨s, hm, rfl⟩ := List.mem_map.mp (hkeys ▸ (mem_pathOctets b).mpr hb)
    exact hall s hm fun hnil => (hnames s hm).eq_nil_iff.mp hnil hne
  · rw [Array.size_set!]
    exact hg.count

lemma expand_eq_error (hn : c.pool.Names numbers X) {conflict : Conflict}
    (h : c.expand routes id numbers atStart = .error conflict) :
    ∃ accs : List Nat, accs.Pairwise (· < ·) ∧ (∀ r, r ∈ accs ↔ r ∈ accepting routes X atStart) ∧
      1 < accs.length ∧ conflict.sources = accs.filterMap fun r => routes[r]?.map (·.source) := by
  simp only [expand] at h
  split_ifs at h with hacc
  obtain rfl := Except.error.inj h
  exact ⟨_, numberSet_sorted _, mem_accepting_outlooks atStart hn, hacc, rfl⟩

end PathRouter.Automaton.Construction
