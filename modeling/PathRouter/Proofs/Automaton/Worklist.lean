import PathRouter.Proofs.Automaton.Matching
import PathRouter.Proofs.Automaton.Representation
import PathRouter.Proofs.Automaton.StateBound
import PathRouter.Proofs.Automaton.Standing

/-! The worklist of a construction. Between two expansions each state has been expanded, once, or waits with the item
set that it is indexed by, once and blank; and a state that has been expanded has exactly the transitions of its set. -/

namespace PathRouter.Automaton

/-- Where an item leads on an octet: on through a literal, into a variable or further into it, or over the separator
after a segment to the next segment or once more to a quantified variable at the end. -/
inductive Item.Leads (segments : List Segment) (item : Item) : UInt8 → Item → Prop
  | octet {text : String} {b : UInt8} (hs : segments[item.segment]? = some (.literal text))
      (hb : (Utf8.encode text.toList)[item.offset]? = some b) :
      Leads segments item b ⟨item.route, item.segment, item.offset + 1⟩
  | letter {name : String} {quantifier : Option Quantifier} {b : UInt8}
      (hs : segments[item.segment]? = some (.var name quantifier)) (hb : isLetter b = true) :
      Leads segments item b ⟨item.route, item.segment, 1⟩
  | next {segment : Segment} (hs : segments[item.segment]? = some segment) (he : segment.EndsAt item.offset)
      (hn : item.segment + 1 < segments.length) : Leads segments item slash ⟨item.route, item.segment + 1, 0⟩
  | again {segment : Segment} (hs : segments[item.segment]? = some segment) (he : segment.EndsAt item.offset)
      (hn : item.segment + 1 = segments.length) (hq : segment.isQuantified = true) :
      Leads segments item slash ⟨item.route, item.segment, 0⟩

lemma Item.next?_eq_some_iff_leads (item : Item) (segments : List Segment) (b : UInt8) (next : Item) :
    item.next? segments b = some next ↔ item.Leads segments b next := by
  constructor
  · intro h
    rcases next?_cases h with ⟨text, hs, hb, rfl⟩ | ⟨name, quantifier, hs, hb, rfl⟩ | ⟨segment, hs, he, rfl, ho⟩
    · exact .octet hs hb
    · exact .letter hs hb
    · rcases (onward?_eq_some_iff hs next).mp ho with ⟨hn, rfl⟩ | ⟨hn, hq, rfl⟩
      · exact .next hs he hn
      · exact .again hs he hn hq
  · intro h
    cases h with
    | octet hs hb => rw [next?_inside hs hb, if_pos rfl]
    | letter hs hb => exact next?_of_variable hs hb
    | next hs he hn => exact (next?_slash_of_endsAt hs he).trans ((onward?_eq_some_iff hs _).mpr (.inl ⟨hn, rfl⟩))
    | again hs he hn hq =>
      exact (next?_slash_of_endsAt hs he).trans ((onward?_eq_some_iff hs _).mpr (.inr ⟨hn, hq, rfl⟩))

def successorItems (routes : Array Pattern) (X : Set Item) (b : UInt8) : Set Item :=
  {next | ∃ item ∈ X, ∃ route, routes[item.route]? = some route ∧ item.Leads route.segments b next}

lemma follow_eq_successorItems (routes : Array Pattern) (X : Set Item) (b : UInt8) :
    follow routes X b = successorItems routes X b := by
  simp only [follow, successorItems, Item.next?_eq_some_iff_leads]

lemma isPathOctet_of_isPlain {text : String} (h : (Segment.literal text).IsPlain) {b : UInt8}
    (hb : b ∈ Utf8.encode text.toList) : isPathOctet b = true := by
  rw [Utf8.encode_of_ascii fun c hc => Percent.isVisible_ascii (h c hc).1] at hb
  obtain ⟨c, hc, rfl⟩ := List.mem_map.mp hb
  exact isPathOctet_toUInt8 (h c hc).1

variable {routes : Array Pattern}

lemma isPathOctet_of_mem_successorItems (hr : ∀ p ∈ routes.toList, p.IsRead) {X : Set Item} {b : UInt8} {next : Item}
    (h : next ∈ successorItems routes X b) : isPathOctet b = true := by
  obtain ⟨item, -, p, hp, hleads⟩ := h
  have hproper := (hr p (Array.mem_toList_iff.mpr (Array.mem_of_getElem? hp))).proper
  cases hleads with
  | octet hs hb => exact isPathOctet_of_isPlain (hproper.isPlain (List.mem_of_getElem? hs)) (List.mem_of_getElem? hb)
  | letter hs hb => exact ((Bool.and_eq_true _ _).mp hb).1
  | next => decide
  | again => decide

namespace Construction

structure Steps (routes : Array Pattern) (c : Construction) (X : Set Item) (state : State) : Prop where
  sorted : state.transitions.Pairwise fun t u => t.1 < u.1
  target : ∀ b id, (b, id) ∈ state.transitions → StandsFor routes c id (successorItems routes X b) false
  total : ∀ b, isPathOctet b = true → (successorItems routes X b).Nonempty → ∃ id, (b, id) ∈ state.transitions

lemma Filled.steps {c : Construction} {X : Set Item} {atStart : Bool} {state : State}
    (h : Filled routes c X atStart state) : Steps routes c X state where
  sorted := h.sorted
  target b id ht := by
    rw [← follow_eq_successorItems]
    exact (h.target b id ht).2
  total b hb hne := by
    rw [← follow_eq_successorItems] at hne
    exact h.total b hb hne

/-- Whether a state waits to be expanded: it is pending once, with its own item set, and is blank. -/
def Waits (c : Construction) (id : Nat) : Prop :=
  ∃ numbers, c.index[numbers]? = some id ∧ c.pending.count (id, numbers) = 1 ∧ (c.pending.map (·.1)).count id = 1 ∧
    c.states[id]? = some (State.blank id)

lemma Consistent.waits {c : Construction} (hc : c.Consistent routes) {id : Nat} (h : id ∈ c.pending.map (·.1)) :
    c.Waits id := by
  have hcount := List.count_eq_one_of_mem hc.pending_nodup h
  obtain ⟨⟨_, numbers⟩, he, rfl⟩ := List.mem_map.mp h
  exact ⟨numbers, hc.pending_indexed _ he, List.count_eq_one_of_mem hc.pending_nodup.of_map he, hcount,
    hc.pending_blank _ he⟩

end Construction

namespace Expansion

open Construction

variable {m n id : Nat} {e e' : Expansion} {c : Construction}

lemma Runs.unique (h : Runs routes n e) (h' : Runs routes n e') : e = e' := by
  induction h generalizing e' with
  | first =>
    cases h'
    rfl
  | next _ ho hn ih =>
    cases h' with
    | next h' ho' hn' =>
      obtain rfl := ih h'
      obtain rfl := Except.ok.inj (ho.symm.trans ho')
      exact Option.some.inj (hn.symm.trans hn')

def IsExpanded (routes : Array Pattern) (n id : Nat) : Prop :=
  ∃ m < n, ∃ e, Runs routes m e ∧ e.id = id

lemma isExpanded_succ_iff (h : Runs routes n e) :
    IsExpanded routes (n + 1) id ↔ IsExpanded routes n id ∨ id = e.id := by
  constructor
  · rintro ⟨m, hm, e', h', rfl⟩
    rcases Nat.lt_succ_iff_lt_or_eq.mp hm with hm | rfl
    · exact .inl ⟨m, hm, e', h', rfl⟩
    · exact .inr (by rw [h.unique h'])
  · rintro (⟨m, hm, hid⟩ | rfl)
    · exact ⟨m, Nat.lt_succ_of_lt hm, hid⟩
    · exact ⟨n, Nat.lt_succ_self n, e, h, rfl⟩

lemma Sound.id_lt (h : e.Sound routes n) : e.id < e.construction.states.size := by
  obtain ⟨X, hs, -⟩ := h.stands
  exact hs.lt h.consistent

/-- An expansion makes pending the states that are new with it, and no others. -/
lemma Sound.mem_pending_iff (h : e.Sound routes n) (ho : e.outcome routes = .ok c) :
    e.construction.states.size ≤ c.states.size ∧ ∀ id < c.states.size,
      id ∈ c.pending.map (·.1) ↔ id ∈ e.construction.pending.map (·.1) ∨ e.construction.states.size ≤ id := by
  obtain ⟨X, hs, hn⟩ := h.stands
  obtain ⟨-, he, -⟩ := successors_spec routes h.consistent.pool hn e.atStart
  have hg := e.construction.connected_grows routes e.numbers e.atStart he
  obtain ⟨accepts, -, rfl⟩ := exists_of_expand_eq_ok hn ho
  simp only [Array.size_set!]
  refine ⟨hg.size_le, fun id hid => ⟨fun hm => ?_, ?_⟩⟩
  · obtain ⟨entry, hentry, rfl⟩ := List.mem_map.mp hm
    rcases Nat.lt_or_ge entry.1 e.construction.states.size with hlt | hle
    · exact .inl (List.mem_map_of_mem (hg.old entry hentry hlt))
    · exact .inr hle
  · rintro (hm | hle)
    · obtain ⟨entry, hentry, rfl⟩ := List.mem_map.mp hm
      exact List.mem_map_of_mem (hg.pending entry hentry)
    · exact hg.added id hle hid

lemma isExpanded_iff_of_outcome (h : Runs routes n e) (ho : e.outcome routes = .ok c)
    (hbefore : ∀ id, IsExpanded routes n id ↔
      (id < e.construction.states.size ∧ id ∉ e.construction.pending.map (·.1)) ∧ id ≠ e.id) (id : Nat) :
    IsExpanded routes (n + 1) id ↔ id < c.states.size ∧ id ∉ c.pending.map (·.1) := by
  -- The state of this expansion had been taken from the worklist, so with it those expanded are all that were not
  -- there.
  have hnow : IsExpanded routes (n + 1) id ↔
      id < e.construction.states.size ∧ id ∉ e.construction.pending.map (·.1) := by
    rw [isExpanded_succ_iff h, hbefore]
    constructor
    · rintro (⟨hmade, -⟩ | rfl)
      · exact hmade
      · exact ⟨h.sound.id_lt, h.sound.not_pending⟩
    · intro hmade
      by_cases he : id = e.id
      · exact .inr he
      · exact .inl ⟨hmade, he⟩
  obtain ⟨hle, hmem⟩ := h.sound.mem_pending_iff ho
  rw [hnow]
  constructor
  · rintro ⟨hlt, hp⟩
    have hlt' := Nat.lt_of_lt_of_le hlt hle
    exact ⟨hlt', fun hm => ((hmem id hlt').mp hm).elim hp (Nat.not_le.mpr hlt)⟩
  · rintro ⟨hlt, hp⟩
    obtain ⟨hp, hlt⟩ := not_or.mp (mt (hmem id hlt).mpr hp)
    exact ⟨Nat.not_le.mp hlt, hp⟩

/-- The states that have been expanded are those that are there and not pending, but for the one about to be. -/
lemma isExpanded_iff_of_runs (h : Runs routes n e) (id : Nat) : IsExpanded routes n id ↔
    (id < e.construction.states.size ∧ id ∉ e.construction.pending.map (·.1)) ∧ id ≠ e.id := by
  induction h generalizing id with
  | first =>
    refine iff_of_false (fun ⟨_, hm, _⟩ => absurd hm (Nat.not_lt_zero _)) fun ⟨⟨hlt, _⟩, hne⟩ => hne ?_
    exact Nat.lt_one_iff.mp hlt
  | @next n e e' c h ho hn ih =>
    obtain ⟨rest, hpending, he⟩ := exists_of_next?_eq_some hn
    have hconstruction : e'.construction = { c with pending := rest } := congrArg Expansion.construction he
    rw [isExpanded_iff_of_outcome h ho ih, hpending, hconstruction, List.map_cons, List.mem_cons, not_or, and_assoc,
      and_comm (a := id ≠ e'.id)]

lemma Runs.id_injective (h : Runs routes m e) (h' : Runs routes n e') (he : e.id = e'.id) : m = n := by
  have hlt {m n : Nat} {e e' : Expansion} (h : Runs routes m e) (h' : Runs routes n e') (he : e.id = e'.id) :
      ¬ m < n := fun hm => ((isExpanded_iff_of_runs h' e.id).mp ⟨m, hm, e, h, rfl⟩).2 he
  exact Nat.le_antisymm (Nat.not_lt.mp (hlt h' h he.symm)) (Nat.not_lt.mp (hlt h h' he))

structure IsBetween (routes : Array Pattern) (n : Nat) (c : Construction) : Prop where
  items_numbered : ∀ (item : Item) (k : Nat), c.pool.numbers[item]? = some k ↔ c.pool.items[k]? = some item
  numbers_dense : ∀ k, k < c.pool.items.size ↔ ∃ item : Item, c.pool.numbers[item]? = some k
  keys_sorted : ∀ (numbers : List Nat) (id : Nat), c.index[numbers]? = some id →
    numbers.Pairwise (· < ·) ∧ ∀ k ∈ numbers, k < c.pool.items.size
  keys_distinct : ∀ (numbers numbers' : List Nat) (id : Nat), c.index[numbers]? = some id →
    c.index[numbers']? = some id → numbers = numbers'
  keys_cover : ∀ id, (∃ numbers : List Nat, c.index[numbers]? = some id) ↔ 0 < id ∧ id < c.states.size
  states_numbered : ∀ (id : Nat) (state : State), c.states[id]? = some state → state.id = id
  pending_indexed : ∀ entry ∈ c.pending, c.index[entry.2]? = some entry.1
  expanded_or_waits : ∀ id < c.states.size,
    (IsExpanded routes n id ∧ id ∉ c.pending.map (·.1)) ∨ (¬ IsExpanded routes n id ∧ c.Waits id)
  steps : ∀ id, IsExpanded routes n id → ∃ state X atStart, c.states[id]? = some state ∧
    StandsFor routes c id X atStart ∧ Steps routes c X state

lemma Runs.isBetween (h : Runs routes n e) (ho : e.outcome routes = .ok c) : IsBetween routes (n + 1) c := by
  obtain ⟨hc, hx, -, -⟩ := h.sound.done ho
  have hexpanded := isExpanded_iff_of_outcome h ho (isExpanded_iff_of_runs h)
  refine ⟨hc.pool, fun k => ?_, fun numbers id hi => ?_, hc.index_inj,
    fun id => ⟨fun ⟨numbers, hi⟩ => ?_, fun hid => ?_⟩, hc.numbered, hc.pending_indexed, fun id hlt => ?_,
    fun id hid => ?_⟩
  · simp only [hc.pool _ k, Array.getElem?_eq_some_iff]
    exact ⟨fun hk => ⟨_, hk, rfl⟩, fun ⟨_, hk, _⟩ => hk⟩
  · obtain ⟨w, -, -, -, hnames⟩ := hc.reached numbers id hi
    refine ⟨hnames.sorted, fun k hk => ?_⟩
    obtain ⟨item, -, hitem⟩ := hnames.known k hk
    exact (Array.getElem?_eq_some_iff.mp hitem).1
  · exact hc.index_range numbers id hi
  · exact hc.index_onto id hid.1 hid.2
  · by_cases hp : id ∈ c.pending.map (·.1)
    · exact .inr ⟨fun he => ((hexpanded id).mp he).2 hp, hc.waits hp⟩
    · exact .inl ⟨(hexpanded id).mpr ⟨hlt, hp⟩, hp⟩
  · obtain ⟨hlt, hp⟩ := (hexpanded id).mp hid
    obtain ⟨X, atStart, hs⟩ := hc.exists_standsFor hlt
    have hstate := Array.getElem?_eq_getElem hlt
    exact ⟨_, X, atStart, hstate, hs, (hx id X atStart _ hs hstate hp (by simp)).steps⟩

end Expansion

/-- Whenever the next pending state is looked for, pool, index, states and worklist fit together, and no state is
expanded twice on the way to what is built. Of routes that have been read, no item leads anywhere on an octet that
cannot stand in a path. -/
theorem build_worklist (routes : Array Pattern) :
    (∃ n e, Expansion.Runs routes n e ∧ e.IsLast routes ∧ build routes = (e.outcome routes).map (·.states)) ∧
      (∀ n e c, Expansion.Runs routes n e → e.outcome routes = .ok c → Expansion.IsBetween routes (n + 1) c) ∧
      (∀ m n e e', Expansion.Runs routes m e → Expansion.Runs routes n e' → e.id = e'.id → m = n ∧ e = e') ∧
      ((∀ p ∈ routes.toList, p.IsRead) →
        ∀ X b, (successorItems routes X b).Nonempty → isPathOctet b = true) := by
  refine ⟨Expansion.exists_last routes, fun n e c h ho => h.isBetween ho, fun m n e e' h h' he => ?_,
    fun hr X b ⟨next, hnext⟩ => isPathOctet_of_mem_successorItems hr hnext⟩
  obtain rfl := h.id_injective h' he
  exact ⟨rfl, h.unique h'⟩

def anySegments : Pattern :=
  ⟨[.var "rest" (some .plus)], "/{rest}+"⟩

/-- A separator leads back to the item set of the start, which then has a second state. -/
theorem build_worklist_anySegments : (∀ p ∈ [anySegments], p.IsRead) ∧
    (∃ n e c, Expansion.Runs #[anySegments] n e ∧ e.outcome #[anySegments] = .ok c ∧ c.pending = [] ∧
      Expansion.IsBetween #[anySegments] (n + 1) c ∧
      ∃ id, 0 < id ∧ Construction.StandsFor #[anySegments] c id (reached #[anySegments] []) false) ∧
    (∀ m e, Expansion.Runs #[anySegments] m e → e.id = 0 → m = 0) ∧
    ∀ X b, (successorItems #[anySegments] X b).Nonempty → isPathOctet b = true := by
  have hr : ∀ p ∈ [anySegments], p.IsRead := List.forall_mem_singleton.mpr ⟨.template, by decide +kernel⟩
  have hagain : reached #[anySegments] [0x61, slash] = reached #[anySegments] [] := reached_eq_of_positions (by decide)
  have hpath : ∀ b ∈ [0x61, slash], isPathOctet b = true :=
    List.forall_mem_cons.mpr ⟨rfl, List.forall_mem_singleton.mpr rfl⟩
  have hne : (reached #[anySegments] [0x61, slash]).Nonempty := by
    rw [hagain]
    exact ⟨⟨0, 0, 0⟩, mem_reached_nil.mpr ⟨Nat.one_pos, rfl⟩⟩
  obtain ⟨⟨n, e, h, hlast, hbuild⟩, hbetween, honce, hoctets⟩ := build_worklist #[anySegments]
  obtain ⟨states, hok⟩ := exists_build_of_size_le_one (Nat.le_refl (#[anySegments].size))
  refine ⟨hr, ?_, fun m e h he => (honce m 0 e _ h .first he).1, hoctets hr⟩
  cases ho : e.outcome #[anySegments] with
  | error conflict =>
    rw [hbuild, ho] at hok
    cases hok
  | ok c =>
    have hdone := h.sound.done ho
    obtain ⟨id, hpos, -, hs⟩ := Construction.exists_standsFor_reached hdone.consistent hdone.completed (hlast c ho)
      (List.cons_ne_nil _ _) hpath hne
    exact ⟨n, e, c, h, ho, hlast c ho, hbetween n e c h ho, id, hpos, hagain ▸ hs⟩

end PathRouter.Automaton
