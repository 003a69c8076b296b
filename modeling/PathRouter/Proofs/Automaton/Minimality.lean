import PathRouter.Proofs.Automaton.Exactness
import PathRouter.Proofs.Automaton.Residual

/-! Which automata are minimal. Two states stand for two sets of items, and these are told apart by what the routes
accept from them, except where a route stands in a plain variable and in the `*` variable after it. -/

namespace PathRouter.Automaton

/-- Whether any two states besides the start state are told apart by the answers after some octets. -/
def IsMinimal (states : Array State) : Prop :=
  ∀ i j, 0 < i → i < states.size → 0 < j → j < states.size → i ≠ j →
    ∃ w : List UInt8, answer? states i w ≠ answer? states j w

variable {routes : Array Pattern}

lemma mem_accepting_append {u v : List UInt8} {r : Nat} :
    r ∈ accepting routes (reached routes (u ++ v)) false ↔ ∃ item ∈ reached routes u, item.route = r ∧
      ∃ p, routes[r]? = some p ∧ item.acceptsAfter p.segments v = true := by
  rw [mem_accepting_reached]
  constructor
  · rintro ⟨p, hr, ha⟩
    rw [Item.walk?_append, Option.any_bind] at ha
    obtain ⟨item, hw, ha⟩ := (Option.any_eq_true _ _).mp ha
    have he : item.route = r := Item.walk?_route hw
    exact ⟨item, ⟨p, he ▸ hr, he ▸ hw⟩, he, p, hr, ha⟩
  · rintro ⟨item, ⟨p', hr', hw⟩, rfl, p, hr, ha⟩
    obtain rfl := Option.some.inj (hr.symm.trans hr')
    refine ⟨p, hr, ?_⟩
    rw [Item.walk?_append, hw]
    exact ha

namespace Construction

variable {c : Construction} (hc : c.Consistent routes) (hx : Completed routes c none) (hp : c.pending = [])
include hc hx hp

section Reached

variable {u : List UInt8} (hu : u ≠ []) {id : Nat} (hs : StandsFor routes c id (Automaton.reached routes u) false)
  {v : List UInt8} (hv : ∀ b ∈ v, isPathOctet b = true)
include hu hs hv

lemma answer?_iff_acceptsAfter (r : Nat) :
    answer? c.states id v = some r ↔ ∃ item ∈ Automaton.reached routes u, item.route = r ∧
      ∃ p, routes[r]? = some p ∧ item.acceptsAfter p.segments v = true := by
  have hstart : u.isEmpty = false := List.isEmpty_eq_false_iff.mpr hu
  have happend : (u ++ v).isEmpty = false := by simp [hu]
  rw [answer?_eq_some_iff hc hx hp (hstart ▸ hs) hv, happend, mem_accepting_append]

lemma answer?_iff_of_mem {item : Item} (hi : item ∈ Automaton.reached routes u) {p : Pattern}
    (hr : routes[item.route]? = some p) :
    answer? c.states id v = some item.route ↔ item.acceptsAfter p.segments v = true := by
  rw [answer?_iff_acceptsAfter hc hx hp hu hs hv]
  constructor
  · rintro ⟨other, ho, he, p', hr', ha⟩
    obtain rfl := Option.some.inj (hr.symm.trans hr')
    rwa [← reached_unique ho hi he]
  · exact fun ha => ⟨item, hi, rfl, p, hr, ha⟩

end Reached

variable (hproper : ∀ p ∈ routes.toList, p.Proper)
include hproper

lemma exists_answer?_ne (hno : ∀ p ∈ routes.toList, ¬ p.HasStarAfterVariable) {u u' : List UInt8} (hu : u ≠ [])
    (hu' : u' ≠ []) {id id' : Nat} (hs : StandsFor routes c id (Automaton.reached routes u) false)
    (hs' : StandsFor routes c id' (Automaton.reached routes u') false) {item : Item}
    (hi : item ∈ Automaton.reached routes u) (hi' : item ∉ Automaton.reached routes u') :
    ∃ w, answer? c.states id w ≠ answer? c.states id' w := by
  have hreached := hi
  obtain ⟨p, hr, hwalk⟩ := hreached
  have hmem : p ∈ routes.toList := Array.mem_toList_iff.mpr (Array.mem_of_getElem? hr)
  have hin := Item.walk?_isIn hu hwalk
  -- The route stands at another item in the other set, or at none.
  by_cases hother : ∃ other ∈ Automaton.reached routes u', other.route = item.route
  · obtain ⟨other, ho, he⟩ := hother
    have hreached' := ho
    obtain ⟨p', hr', hwalk'⟩ := hreached'
    obtain rfl := Option.some.inj (hr.symm.trans (he ▸ hr'))
    have hne : item ≠ other := by
      rintro rfl
      exact hi' ho
    have hin' := Item.walk?_isIn hu' hwalk'
    obtain ⟨w, hw, hd⟩ := (hproper p hmem).differ_of_ne (hno p hmem) hin hin' he.symm hne
    refine ⟨w, fun hsame => hd ?_⟩
    rw [Bool.eq_iff_iff, ← answer?_iff_of_mem hc hx hp hu hs hw hi hr, ← answer?_iff_of_mem hc hx hp hu' hs' hw ho hr',
      hsame, he]
  · obtain ⟨w, hw, ha⟩ := (hproper p hmem).exists_acceptsAfter hin
    refine ⟨w, fun hsame => ?_⟩
    have hanswer := (answer?_iff_of_mem hc hx hp hu hs hw hi hr).mpr ha
    rw [hsame] at hanswer
    obtain ⟨other, ho, he, -⟩ := (answer?_iff_acceptsAfter hc hx hp hu' hs' hw _).mp hanswer
    exact hother ⟨other, ho, he⟩

lemma isMinimal (hno : ∀ p ∈ routes.toList, ¬ p.HasStarAfterVariable) : IsMinimal c.states := by
  intro i j hi hilt hj hjlt hne
  obtain ⟨u, hu, -, -, hs⟩ := hc.exists_reached hi hilt
  obtain ⟨u', hu', -, -, hs'⟩ := hc.exists_reached hj hjlt
  have hsets : Automaton.reached routes u ≠ Automaton.reached routes u' := fun he => hne (hs.unique hc (he ▸ hs'))
  by_cases hsub : Automaton.reached routes u ⊆ Automaton.reached routes u'
  · obtain ⟨item, hi', hi⟩ := Set.not_subset.mp fun h => hsets (Set.Subset.antisymm hsub h)
    obtain ⟨w, hw⟩ := exists_answer?_ne hc hx hp hproper hno hu' hu hs' hs hi' hi
    exact ⟨w, hw.symm⟩
  · obtain ⟨item, hi, hi'⟩ := Set.not_subset.mp hsub
    exact exists_answer?_ne hc hx hp hproper hno hu hu' hs hs' hi hi'

/-- The state of an item from which its route accepts after all full texts answers these with the route, and no
others. -/
lemma answer?_of_full {u : List UInt8} (hu : u ≠ []) {id : Nat}
    (hs : StandsFor routes c id (Automaton.reached routes u) false) {item : Item}
    (hi : item ∈ Automaton.reached routes u) {p : Pattern} (hr : routes[item.route]? = some p)
    (hfull : ∀ text, (∀ c ∈ text, Percent.isVisible c = true) →
      item.acceptsAfter p.segments (text.map Char.toUInt8) = isFull text)
    {text : List Char} (hv : ∀ c ∈ text, Percent.isVisible c = true) :
    answer? c.states id (text.map Char.toUInt8) = if isFull text = true then some item.route else none := by
  have hw : ∀ b ∈ text.map Char.toUInt8, isPathOctet b = true :=
    List.forall_mem_map.mpr fun c hc => isPathOctet_toUInt8 (hv c hc)
  split_ifs with h
  · rw [answer?_iff_of_mem hc hx hp hu hs hw hi hr, hfull text hv, h]
  · refine Option.eq_none_iff_forall_ne_some.mpr fun r hanswer => h ?_
    obtain ⟨other, ho, rfl, q, hq, ha⟩ := (answer?_iff_acceptsAfter hc hx hp hu hs hw r).mp hanswer
    obtain ⟨q', hq', hwalk⟩ := ho
    obtain rfl := Option.some.inj (hq.symm.trans hq')
    obtain ⟨segment, hsegment, -⟩ := Item.walk?_isIn hu hwalk
    exact (hproper q (Array.mem_toList_iff.mpr (Array.mem_of_getElem? hq))).isFull_of_acceptsAfter hsegment hv ha

lemma not_isMinimal {r : Nat} {p : Pattern} (hr : routes[r]? = some p) (hstar : p.HasStarAfterVariable) :
    ¬ IsMinimal c.states := by
  have hproper' := hproper p (Array.mem_toList_iff.mpr (Array.mem_of_getElem? hr))
  obtain ⟨i, name, rest, hplain, hstar⟩ := hstar
  obtain ⟨u, offset, hu, hupath, ho, hwalk⟩ := hproper'.exists_walk?_variable r hplain
  obtain ⟨u', offset', hu', hupath', ho', hwalk'⟩ := hproper'.exists_walk?_variable r hstar
  have hi : ⟨r, i, offset⟩ ∈ Automaton.reached routes u := ⟨p, hr, hwalk⟩
  have hi' : ⟨r, i + 1, offset'⟩ ∈ Automaton.reached routes u' := ⟨p, hr, hwalk'⟩
  obtain ⟨id, hpos, hlt, hs⟩ := exists_standsFor_reached hc hx hp hu hupath ⟨_, hi⟩
  obtain ⟨id', hpos', hlt', hs'⟩ := exists_standsFor_reached hc hx hp hu' hupath' ⟨_, hi'⟩
  have hne : id ≠ id' := by
    rintro rfl
    rw [(hs.set_unique hc hs').1] at hi
    have hsegment := congrArg Item.segment (reached_unique hi hi' rfl)
    exact absurd hsegment (Nat.ne_of_lt (Nat.lt_succ_self i))
  intro hmin
  obtain ⟨w, hw⟩ := hmin id id' hpos hlt hpos' hlt' hne
  by_cases hpath : ∀ b ∈ w, isPathOctet b = true
  · obtain ⟨text, hv, rfl⟩ := exists_text_of_octets hpath
    refine hw ?_
    rw [answer?_of_full hc hx hp hproper hu hs hi hr (fun text hv => ?_) hv,
      answer?_of_full hc hx hp hproper hu' hs' hi' hr (fun text hv => ?_) hv]
    · exact hproper'.acceptsAfter_variable hstar ho' (.inl rfl) hv
    · exact hproper'.acceptsAfter_variable hplain ho (.inr ⟨rfl, rest, hstar⟩) hv
  · simp only [not_forall, Bool.not_eq_true] at hpath
    obtain ⟨b, hb, hfalse⟩ := hpath
    have hwell := wellFormed hc hx hp
    exact hw ((answer?_eq_none hwell hb hfalse id).trans (answer?_eq_none hwell hb hfalse id').symm)

end Construction

section Built

variable {states : Array State} (hr : ∀ p ∈ routes.toList, p.IsRead) (h : build routes = .ok states)
include hr h

lemma isMinimal_of_build (hno : ∀ p ∈ routes.toList, ¬ p.HasStarAfterVariable) : IsMinimal states := by
  obtain ⟨c, hc, hx, hp, rfl⟩ := exists_of_build_eq_ok h
  exact Construction.isMinimal hc hx hp (fun p hp => (hr p hp).proper) hno

lemma not_isMinimal_of_build {p : Pattern} (hp : p ∈ routes.toList) (hstar : p.HasStarAfterVariable) :
    ¬ IsMinimal states := by
  obtain ⟨c, hc, hx, hpending, rfl⟩ := exists_of_build_eq_ok h
  obtain ⟨r, hroute⟩ := Array.mem_iff_getElem?.mp (Array.mem_toList_iff.mp hp)
  exact Construction.not_isMinimal hc hx hpending (fun p hp => (hr p hp).proper) hroute hstar

end Built

/-- An automaton is minimal exactly if no route has a `*` variable after a plain one. -/
theorem isMinimal_iff (hr : ∀ p ∈ routes.toList, p.IsRead) {states : Array State} (h : build routes = .ok states) :
    IsMinimal states ↔ ∀ p ∈ routes.toList, ¬ p.HasStarAfterVariable :=
  ⟨fun hmin _ hp hstar => not_isMinimal_of_build hr h hp hstar hmin, isMinimal_of_build hr h⟩

def nestedFiles : Pattern :=
  ⟨[.literal "files", .var "rest" (some .star)], "/files/{rest}*"⟩

theorem isMinimal_iff_files : (∀ p ∈ [nestedFiles], p.IsRead) ∧
    ∃ states, build #[nestedFiles] = .ok states ∧ IsMinimal states := by
  have hr : ∀ p ∈ [nestedFiles], p.IsRead := List.forall_mem_singleton.mpr ⟨.template, by decide +kernel⟩
  obtain ⟨states, h⟩ := exists_build_of_size_le_one (Nat.le_refl (#[nestedFiles].size))
  refine ⟨hr, states, h, (isMinimal_iff hr h).mpr (List.forall_mem_singleton.mpr ?_)⟩
  rintro ⟨i, name, rest, hs, -⟩
  rcases i with _ | _ | i <;> cases hs

def optionalAfterFirst : Pattern :=
  ⟨[.var "a" none, .var "b" (some .star)], "/{a}/{b}*"⟩

/-- After the first part and after each further one the same is accepted, in two states. -/
theorem not_isMinimal_optionalAfterFirst : (∀ p ∈ [optionalAfterFirst], p.IsRead) ∧
    ∃ states, build #[optionalAfterFirst] = .ok states ∧ ¬ IsMinimal states := by
  have hr : ∀ p ∈ [optionalAfterFirst], p.IsRead := List.forall_mem_singleton.mpr ⟨.template, by decide +kernel⟩
  obtain ⟨states, h⟩ := exists_build_of_size_le_one (Nat.le_refl (#[optionalAfterFirst].size))
  exact ⟨hr, states, h, not_isMinimal_of_build hr h List.mem_cons_self ⟨0, "a", "b", rfl, rfl⟩⟩

end PathRouter.Automaton
