import Mathlib.Data.List.Perm.Subperm
import PathRouter.Automaton.State

/-! Automata that tables can be made of, and what their states answer. A state whose wildcard is defined
goes the same way on every octet that a variable reads. -/

namespace PathRouter.Automaton

lemma isPathOctet_iff (b : UInt8) : isPathOctet b = true ↔ 0x21 ≤ b.toNat ∧ b.toNat ≤ 0x7e := by
  simp only [isPathOctet, Bool.and_eq_true, decide_eq_true_eq, UInt8.le_iff_toNat_le]
  rfl

@[simp] lemma mem_pathOctets (b : UInt8) : b ∈ pathOctets ↔ isPathOctet b = true := by
  rw [isPathOctet_iff]
  simp only [pathOctets, List.mem_map, List.mem_range]
  constructor
  · rintro ⟨i, hi, rfl⟩
    rw [UInt8.toNat_ofNat', Nat.mod_eq_of_lt (by omega)]
    omega
  · rintro ⟨hl, hu⟩
    refine ⟨b.toNat - 0x21, by omega, ?_⟩
    rw [Nat.add_sub_cancel' hl, UInt8.ofNat_toNat]

lemma pathOctets_sorted : pathOctets.Pairwise (· < ·) := by decide

def letters : List UInt8 := pathOctets.filter (· ≠ slash)

@[simp] lemma length_letters : letters.length = letterCount := by decide

lemma letters_nodup : letters.Nodup :=
  (pathOctets_sorted.filter _).imp UInt8.ne_of_lt

@[simp] lemma mem_letters (b : UInt8) : b ∈ letters ↔ isLetter b = true := by
  simp [letters, isLetter]

/-- A state that fits among some number of states and routes: its transitions stand in increasing order
of octets of paths, and lead to known states and routes. -/
structure State.Fits (state : State) (states routes : Nat) : Prop where
  sorted : state.transitions.Pairwise fun t u => t.1 < u.1
  octets : ∀ t ∈ state.transitions, isPathOctet t.1 = true
  targets : ∀ t ∈ state.transitions, t.2 < states
  accepts : ∀ r, state.accepts = some r → r < routes

instance (state : State) (states routes : Nat) : Decidable (state.Fits states routes) :=
  decidable_of_iff ((state.transitions.Pairwise fun t u => t.1 < u.1) ∧
      (∀ t ∈ state.transitions, isPathOctet t.1 = true ∧ t.2 < states) ∧ ∀ r ∈ state.accepts, r < routes)
    ⟨fun h => ⟨h.1, fun t ht => (h.2.1 t ht).1, fun t ht => (h.2.1 t ht).2, h.2.2⟩,
      fun h => ⟨h.sorted, fun t ht => ⟨h.octets t ht, h.targets t ht⟩, h.accepts⟩⟩

structure WellFormed (states : Array State) (routes : Nat) : Prop where
  nonempty : 0 < states.size
  numbered : ∀ (i : Nat) (state : State), states[i]? = some state → state.id = i
  fits : ∀ (i : Nat) (state : State), states[i]? = some state → state.Fits states.size routes

instance (states : Array State) (routes : Nat) : Decidable (WellFormed states routes) :=
  decidable_of_iff (0 < states.size ∧
      ∀ i : Fin states.size, states[i].id = i ∧ states[i].Fits states.size routes)
    ⟨fun h => by
        refine ⟨h.1, fun i state hs => ?_, fun i state hs => ?_⟩ <;>
          obtain ⟨hi, rfl⟩ := Array.getElem?_eq_some_iff.mp hs
        · exact (h.2 ⟨i, hi⟩).1
        · exact (h.2 ⟨i, hi⟩).2,
      fun h => ⟨h.nonempty, fun i => ⟨h.numbered i _ (Array.getElem?_eq_getElem i.isLt),
        h.fits i _ (Array.getElem?_eq_getElem i.isLt)⟩⟩⟩

namespace State

variable {state : State} {states routes : Nat}

lemma next?_mem {b : UInt8} {target : Nat} (h : state.next? b = some target) :
    (b, target) ∈ state.transitions := by
  obtain ⟨t, ht, rfl⟩ := Option.map_eq_some_iff.mp h
  have hb := List.find?_some ht
  obtain rfl := of_decide_eq_true hb
  exact List.mem_of_find?_eq_some ht

lemma next?_of_mem (hs : state.transitions.Pairwise fun t u => t.1 < u.1) {b : UInt8} {target : Nat}
    (h : (b, target) ∈ state.transitions) : state.next? b = some target := by
  rw [next?]
  induction hl : state.transitions generalizing state with
  | nil => simp [hl] at h
  | cons t rest ih =>
    rw [hl, List.pairwise_cons] at hs
    rw [hl, List.mem_cons] at h
    rcases h with rfl | h
    · simp
    · have hne : t.1 ≠ b := UInt8.ne_of_lt (hs.1 _ h)
      have hh := @ih ⟨0, rest, none⟩ hs.2 h rfl
      simpa [hne] using hh

lemma next?_eq_some_iff (hs : state.transitions.Pairwise fun t u => t.1 < u.1) (b : UInt8) (target : Nat) :
    state.next? b = some target ↔ (b, target) ∈ state.transitions :=
  ⟨next?_mem, next?_of_mem hs⟩

lemma Fits.next?_lt (h : state.Fits states routes) {b : UInt8} {target : Nat}
    (ht : state.next? b = some target) : target < states :=
  h.targets _ (next?_mem ht)

lemma Fits.next?_eq_none (h : state.Fits states routes) {b : UInt8} (hb : isPathOctet b = false) :
    state.next? b = none := by
  cases hn : state.next? b with
  | none => rfl
  | some target =>
    have ho := h.octets _ (next?_mem hn)
    rw [hb] at ho
    cases ho

lemma Fits.accepts_getD_le (h : state.Fits states routes) : state.accepts.getD routes ≤ routes := by
  cases ha : state.accepts with
  | none => exact Nat.le_refl _
  | some r => exact Nat.le_of_lt (h.accepts r ha)

lemma Fits.accepts_of_getD (h : state.Fits states routes) :
    (if state.accepts.getD routes < routes then some (state.accepts.getD routes) else none) =
      state.accepts := by
  cases ha : state.accepts with
  | none => simp
  | some r => simp [h.accepts r ha]

lemma Fits.length_transitions_le (h : state.Fits states routes) : state.transitions.length ≤ pathOctets.length := by
  have hnodup : (state.transitions.map (·.1)).Nodup := (List.pairwise_map.mpr h.sorted).imp UInt8.ne_of_lt
  have hsub : state.transitions.map (·.1) ⊆ pathOctets := by
    intro b hb
    obtain ⟨t, ht, rfl⟩ := List.mem_map.mp hb
    exact (mem_pathOctets t.1).mpr (h.octets t ht)
  rw [← List.length_map (f := (·.1))]
  exact (hnodup.subperm hsub).length_le

lemma Fits.keys_subperm_letters (h : state.Fits states routes) :
    ((state.transitions.filter fun t => t.1 ≠ slash).map (·.1)).Subperm letters := by
  have hnodup : ((state.transitions.filter fun t => t.1 ≠ slash).map (·.1)).Nodup := by
    have hs := h.sorted.filter (fun t : UInt8 × Nat => t.1 ≠ slash)
    exact (List.pairwise_map.mpr hs).imp (fun hlt => UInt8.ne_of_lt hlt)
  refine hnodup.subperm fun b hb => ?_
  obtain ⟨t, ht, rfl⟩ := List.mem_map.mp hb
  obtain ⟨ht, hne⟩ := List.mem_filter.mp ht
  rw [mem_letters, isLetter, h.octets t ht, hne, Bool.and_self]

lemma Fits.keys_perm_letters (h : state.Fits states routes)
    (hlen : (state.transitions.filter fun t => t.1 ≠ slash).length = letterCount) :
    ((state.transitions.filter fun t => t.1 ≠ slash).map (·.1)).Perm letters := by
  have hlength : letters.length = ((state.transitions.filter fun t => t.1 ≠ slash).map (·.1)).length := by
    rw [length_letters, List.length_map, hlen]
  exact h.keys_subperm_letters.perm_of_length_le (Nat.le_of_eq hlength)

lemma Fits.next?_of_wildcardChild? (h : state.Fits states routes) {child : Nat}
    (hc : state.wildcardChild? = some child) {b : UInt8} (hb : isLetter b = true) :
    state.next? b = some child := by
  rw [wildcardChild?] at hc
  cases heq : (state.transitions.filter fun t => t.1 ≠ slash).map (·.2) with
  | nil =>
    rw [heq] at hc
    cases hc
  | cons first others =>
    simp only [heq] at hc
    split_ifs at hc with hall
    obtain rfl := Option.some.inj hc
    simp only [Bool.and_eq_true, List.all_eq_true, decide_eq_true_eq] at hall
    have hlen : (state.transitions.filter fun t => t.1 ≠ slash).length = letterCount := by
      rw [← hall.2, ← List.length_cons, ← heq, List.length_map]
    have hmem : b ∈ (state.transitions.filter fun t => t.1 ≠ slash).map (·.1) :=
      (h.keys_perm_letters hlen).mem_iff.mpr ((mem_letters b).mpr hb)
    obtain ⟨t, ht, rfl⟩ := List.mem_map.mp hmem
    have hsnd : t.2 ∈ first :: others := heq ▸ List.mem_map_of_mem ht
    have htarget : t.2 = first := by
      rcases List.mem_cons.mp hsnd with he | he
      · exact he
      · exact hall.1 _ he
    rw [next?_eq_some_iff h.sorted, ← htarget]
    exact (List.mem_filter.mp ht).1

lemma Fits.wildcardChild?_of_next? (h : state.Fits states routes) {child : Nat}
    (hc : ∀ b, isLetter b = true → state.next? b = some child) : state.wildcardChild? = some child := by
  have hsub : letters ⊆ (state.transitions.filter fun t => t.1 ≠ slash).map (·.1) := by
    intro b hb
    have hm := next?_mem (hc b ((mem_letters b).mp hb))
    exact List.mem_map.mpr ⟨_, List.mem_filter.mpr ⟨hm, (List.mem_filter.mp hb).2⟩, rfl⟩
  have hlen : ((state.transitions.filter fun t => t.1 ≠ slash).map (·.2)).length = letterCount := by
    have hperm := h.keys_subperm_letters.antisymm (letters_nodup.subperm hsub)
    rw [List.length_map, ← length_letters, ← hperm.length_eq, List.length_map]
  have hall : ∀ target ∈ (state.transitions.filter fun t => t.1 ≠ slash).map (·.2), target = child := by
    refine List.forall_mem_map.mpr fun t ht => ?_
    obtain ⟨hm, hne⟩ := List.mem_filter.mp ht
    have hl : isLetter t.1 = true := by rw [isLetter, h.octets t hm, hne, Bool.and_self]
    exact Option.some.inj ((next?_of_mem h.sorted hm).symm.trans (hc t.1 hl))
  rw [wildcardChild?]
  cases heq : (state.transitions.filter fun t => t.1 ≠ slash).map (·.2) with
  | nil =>
    rw [heq] at hlen
    cases hlen
  | cons first others =>
    rw [heq] at hlen hall
    obtain ⟨rfl, hothers⟩ := List.forall_mem_cons.mp hall
    rw [List.length_cons] at hlen
    simp only
    rw [if_pos]
    simpa [hlen] using hothers

lemma Fits.wildcardChild?_eq_some_iff (h : state.Fits states routes) (child : Nat) :
    state.wildcardChild? = some child ↔ ∀ b, isLetter b = true → state.next? b = some child :=
  ⟨fun hc _ hb => h.next?_of_wildcardChild? hc hb, h.wildcardChild?_of_next?⟩

end State

lemma WellFormed.fits_of_mem {states : Array State} {routes : Nat} (h : WellFormed states routes)
    {state : State} (hs : state ∈ states.toList) : state.Fits states.size routes := by
  obtain ⟨i, hi⟩ := List.mem_iff_getElem?.mp hs
  exact h.fits i state (Array.getElem?_toList ▸ hi)

def answer? (states : Array State) (state : Nat) (octets : List UInt8) : Option Nat :=
  (walk states state octets).bind fun last => (states[last]?).bind (·.accepts)

variable {states : Array State} {i : Nat} {state : State}

@[simp] lemma answer?_nil (states : Array State) (i : Nat) : answer? states i [] = states[i]?.bind (·.accepts) :=
  rfl

@[simp] lemma answer?_cons (states : Array State) (i : Nat) (b : UInt8) (rest : List UInt8) :
    answer? states i (b :: rest) = (states[i]?.bind (·.next? b)).bind (answer? states · rest) := by
  cases hn : states[i]?.bind (·.next? b) <;> simp [answer?, walk, hn]

lemma answer?_eq_none {routes : Nat} (h : WellFormed states routes) {octets : List UInt8} {b : UInt8} (hb : b ∈ octets)
    (hpath : isPathOctet b = false) (i : Nat) : answer? states i octets = none := by
  induction octets generalizing i with
  | nil => cases hb
  | cons a rest ih =>
    cases hs : states[i]? with
    | none => simp [hs]
    | some state =>
      rw [answer?_cons, hs, Option.bind_some]
      rcases List.mem_cons.mp hb with rfl | hb
      · rw [(h.fits i state hs).next?_eq_none hpath, Option.bind_none]
      · cases state.next? a with
        | none => rfl
        | some next => exact ih hb next

end PathRouter.Automaton
