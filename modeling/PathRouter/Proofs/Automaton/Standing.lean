import Mathlib.Data.List.Induction
import PathRouter.Proofs.Automaton.Reached

/-! Where a route stands after some octets, said step by step: it reads a literal octet by octet and a variable letter
by letter, and a separator takes it from the end of a segment to the next one, or once more into a quantified variable
at the end. -/

namespace PathRouter

open Automaton

def Segment.EndsAt (offset : Nat) : Segment → Prop
  | .literal text => Utf8.size text.toList ≤ offset
  | .var _ _ => offset ≠ 0

/-- Whether a route stands, after some octets, so many octets into the segment of a number; of a variable it only
counts whether any octet of it has been read. -/
inductive StandsAt (segments : List Segment) : List UInt8 → Nat → Nat → Prop
  | start : StandsAt segments [] 0 0
  | octet {w : List UInt8} {k offset : Nat} {text : String} {b : UInt8} (h : StandsAt segments w k offset)
      (hs : segments[k]? = some (.literal text)) (hb : (Utf8.encode text.toList)[offset]? = some b) :
      StandsAt segments (w ++ [b]) k (offset + 1)
  | letter {w : List UInt8} {k offset : Nat} {name : String} {quantifier : Option Quantifier} {b : UInt8}
      (h : StandsAt segments w k offset) (hs : segments[k]? = some (.var name quantifier)) (hb : isLetter b = true) :
      StandsAt segments (w ++ [b]) k 1
  | next {w : List UInt8} {k offset : Nat} {segment : Segment} (h : StandsAt segments w k offset)
      (hs : segments[k]? = some segment) (he : segment.EndsAt offset) (hn : k + 1 < segments.length) :
      StandsAt segments (w ++ [slash]) (k + 1) 0
  | again {w : List UInt8} {k offset : Nat} {segment : Segment} (h : StandsAt segments w k offset)
      (hs : segments[k]? = some segment) (he : segment.EndsAt offset) (hn : k + 1 = segments.length)
      (hq : segment.isQuantified = true) : StandsAt segments (w ++ [slash]) k 0

namespace Pattern

def IsInVariable (p : Pattern) (w : List UInt8) : Prop :=
  ∃ k offset name quantifier, StandsAt p.segments w k offset ∧ p.segments[k]? = some (.var name quantifier)

/-- Whether a route stands, after some octets, before an octet of a literal that has not been read. -/
def IsBeforeOctet (p : Pattern) (w : List UInt8) : Prop :=
  ∃ k offset text, StandsAt p.segments w k offset ∧ p.segments[k]? = some (.literal text) ∧
    offset < Utf8.size text.toList

end Pattern

namespace Automaton

namespace Item

variable {segments : List Segment} {item : Item} {segment : Segment}

lemma walk?_snoc (item : Item) (w : List UInt8) (b : UInt8) :
    walk? segments item (w ++ [b]) = (walk? segments item w).bind (·.next? segments b) := by
  rw [walk?_append]
  refine congrArg _ (funext fun next => ?_)
  rw [walk?]
  exact Option.bind_fun_some _

lemma getElem?_encode_eq_none_iff (text : String) (offset : Nat) :
    (Utf8.encode text.toList)[offset]? = none ↔ Utf8.size text.toList ≤ offset := by
  rw [List.getElem?_eq_none_iff, Utf8.length_encode]

lemma next?_slash_of_endsAt (hs : segments[item.segment]? = some segment) (he : segment.EndsAt item.offset) :
    item.next? segments slash = item.onward? segments := by
  cases segment with
  | literal text =>
    rw [next?_end hs ((getElem?_encode_eq_none_iff text _).mpr he), if_pos rfl]
  | var name quantifier =>
    rw [next?_read hs he, if_neg (by decide), if_pos rfl]

lemma onward?_eq_some_iff (hs : segments[item.segment]? = some segment) (next : Item) :
    item.onward? segments = some next ↔
      (item.segment + 1 < segments.length ∧ next = ⟨item.route, item.segment + 1, 0⟩) ∨
        (item.segment + 1 = segments.length ∧ segment.isQuantified = true ∧ next = ⟨item.route, item.segment, 0⟩) := by
  have hlt := (List.getElem?_eq_some_iff.mp hs).1
  rw [onward?, hs]
  by_cases hn : item.segment + 1 < segments.length
  · rw [List.getElem?_eq_getElem hn]
    simp only [Option.some.injEq, hn, hn.ne, true_and, false_and, or_false]
    exact eq_comm
  · have hlast : item.segment + 1 = segments.length := by omega
    rw [List.getElem?_eq_none (Nat.not_lt.mp hn)]
    cases hq : segment.isQuantified with
    | false => simp [hn, hq]
    | true =>
      rw [or_iff_right fun h => hn h.1, and_iff_right hlast, and_iff_right rfl, Option.any_some, hq, if_pos rfl,
        Option.some.injEq]
      exact eq_comm

lemma next?_of_variable {name : String} {quantifier : Option Quantifier}
    (hs : segments[item.segment]? = some (.var name quantifier)) {b : UInt8} (hb : isLetter b = true) :
    item.next? segments b = some { item with offset := 1 } := by
  by_cases ho : item.offset = 0
  · rw [next?_unread hs ho, if_pos hb]
  · rw [next?_read hs ho, if_pos hb]

lemma ne_slash_of_isLetter {b : UInt8} (hb : isLetter b = true) : b ≠ slash := by
  rintro rfl
  cases hb

lemma next?_cases {b : UInt8} {next : Item} (h : item.next? segments b = some next) :
    (∃ text, segments[item.segment]? = some (.literal text) ∧ (Utf8.encode text.toList)[item.offset]? = some b ∧
        next = { item with offset := item.offset + 1 }) ∨
      (∃ name quantifier, segments[item.segment]? = some (.var name quantifier) ∧ isLetter b = true ∧
        next = { item with offset := 1 }) ∨
      ∃ segment, segments[item.segment]? = some segment ∧ segment.EndsAt item.offset ∧ b = slash ∧
        item.onward? segments = some next := by
  cases hs : segments[item.segment]? with
  | none =>
    rw [next?_unknown hs] at h
    cases h
  | some segment =>
    cases segment with
    | literal text =>
      cases hb : (Utf8.encode text.toList)[item.offset]? with
      | some a =>
        rw [next?_inside hs hb] at h
        split_ifs at h with he
        exact .inl ⟨text, rfl, he ▸ hb, (Option.some.inj h).symm⟩
      | none =>
        rw [next?_end hs hb] at h
        split_ifs at h with he
        exact .inr (.inr ⟨_, rfl, (getElem?_encode_eq_none_iff text _).mp hb, he, h⟩)
    | var name quantifier =>
      by_cases hb : isLetter b = true
      · rw [next?_of_variable hs hb] at h
        exact .inr (.inl ⟨name, quantifier, rfl, hb, (Option.some.inj h).symm⟩)
      · by_cases ho : item.offset = 0
        · rw [next?_unread hs ho, if_neg hb] at h
          cases h
        · rw [next?_read hs ho, if_neg hb] at h
          split_ifs at h with he
          exact .inr (.inr ⟨_, rfl, ho, he, h⟩)

end Item

variable {segments : List Segment}

lemma walk?_of_standsAt {w : List UInt8} {k offset : Nat} (h : StandsAt segments w k offset) (route : Nat) :
    Item.walk? segments ⟨route, 0, 0⟩ w = some ⟨route, k, offset⟩ := by
  induction h with
  | start => rfl
  | @octet w k offset text _ _ hs hb ih =>
    have hs : segments[(⟨route, k, offset⟩ : Item).segment]? = some (.literal text) := hs
    rw [Item.walk?_snoc, ih, Option.bind_some, Item.next?_inside hs hb, if_pos rfl]
  | @letter w k offset name quantifier _ _ hs hb ih =>
    have hs : segments[(⟨route, k, offset⟩ : Item).segment]? = some (.var name quantifier) := hs
    rw [Item.walk?_snoc, ih, Option.bind_some, Item.next?_of_variable hs hb]
  | @next w k offset segment _ hs he hn ih =>
    have hs : segments[(⟨route, k, offset⟩ : Item).segment]? = some segment := hs
    rw [Item.walk?_snoc, ih, Option.bind_some, Item.next?_slash_of_endsAt hs he]
    exact (Item.onward?_eq_some_iff hs _).mpr (.inl ⟨hn, rfl⟩)
  | @again w k offset segment _ hs he hn hq ih =>
    have hs : segments[(⟨route, k, offset⟩ : Item).segment]? = some segment := hs
    rw [Item.walk?_snoc, ih, Option.bind_some, Item.next?_slash_of_endsAt hs he]
    exact (Item.onward?_eq_some_iff hs _).mpr (.inr ⟨hn, hq, rfl⟩)

lemma standsAt_of_walk? {w : List UInt8} {route : Nat} {item : Item}
    (h : Item.walk? segments ⟨route, 0, 0⟩ w = some item) : StandsAt segments w item.segment item.offset := by
  induction w using List.reverseRecOn generalizing item with
  | nil =>
    obtain rfl := Option.some.inj h
    exact .start
  | append_singleton w b ih =>
    rw [Item.walk?_snoc] at h
    obtain ⟨before, hbefore, h⟩ := Option.bind_eq_some_iff.mp h
    have hstands := ih hbefore
    rcases Item.next?_cases h with ⟨text, hs, hb, rfl⟩ | ⟨name, quantifier, hs, hb, rfl⟩ | ⟨segment, hs, he, rfl, ho⟩
    · exact .octet hstands hs hb
    · exact .letter hstands hs hb
    · rcases (Item.onward?_eq_some_iff hs item).mp ho with ⟨hn, rfl⟩ | ⟨hn, hq, rfl⟩
      · exact .next hstands hs he hn
      · exact .again hstands hs he hn hq

section Routes

variable {routes : Array Pattern} {w : List UInt8}

lemma exists_standsAt_iff (place : Pattern → Nat → Nat → Prop) :
    (∃ p ∈ routes.toList, ∃ k offset, StandsAt p.segments w k offset ∧ place p k offset) ↔
      ∃ item ∈ reached routes w, ∃ p, routes[item.route]? = some p ∧ place p item.segment item.offset := by
  constructor
  · rintro ⟨p, hp, k, offset, h, hplace⟩
    obtain ⟨r, hr⟩ := Array.mem_iff_getElem?.mp (Array.mem_toList_iff.mp hp)
    exact ⟨⟨r, k, offset⟩, ⟨p, hr, walk?_of_standsAt h r⟩, p, hr, hplace⟩
  · rintro ⟨item, ⟨p', hr', hw⟩, p, hr, hplace⟩
    obtain rfl := Option.some.inj (hr.symm.trans hr')
    exact ⟨p, Array.mem_toList_iff.mpr (Array.mem_of_getElem? hr), item.segment, item.offset, standsAt_of_walk? hw,
      hplace⟩

lemma exists_isInVariable_iff : (∃ p ∈ routes.toList, p.IsInVariable w) ↔
    ∃ item ∈ reached routes w, ∃ p name quantifier, routes[item.route]? = some p ∧
      p.segments[item.segment]? = some (.var name quantifier) := by
  simp only [Pattern.IsInVariable, exists_and_left, exists_standsAt_iff]

lemma exists_isBeforeOctet_iff : (∃ p ∈ routes.toList, p.IsBeforeOctet w) ↔
    ∃ item ∈ reached routes w, ∃ p text a, routes[item.route]? = some p ∧
      p.segments[item.segment]? = some (.literal text) ∧ (Utf8.encode text.toList)[item.offset]? = some a := by
  have hoctet (text : String) (offset : Nat) : offset < Utf8.size text.toList ↔
      ∃ a, (Utf8.encode text.toList)[offset]? = some a := by
    rw [← Nat.not_le, ← Item.getElem?_encode_eq_none_iff]
    exact Option.ne_none_iff_exists'
  simp only [Pattern.IsBeforeOctet, hoctet, exists_and_left, exists_standsAt_iff]

end Routes

section Letters

variable {item : Item} {b b' : UInt8} (hb : isLetter b = true) (hb' : isLetter b' = true)
include hb hb'

lemma Item.next?_eq_of_letters
    (h : ∀ text a, segments[item.segment]? = some (.literal text) → (Utf8.encode text.toList)[item.offset]? ≠ some a) :
    item.next? segments b = item.next? segments b' := by
  cases hs : segments[item.segment]? with
  | none => rw [next?_unknown hs, next?_unknown hs]
  | some segment =>
    cases segment with
    | literal text =>
      have hend := Option.eq_none_iff_forall_ne_some.mpr fun a => h text a hs
      rw [next?_end hs hend, next?_end hs hend, if_neg (ne_slash_of_isLetter hb), if_neg (ne_slash_of_isLetter hb')]
    | var name quantifier => rw [next?_of_variable hs hb, next?_of_variable hs hb']

lemma Item.exists_var_of_next? (hne : b ≠ b') {next next' : Item} (h : item.next? segments b = some next)
    (h' : item.next? segments b' = some next') :
    ∃ name quantifier, segments[item.segment]? = some (.var name quantifier) := by
  rcases next?_cases h with ⟨text, hs, ha, -⟩ | ⟨name, quantifier, hs, -⟩ | ⟨-, -, -, he, -⟩
  · rcases next?_cases h' with ⟨text', hs', ha', -⟩ | ⟨name, quantifier, hs', -⟩ | ⟨-, -, -, he, -⟩
    · obtain rfl := Segment.literal.inj (Option.some.inj (hs.symm.trans hs'))
      exact absurd (Option.some.inj (ha.symm.trans ha')) hne
    · exact ⟨name, quantifier, hs'⟩
    · exact absurd he (ne_slash_of_isLetter hb')
  · exact ⟨name, quantifier, hs⟩
  · exact absurd he (ne_slash_of_isLetter hb)

end Letters

end Automaton

end PathRouter
