import PathRouter.Pattern.Matching
import PathRouter.Proofs.Automaton.Position
import PathRouter.Proofs.Automaton.WellFormed
import PathRouter.Proofs.Pattern.Parser

/-! A route accepts after the octets of a path exactly if its pattern matches the path: the walk from an
item takes the parts that the segments from there on take. -/

namespace PathRouter

open Percent

namespace Segment

def completes (offset : Nat) (part : List Char) : Segment → Bool
  | .literal text => part = text.toList.drop offset
  | .var _ _ => offset ≠ 0 || !part.isEmpty

def passesOn (segment : Segment) (others : List Segment) (parts : List (List Char)) : Bool :=
  if segment.isQuantified then parts.all fun part => !part.isEmpty else takeAll others parts

def takesFrom (offset : Nat) (segment : Segment) (others : List Segment) : List (List Char) → Bool
  | [] => false
  | part :: parts => segment.completes offset part && segment.passesOn others parts

def IsPlain : Segment → Prop
  | .literal text => ∀ c ∈ text.toList, isVisible c = true ∧ c ≠ '/'
  | .var _ _ => True

lemma IsSpelled.isPlain {segment : Segment} (h : segment.IsSpelled) : segment.IsPlain := by
  cases segment with
  | literal text =>
    obtain ⟨data, -, ht⟩ := h
    intro c hc
    rw [ht] at hc
    exact encode_visible hc
  | var name quantifier => trivial

lemma takeAll_cons (segment : Segment) (others : List Segment)
    (hq : segment.isQuantified = true → others = []) {parts : List (List Char)} (hp : parts ≠ []) :
    takeAll (segment :: others) parts = segment.takesFrom 0 others parts := by
  obtain ⟨part, parts, rfl⟩ := List.exists_cons_of_ne_nil hp
  match segment with
  | .literal _ => rfl
  | .var _ none => rfl
  | .var _ (some quantifier) =>
    obtain rfl := hq rfl
    cases quantifier <;> simp [takeAll, takesFrom, completes, passesOn, isQuantified]

lemma takeAll_nil_right (segments : List Segment)
    (hq : ∀ segment others, segments = segment :: others → segment.isQuantified = true → others = []) :
    takeAll segments [] = segments.head?.all isStar := by
  match segments with
  | [] => rfl
  | .literal _ :: _ => rfl
  | .var _ none :: _ => rfl
  | .var _ (some quantifier) :: others =>
    obtain rfl := hq _ others rfl rfl
    cases quantifier <;> rfl

end Segment

namespace Pattern.Proper

variable {p : Pattern} (h : p.Proper)
include h

lemma isPlain {segment : Segment} (hs : segment ∈ p.segments) : segment.IsPlain := by
  rcases h.spelled with hr | hs'
  · rw [hr] at hs
    obtain rfl := List.mem_singleton.mp hs
    exact fun c hc => (by cases hc)
  · exact (hs' segment hs).isPlain

lemma last_of_quantified {i : Nat} {segment : Segment} (hs : p.segments[i]? = some segment)
    (hq : segment.isQuantified = true) : p.segments.drop (i + 1) = [] := by
  by_contra hne
  have hlt : i + 1 < p.segments.length := by
    rw [List.drop_eq_nil_iff] at hne
    omega
  have hm : segment ∈ p.segments.dropLast := by
    refine List.mem_iff_getElem?.mpr ⟨i, ?_⟩
    rw [List.getElem?_dropLast, if_pos (by omega), hs]
  rw [h.quantified_last segment hm] at hq
  cases hq

lemma nil_of_drop_eq_cons {i : Nat} {segment : Segment} {others : List Segment}
    (hd : p.segments.drop i = segment :: others) (hq : segment.isQuantified = true) : others = [] := by
  have hs : p.segments[i]? = some segment := by rw [← List.head?_drop, hd, List.head?_cons]
  have ho : p.segments.drop (i + 1) = others := by rw [← List.tail_drop, hd, List.tail_cons]
  rw [← ho, h.last_of_quantified hs hq]

lemma passesOn_nil {i : Nat} {segment : Segment} (hs : p.segments[i]? = some segment) :
    segment.passesOn (p.segments.drop (i + 1)) [] = p.segments[i + 1]?.all Segment.isStar := by
  rw [← List.head?_drop, Segment.passesOn]
  split_ifs with hq
  · rw [h.last_of_quantified hs hq]
    rfl
  · exact Segment.takeAll_nil_right _ fun next others hd hq => h.nil_of_drop_eq_cons hd hq

end Pattern.Proper

namespace Automaton

lemma isPathOctet_toUInt8 {c : Char} (h : isVisible c = true) : isPathOctet c.toUInt8 = true := by
  rw [isPathOctet_iff, Utf8.toNat_toUInt8 (isVisible_ascii h)]
  simp only [isVisible, Bool.and_eq_true, decide_eq_true_eq] at h
  exact h

lemma toUInt8_eq_slash {c : Char} (h : isVisible c = true) : c.toUInt8 = slash ↔ c = '/' :=
  Utf8.toUInt8_inj (d := '/') (isVisible_ascii h) (by decide)

lemma isLetter_toUInt8 {c : Char} (h : isVisible c = true) : isLetter c.toUInt8 = true ↔ c ≠ '/' := by
  rw [isLetter, isPathOctet_toUInt8 h, Bool.true_and, decide_eq_true_iff, ne_eq, toUInt8_eq_slash h]

namespace Item

variable {segments : List Segment} {item : Item} {segment : Segment}
  (hs : segments[item.segment]? = some segment) (hp : segment.IsPlain)
include hs hp

lemma getElem?_encode {text : String} (ht : segment = .literal text) :
    (Utf8.encode text.toList)[item.offset]? = (text.toList.drop item.offset).head?.map Char.toUInt8 := by
  subst ht
  rw [Utf8.encode_of_ascii fun c hc => isVisible_ascii (hp c hc).1, List.getElem?_map, List.head?_drop]

lemma accepts_eq :
    item.accepts segments false =
      (segment.completes item.offset [] && segments[item.segment + 1]?.all Segment.isStar) := by
  cases segment with
  | literal text =>
    have ho := getElem?_encode hs hp rfl
    cases hd : text.toList.drop item.offset with
    | nil =>
      rw [hd] at ho
      simp [accepts, outlook_end hs ho, Segment.completes, hd]
    | cons c rest =>
      rw [hd] at ho
      simp [accepts, outlook_inside hs ho, Segment.completes, hd]
  | var name quantifier =>
    by_cases h : item.offset = 0
    · simp [accepts, outlook_unread hs h, Segment.completes, h]
    · simp [accepts, outlook_read hs h, Segment.completes, h]

lemma next?_slash :
    item.next? segments slash =
      if segment.completes item.offset [] = true then item.onward? segments else none := by
  cases segment with
  | literal text =>
    have ho := getElem?_encode hs hp rfl
    cases hd : text.toList.drop item.offset with
    | nil =>
      rw [hd] at ho
      simp [next?_end hs ho, Segment.completes, hd]
    | cons c rest =>
      rw [hd] at ho
      have hc := hp c (List.mem_of_mem_drop (hd ▸ List.mem_cons_self))
      have hne : c.toUInt8 ≠ slash := fun he => hc.2 ((toUInt8_eq_slash hc.1).mp he)
      simp [next?_inside hs ho, Segment.completes, hd, hne]
  | var name quantifier =>
    have hl : isLetter slash = false := rfl
    by_cases h : item.offset = 0
    · simp [next?_unread hs h, Segment.completes, h, hl]
    · simp [next?_read hs h, Segment.completes, h, hl]

lemma next?_letter {c : Char} (hv : isVisible c = true) (hc : c ≠ '/') :
    (∃ offset, item.next? segments c.toUInt8 = some { item with offset := offset } ∧
      ∀ part, segment.completes item.offset (c :: part) = segment.completes offset part) ∨
    (item.next? segments c.toUInt8 = none ∧ ∀ part, segment.completes item.offset (c :: part) = false) := by
  have hslash : c.toUInt8 ≠ slash := fun he => hc ((toUInt8_eq_slash hv).mp he)
  cases segment with
  | literal text =>
    have ho := getElem?_encode hs hp rfl
    cases hd : text.toList.drop item.offset with
    | nil =>
      rw [hd] at ho
      exact .inr (by simp [next?_end hs ho, Segment.completes, hd, hslash])
    | cons d rest =>
      rw [hd] at ho
      have hdv := hp d (List.mem_of_mem_drop (hd ▸ List.mem_cons_self))
      have hrest : text.toList.drop (item.offset + 1) = rest := by rw [← List.tail_drop, hd, List.tail_cons]
      by_cases he : d = c
      · subst he
        exact .inl ⟨item.offset + 1, by simp [next?_inside hs ho], by simp [Segment.completes, hd, hrest]⟩
      · have hne : d.toUInt8 ≠ c.toUInt8 := fun hh =>
          he ((Utf8.toUInt8_inj (isVisible_ascii hdv.1) (isVisible_ascii hv)).mp hh)
        exact .inr (by simp [next?_inside hs ho, Segment.completes, hd, hne, Ne.symm he])
  | var name quantifier =>
    have hl := (isLetter_toUInt8 hv).mpr hc
    refine .inl ⟨1, ?_, by simp [Segment.completes]⟩
    by_cases h : item.offset = 0
    · simp [next?_unread hs h, hl]
    · simp [next?_read hs h, hl]

end Item

end Automaton

namespace Pattern.Proper

open Automaton

variable {p : Pattern} (h : p.Proper)
include h

lemma any_onward? {item : Item} {segment : Segment} (hs : p.segments[item.segment]? = some segment)
    {parts : List (List Char)} (hp : parts ≠ []) {f : Item → Bool}
    (hf : ∀ (next : Item) (segment : Segment), p.segments[next.segment]? = some segment →
      f next = segment.takesFrom next.offset (p.segments.drop (next.segment + 1)) parts) :
    (item.onward? p.segments).any f = segment.passesOn (p.segments.drop (item.segment + 1)) parts := by
  obtain ⟨part, parts, rfl⟩ := List.exists_cons_of_ne_nil hp
  rw [Item.onward?, Segment.passesOn]
  cases hd : p.segments.drop (item.segment + 1) with
  | nil =>
    have hn : p.segments[item.segment + 1]? = none := by rw [← List.head?_drop, hd, List.head?_nil]
    rw [hn, hs]
    cases hq : segment.isQuantified with
    | false => simp [hq, Segment.takeAll]
    | true =>
      have hh := hf ⟨item.route, item.segment, 0⟩ segment hs
      cases segment with
      | literal text => cases hq
      | var name quantifier =>
        cases quantifier with
        | none => cases hq
        | some quantifier => simp [hh, hq, Segment.takesFrom, Segment.completes, Segment.passesOn]
  | cons next others =>
    have hn : p.segments[item.segment + 1]? = some next := by rw [← List.head?_drop, hd, List.head?_cons]
    have ho : p.segments.drop (item.segment + 1 + 1) = others := by rw [← List.tail_drop, hd, List.tail_cons]
    have hq : ¬ segment.isQuantified = true := fun hq => by
      rw [h.last_of_quantified hs hq] at hd
      cases hd
    rw [hn, if_neg hq, Segment.takeAll_cons next others (h.nil_of_drop_eq_cons hd) hp, ← ho]
    exact hf ⟨item.route, item.segment + 1, 0⟩ next hn

lemma any_walk? {w : List Char} (hw : ∀ c ∈ w, isVisible c = true) {item : Item} {segment : Segment}
    (hs : p.segments[item.segment]? = some segment) :
    (Item.walk? p.segments item (w.map Char.toUInt8)).any (·.accepts p.segments false) =
      segment.takesFrom item.offset (p.segments.drop (item.segment + 1)) (Pieces.cut '/' w) := by
  induction w generalizing item segment with
  | nil =>
    have ha := Item.accepts_eq hs (h.isPlain (List.mem_of_getElem? hs))
    rw [← h.passesOn_nil hs] at ha
    exact ha
  | cons c rest ih =>
    have hp := h.isPlain (List.mem_of_getElem? hs)
    obtain ⟨hc, hrest⟩ := List.forall_mem_cons.mp hw
    rw [List.map_cons, Item.walk?]
    by_cases he : c = '/'
    · subst he
      rw [show '/'.toUInt8 = slash from rfl, Item.next?_slash hs hp, Pieces.cut_cons_separator, Segment.takesFrom]
      by_cases hcomp : segment.completes item.offset [] = true
      · rw [if_pos hcomp, hcomp, Bool.true_and, Option.any_bind]
        exact h.any_onward? hs (Pieces.cut_ne_nil '/' rest) fun next segment hn => ih hrest hn
      · rw [if_neg hcomp]
        simp [hcomp]
    · rw [Pieces.cut_cons_of_ne he]
      obtain ⟨part, parts, hcut⟩ := List.exists_cons_of_ne_nil (Pieces.cut_ne_nil '/' rest)
      rw [hcut, Pieces.consHead, Segment.takesFrom]
      rcases Item.next?_letter hs hp hc he with ⟨offset, hn, hcomp⟩ | ⟨hn, hcomp⟩
      · have hi : p.segments[(⟨item.route, item.segment, offset⟩ : Item).segment]? = some segment := hs
        rw [hn, hcomp, Option.bind_some, ih hrest hi, hcut]
        rfl
      · rw [hn, hcomp]
        rfl

lemma accepts_start (route : Nat) :
    Item.accepts ⟨route, 0, 0⟩ p.segments true = p.matchesPath ['/'] := by
  obtain ⟨segment, others, hp⟩ := List.exists_cons_of_ne_nil h.nonempty
  have hq : segment.isQuantified = true → others = [] := h.nil_of_drop_eq_cons (i := 0) hp
  have hs : p.segments[0]? = some segment := by rw [hp]; rfl
  match segment with
  | .literal text =>
    have ha : Item.accepts ⟨route, 0, 0⟩ p.segments true = Item.accepts ⟨route, 0, 0⟩ p.segments false := by
      simp [Item.accepts, Item.outlook, hs]
    rw [ha, Item.accepts_eq hs (h.isPlain (List.mem_of_getElem? hs))]
    rcases h.spelled with hr | hspelled
    · obtain ⟨rfl, rfl⟩ : text = "" ∧ others = [] := by simpa [hr] using hp.symm
      rw [matchesPath, if_pos hr, hr]
      rfl
    · obtain ⟨data, hne, ht⟩ := hspelled _ (List.mem_of_getElem? hs)
      have hnil : text.toList ≠ [] := fun he => hne ((encode_eq_nil_iff data).mp (ht ▸ he))
      have hr : p.segments ≠ [.literal ""] := fun hr => by
        obtain rfl : text = "" := by simpa [hr] using hs.symm
        exact hnil rfl
      rw [matchesPath, if_neg hr]
      simp [parts?, hp, Segment.takeAll, Segment.completes, Ne.symm hnil]
  | .var name quantifier =>
    have hr : p.segments ≠ [.literal ""] := by simp [hp]
    rw [Item.accepts, Item.outlook_unread hs rfl, Pattern.matchesPath, if_neg hr, Pattern.parts?, hp]
    cases quantifier with
    | none => rfl
    | some quantifier =>
      obtain rfl := hq rfl
      cases quantifier <;> rfl

theorem any_walk?_start (route : Nat) {w : List Char} (hw : ∀ c ∈ w, isVisible c = true) :
    (Item.walk? p.segments ⟨route, 0, 0⟩ (w.map Char.toUInt8)).any (·.accepts p.segments w.isEmpty) =
      p.matchesPath ('/' :: w) := by
  cases w with
  | nil => exact h.accepts_start route
  | cons c rest =>
    obtain ⟨segment, others, hp⟩ := List.exists_cons_of_ne_nil h.nonempty
    have hs : p.segments[0]? = some segment := by rw [hp]; rfl
    have hparts : parts? ('/' :: c :: rest) = some (Pieces.cut '/' (c :: rest)) := by simp [parts?]
    refine (h.any_walk? hw hs).trans ?_
    rw [matchesPath]
    split_ifs with hr
    · obtain ⟨rfl, rfl⟩ : segment = .literal "" ∧ others = [] := by simpa [hr] using hp.symm
      obtain ⟨part, parts, hcut⟩ := List.exists_cons_of_ne_nil (Pieces.cut_ne_nil '/' (c :: rest))
      have hne : ¬ (part = [] ∧ parts = []) := by
        rintro ⟨rfl, rfl⟩
        have hj := Pieces.join_cut '/' (c :: rest)
        rw [hcut] at hj
        cases hj
      simpa [hcut, hr, Segment.takesFrom, Segment.completes, Segment.passesOn, Segment.isQuantified,
        Segment.takeAll] using hne
    · rw [hparts, Option.any_some, hp, List.drop_one, List.tail_cons]
      exact (Segment.takeAll_cons segment others (h.nil_of_drop_eq_cons (i := 0) hp) (Pieces.cut_ne_nil _ _)).symm

end Pattern.Proper

end PathRouter
