import PathRouter.Proofs.Pattern.Grammar

/-! What is wrong with a segment of a template, and at which of its octets. By itself it can have a brace out of place,
an escape that cannot be read, or a variable without an end, without a name or with something after it; among other
segments, a quantifier in front of them or a name that is bound before. -/

namespace PathRouter.Pattern

open Percent

inductive LiteralFault : List Char → Cause → Nat → Prop
  | brace {front rest : List Char} (hb : '{' ∉ front) :
      LiteralFault (front ++ '{' :: rest) (.illegalToken '{') (Utf8.size front)
  | escape {front rest : List Char} (hb : '{' ∉ front ++ '%' :: rest)
      (hm : IsMalformedAt (Utf8.encode (front ++ '%' :: rest)) (Utf8.size front)) :
      LiteralFault (front ++ '%' :: rest) .malformedEscape (Utf8.size front)
  | notUtf8 {c : Char} {rest : List Char} (hb : '{' ∉ c :: rest)
      (he : ∀ i, (Utf8.encode (c :: rest))[i]? = some 0x25 → IsEscapeAt (Utf8.encode (c :: rest)) i)
      (hn : ¬ ∃ text, unescape (Utf8.encode (c :: rest)) = Utf8.encode text) :
      LiteralFault (c :: rest) .malformedEscape 0

inductive VariableFault : List Char → Cause → Nat → Prop
  | unclosed {rest : List Char} (hc : '}' ∉ rest) : VariableFault rest .unclosedVariable 0
  | emptyName {tail : List Char} : VariableFault ('}' :: tail) .emptyVariableName 0
  | brace {front rest tail : List Char} (hb : '{' ∉ front) (hc : '}' ∉ front ++ '{' :: rest) :
      VariableFault ((front ++ '{' :: rest) ++ '}' :: tail) (.illegalToken '{') (1 + Utf8.size front)
  | tail {name rest : List Char} {quantifier : Option Quantifier} {c : Char} (hne : name ≠ []) (hb : '{' ∉ name)
      (hc : '}' ∉ name) (hq : quantifier = none → c ≠ '+' ∧ c ≠ '*') :
      VariableFault (name ++ '}' :: (suffix quantifier ++ c :: rest)) (.illegalToken c)
        (Utf8.size name + 2 + Utf8.size (suffix quantifier))

/-- What is wrong with a segment of a template, if variables with some names are in front of it. -/
inductive SegmentFault (names : List String) (isLast : Bool) : List Char → Cause → Nat → Prop
  | inLiteral {raw : List Char} {cause : Cause} {offset : Nat} (hb : raw.head? ≠ some '{')
      (h : LiteralFault raw cause offset) : SegmentFault names isLast raw cause offset
  | inVariable {rest : List Char} {cause : Cause} {offset : Nat} (h : VariableFault rest cause offset) :
      SegmentFault names isLast ('{' :: rest) cause offset
  | quantifier {front : List Char} {name : String} {quantifier : Quantifier}
      (hd : Denotes .template (front ++ suffix (some quantifier)) (.var name (some quantifier))) (hl : isLast = false) :
      SegmentFault names isLast (front ++ suffix (some quantifier)) .misplacedQuantifier (Utf8.size front)
  | duplicate {raw : List Char} {name : String} {quantifier : Option Quantifier}
      (hd : Denotes .template raw (.var name quantifier)) (hl : quantifier ≠ none → isLast = true) (hn : name ∈ names) :
      SegmentFault names isLast raw (.duplicateVariable name) 0

lemma readQuantifier_eq_error_iff (start : Nat) (tail : List Char) (fault : Fault) :
    readQuantifier start tail = .error fault ↔ ∃ quantifier c rest, tail = suffix quantifier ++ c :: rest ∧
      Follows quantifier c ∧ fault = ⟨.illegalToken c, start + Utf8.size (suffix quantifier)⟩ := by
  constructor
  · intro h
    obtain ⟨quantifier, rfl⟩ | ⟨quantifier, c, rest, hf, rfl⟩ := suffix_or_follows tail
    · rw [readQuantifier_suffix] at h
      cases h
    · rw [readQuantifier_of_follows hf] at h
      exact ⟨quantifier, c, rest, rfl, hf, (Except.error.inj h).symm⟩
  · rintro ⟨quantifier, c, rest, rfl, hf, rfl⟩
    exact readQuantifier_of_follows hf start rest

lemma readVariable_eq_error_iff (text : List Char) (fault : Fault) :
    readVariable text = .error fault ↔ VariableFault text fault.cause fault.offset := by
  constructor
  · intro h
    by_cases hc : '}' ∈ text
    · obtain ⟨name, tail, rfl, hname⟩ := List.eq_append_cons_of_mem hc
      rw [readVariable_of_closed hname] at h
      split_ifs at h with hempty hb
      · obtain rfl := List.isEmpty_iff.mp hempty
        obtain rfl := Except.error.inj h
        exact .emptyName
      · obtain ⟨front, rest, rfl, hfront⟩ := List.eq_append_cons_of_mem hb
        rw [Pieces.takeWhile_append hfront] at h
        obtain rfl := Except.error.inj h
        exact .brace hfront hname
      · obtain ⟨quantifier, c, rest, rfl, hf, rfl⟩ :=
          (readQuantifier_eq_error_iff _ _ _).mp (eq_error_of_map_eq_error h)
        exact .tail (fun he => hempty (List.isEmpty_iff.mpr he)) hb hname hf
    · rw [readVariable_of_unclosed hc] at h
      obtain rfl := Except.error.inj h
      exact .unclosed hc
  · obtain ⟨cause, offset⟩ := fault
    intro h
    cases h with
    | unclosed hc => exact readVariable_of_unclosed hc
    | emptyName => exact readVariable_of_closed List.not_mem_nil _
    | @brace front rest tail hb hc =>
      rw [readVariable_of_closed hc, if_neg (by simp), if_pos (by simp), Pieces.takeWhile_append hb]
      rfl
    | tail hne hb hc hf =>
      rw [readVariable_of_closed hc, if_neg (by simpa using hne), if_neg hb, readQuantifier_of_follows hf]
      rfl

lemma readLiteral_of_decode {text : List Char} (hb : '{' ∉ text) {f : DecodeFault} (hd : decode text = .error f) :
    readLiteral text = match f with
      | .malformed offset => .error ⟨.malformedEscape, offset⟩
      | .notUtf8 => .error ⟨.malformedEscape, 0⟩ := by
  have hc : canonical text = .error f := by rw [canonical, hd]; rfl
  rw [readLiteral, if_neg hb, hc]
  cases f <;> rfl

lemma readLiteral_eq_error_iff (text : List Char) (fault : Fault) :
    readLiteral text = .error fault ↔ LiteralFault text fault.cause fault.offset := by
  constructor
  · intro h
    by_cases hb : '{' ∈ text
    · rw [readLiteral, if_pos hb] at h
      obtain ⟨front, rest, rfl, hfront⟩ := List.eq_append_cons_of_mem hb
      rw [Pieces.takeWhile_append hfront] at h
      obtain rfl := Except.error.inj h
      exact .brace hfront
    · cases hd : decode text with
      | ok data =>
        rw [(readLiteral_eq_ok_iff text _).mpr ⟨hb, data, (decode_eq_ok_iff text data).mp hd, rfl⟩] at h
        cases h
      | error f =>
        rw [readLiteral_of_decode hb hd] at h
        cases f with
        | malformed i =>
          obtain rfl := Except.error.inj h
          have hm := (decode_eq_malformed_iff text i).mp hd
          obtain ⟨front, rest, rfl, rfl⟩ := Utf8.exists_of_getElem?_encode (c := '%') (by decide) hm.1
          exact .escape hb hm
        | notUtf8 =>
          obtain rfl := Except.error.inj h
          obtain ⟨he, hn⟩ := (decode_eq_notUtf8_iff text).mp hd
          cases text with
          | nil => exact absurd ⟨[], rfl⟩ hn
          | cons c rest => exact .notUtf8 hb he hn
  · obtain ⟨cause, offset⟩ := fault
    intro h
    cases h with
    | brace hb =>
      rw [readLiteral, if_pos (by simp), Pieces.takeWhile_append hb]
    | escape hb hm => exact readLiteral_of_decode hb ((decode_eq_malformed_iff _ _).mpr hm)
    | notUtf8 hb he hn => exact readLiteral_of_decode hb ((decode_eq_notUtf8_iff _).mpr ⟨he, hn⟩)

lemma readSegment_of_head {raw : List Char} (hb : raw.head? ≠ some '{') : readSegment raw = readLiteral raw := by
  unfold readSegment
  split
  · exact absurd rfl hb
  · rfl

lemma place_eq_error_iff (names : List String) (isLast : Bool) (size : Nat) (segment : Segment) (fault : Fault) :
    place names isLast size segment = .error fault ↔ ∃ name quantifier, segment = .var name quantifier ∧
      ((quantifier ≠ none ∧ isLast = false ∧ fault = ⟨.misplacedQuantifier, size - 1⟩) ∨
        ((quantifier ≠ none → isLast = true) ∧ name ∈ names ∧ fault = ⟨.duplicateVariable name, 0⟩)) := by
  cases segment with
  | literal text => exact iff_of_false (fun h => by cases h) fun ⟨_, _, he, _⟩ => by cases he
  | var name quantifier =>
    have hmisplaced : (quantifier.isSome && !isLast) = true ↔ quantifier ≠ none ∧ isLast = false := by
      cases quantifier <;> simp
    simp only [place, hmisplaced, Segment.var.injEq]
    constructor
    · intro h
      refine ⟨name, quantifier, ⟨rfl, rfl⟩, ?_⟩
      split_ifs at h with hq hn
      · exact .inl ⟨hq.1, hq.2, (Except.error.inj h).symm⟩
      · exact .inr ⟨fun hs => by simpa using fun hl => hq ⟨hs, hl⟩, hn, (Except.error.inj h).symm⟩
    · rintro ⟨_, _, ⟨rfl, rfl⟩, ⟨hq, hl, rfl⟩ | ⟨hq, hn, rfl⟩⟩
      · rw [if_pos ⟨hq, hl⟩]
      · rw [if_neg fun h => by simp [hq h.1] at h, if_pos hn]

@[simp] lemma size_suffix_some (quantifier : Quantifier) : Utf8.size (suffix (some quantifier)) = 1 := by
  cases quantifier <;> rfl

lemma Denotes.exists_front {raw : List Char} {name : String} {quantifier : Option Quantifier}
    (h : Denotes .template raw (.var name quantifier)) : ∃ front, front ≠ [] ∧ raw = front ++ suffix quantifier := by
  cases h with
  | @var name => exact ⟨'{' :: (name ++ ['}']), List.cons_ne_nil _ _, by simp⟩

lemma segmentFault_iff (names : List String) (isLast : Bool) (raw : List Char) (fault : Fault) :
    SegmentFault names isLast raw fault.cause fault.offset ↔ Refuses names isLast raw fault := by
  constructor
  · obtain ⟨cause, offset⟩ := fault
    intro h
    cases h with
    | inLiteral hb h => exact .inl (readSegment_of_head hb ▸ (readLiteral_eq_error_iff _ _).mpr h)
    | inVariable h => exact .inl ((readVariable_eq_error_iff _ ⟨cause, offset⟩).mpr h)
    | @quantifier front name quantifier hd hl =>
      refine .inr ⟨_, (readSegment_eq_ok_iff _ _).mpr hd, (place_eq_error_iff _ _ _ _ _).mpr ⟨name, _, rfl, .inl ?_⟩⟩
      exact ⟨Option.some_ne_none _, hl, by simp⟩
    | duplicate hd hl hn =>
      exact .inr ⟨_, (readSegment_eq_ok_iff _ _).mpr hd,
        (place_eq_error_iff _ _ _ _ _).mpr ⟨_, _, rfl, .inr ⟨hl, hn, rfl⟩⟩⟩
  · rintro (h | ⟨segment, h, hp⟩)
    · by_cases hb : raw.head? = some '{'
      · obtain ⟨rest, rfl⟩ := List.head?_eq_some_iff.mp hb
        exact .inVariable ((readVariable_eq_error_iff rest fault).mp h)
      · rw [readSegment_of_head hb] at h
        exact .inLiteral hb ((readLiteral_eq_error_iff raw fault).mp h)
    · have hd := (readSegment_eq_ok_iff _ _).mp h
      obtain ⟨name, quantifier, rfl, ⟨hq, hl, rfl⟩ | ⟨hq, hn, rfl⟩⟩ := (place_eq_error_iff _ _ _ _ _).mp hp
      · obtain ⟨q, rfl⟩ := Option.ne_none_iff_exists'.mp hq
        obtain ⟨front, -, rfl⟩ := hd.exists_front
        rw [Utf8.size_append, size_suffix_some, Nat.add_sub_cancel]
        exact .quantifier hd hl
      · exact .duplicate hd hq hn

lemma VariableFault.exists_split {rest : List Char} {cause : Cause} {offset : Nat}
    (h : VariableFault rest cause offset) :
    ∃ front back, back ≠ [] ∧ '{' :: rest = front ++ back ∧ offset = Utf8.size front := by
  cases h with
  | unclosed => exact ⟨[], _, List.cons_ne_nil _ _, rfl, rfl⟩
  | emptyName => exact ⟨[], _, List.cons_ne_nil _ _, rfl, rfl⟩
  | @brace front rest tail =>
    exact ⟨'{' :: front, '{' :: (rest ++ '}' :: tail), List.cons_ne_nil _ _, by simp, rfl⟩
  | @tail name rest quantifier c =>
    refine ⟨'{' :: (name ++ '}' :: suffix quantifier), c :: rest, List.cons_ne_nil _ _, by simp, ?_⟩
    have hopen : '{'.utf8Size = 1 := rfl
    have hclose : '}'.utf8Size = 1 := rfl
    simp only [Utf8.size_cons, Utf8.size_append, hopen, hclose]
    omega

/-- The fault stands inside the segment, where one of its characters starts. -/
lemma SegmentFault.exists_split {names : List String} {isLast : Bool} {raw : List Char} {cause : Cause} {offset : Nat}
    (h : SegmentFault names isLast raw cause offset) :
    ∃ front back, back ≠ [] ∧ raw = front ++ back ∧ offset = Utf8.size front := by
  cases h with
  | inLiteral hb h =>
    cases h with
    | brace => exact ⟨_, _, List.cons_ne_nil _ _, rfl, rfl⟩
    | escape => exact ⟨_, _, List.cons_ne_nil _ _, rfl, rfl⟩
    | notUtf8 => exact ⟨[], _, List.cons_ne_nil _ _, rfl, rfl⟩
  | inVariable h => exact h.exists_split
  | @quantifier front name quantifier =>
    exact ⟨front, suffix (some quantifier), by cases quantifier <;> simp [suffix], rfl, rfl⟩
  | duplicate hd =>
    obtain ⟨front, hne, rfl⟩ := hd.exists_front
    exact ⟨[], _, fun he => hne (List.append_eq_nil_iff.mp he).1, rfl, rfl⟩

lemma SegmentFault.ne_nil {names : List String} {isLast : Bool} {raw : List Char} {cause : Cause} {offset : Nat}
    (h : SegmentFault names isLast raw cause offset) : raw ≠ [] := by
  obtain ⟨front, back, hne, rfl, -⟩ := h.exists_split
  exact fun he => hne (List.append_eq_nil_iff.mp he).2

end PathRouter.Pattern
