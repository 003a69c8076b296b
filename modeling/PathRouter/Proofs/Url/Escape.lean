import PathRouter.Proofs.Percent.Decoding
import PathRouter.Url.Path

/-! The escapes that an address puts in its path do not change what a segment spells: none of them completes an
escape that was malformed before, and none breaks one that was not. -/

namespace PathRouter

namespace Url.Path

open Percent

def escapeOctet (b : UInt8) : List Char :=
  if isEscaped b then ['%', hexDigit (b / 16), hexDigit (b % 16)] else [Char.ofUInt8 b]

lemma escape_eq_flatMap (text : List Char) : escape text = (Utf8.encode text).flatMap escapeOctet :=
  rfl

lemma escapeOctet_visible (b : UInt8) : ∀ c ∈ escapeOctet b, isVisible c = true ∧ (c = '/' → b = 0x2f) := by
  have hall : ∀ b, (escapeOctet b).all (fun c => isVisible c && (c ≠ '/' || b = 0x2f)) = true :=
    forall_octet (by decide +kernel)
  intro c hc
  have hb := List.all_eq_true.mp (hall b) c hc
  rw [Bool.and_eq_true, Bool.or_eq_true, decide_eq_true_eq, decide_eq_true_eq] at hb
  exact ⟨hb.1, hb.2.resolve_left ∘ not_not_intro⟩

def escaped (b : UInt8) : List UInt8 :=
  (escapeOctet b).map Char.toUInt8

lemma utf8_escape (text : List Char) : Utf8.encode (escape text) = (Utf8.encode text).flatMap escaped := by
  have hascii : ∀ c ∈ escape text, c.toNat < 0x80 := fun c hc => by
    obtain ⟨b, -, hb⟩ := List.mem_flatMap.mp hc
    exact isVisible_ascii (escapeOctet_visible b c hb).1
  rw [Utf8.encode_of_ascii hascii, escape_eq_flatMap, List.map_flatMap]
  rfl

lemma escaped_of_not_isEscaped : ∀ b, isEscaped b = false → escaped b = [b] :=
  forall_octet (by decide +kernel)

lemma escaped_of_isEscaped : ∀ b, isEscaped b = true → b ≠ 0x25 ∧
    escaped b = [0x25, (hexDigit (b / 16)).toUInt8, (hexDigit (b % 16)).toUInt8] :=
  forall_octet (by decide +kernel)

lemma not_isEscaped_of_digit {b d : UInt8} (h : hexValue? b = some d) : isEscaped b = false := by
  have hall : ∀ b, (hexValue? b).isSome = true → isEscaped b = false := forall_octet (by decide +kernel)
  exact hall b (by rw [h]; rfl)

lemma escaped_digit {b d : UInt8} (h : hexValue? b = some d) : escaped b = [b] :=
  escaped_of_not_isEscaped b (not_isEscaped_of_digit h)

lemma wellEscaped_escaped {octets : List UInt8} (h : WellEscaped octets) :
    WellEscaped (octets.flatMap escaped) ∧ unescape (octets.flatMap escaped) = unescape octets := by
  induction h with
  | nil => exact ⟨.nil, rfl⟩
  | @plain b rest hb _ ih =>
    obtain ⟨hwell, hsame⟩ := ih
    rw [List.flatMap_cons, unescape_cons_of_ne hb]
    cases he : isEscaped b with
    | false =>
      rw [escaped_of_not_isEscaped b he, List.singleton_append, unescape_cons_of_ne hb, hsame]
      exact ⟨.plain hb hwell, rfl⟩
    | true =>
      obtain ⟨hh, hl, hv⟩ := hexValue?_hexDigit b
      rw [(escaped_of_isEscaped b he).2, List.cons_append, List.cons_append, List.singleton_append,
        unescape_escape hh hl, hv, hsame]
      exact ⟨.escape hh hl hwell, rfl⟩
  | escape hh hl _ ih =>
    obtain ⟨hwell, hsame⟩ := ih
    rw [List.flatMap_cons, List.flatMap_cons, List.flatMap_cons, escaped_of_not_isEscaped 0x25 (by decide),
      escaped_digit hh, escaped_digit hl, List.singleton_append, List.singleton_append, List.singleton_append,
      unescape_escape hh hl, unescape_escape hh hl, hsame]
    exact ⟨.escape hh hl hwell, rfl⟩

lemma exists_of_flatMap_eq_cons {α : Type} {f : α → List α} {items rest : List α} {mark a : α}
    (hf : ∀ a ∈ items, f a = [a] ∨ (f a).head? = some mark) (ha : a ≠ mark) (h : items.flatMap f = a :: rest) :
    ∃ others, items = a :: others ∧ others.flatMap f = rest := by
  cases items with
  | nil => cases h
  | cons first others =>
    rw [List.flatMap_cons] at h
    rcases hf first List.mem_cons_self with hfirst | hfirst
    · rw [hfirst, List.singleton_append] at h
      obtain ⟨rfl, hrest⟩ := List.cons.inj h
      exact ⟨others, rfl, hrest⟩
    · obtain ⟨tail, hmark⟩ := List.head?_eq_some_iff.mp hfirst
      rw [hmark] at h
      exact absurd (List.cons.inj h).1.symm ha

lemma exists_of_flatMap_escaped {octets rest : List UInt8} {b : UInt8} (hb : b ≠ 0x25)
    (h : octets.flatMap escaped = b :: rest) : ∃ others, octets = b :: others ∧ others.flatMap escaped = rest := by
  refine exists_of_flatMap_eq_cons (fun a _ => ?_) hb h
  cases he : isEscaped a with
  | false => exact .inl (escaped_of_not_isEscaped a he)
  | true => exact .inr (by rw [(escaped_of_isEscaped a he).2]; rfl)

lemma wellEscaped_of_escaped {octets : List UInt8} (h : WellEscaped (octets.flatMap escaped)) :
    WellEscaped octets := by
  generalize hl : octets.flatMap escaped = list at h
  induction h generalizing octets with
  | nil =>
    cases octets with
    | nil => exact .nil
    | cons b rest =>
      rw [List.flatMap_cons] at hl
      cases he : isEscaped b with
      | false =>
        rw [escaped_of_not_isEscaped b he] at hl
        cases hl
      | true =>
        rw [(escaped_of_isEscaped b he).2] at hl
        cases hl
  | plain hb _ ih =>
    obtain ⟨others, rfl, hrest⟩ := exists_of_flatMap_escaped hb hl
    exact .plain hb (ih hrest)
  | @escape high low h l rest hh hlow _ ih =>
    cases octets with
    | nil => cases hl
    | cons b others =>
      rw [List.flatMap_cons] at hl
      -- The percent sign stands for itself or begins the escape of an octet; the digits of an escape are not escaped.
      cases he : isEscaped b with
      | false =>
        rw [escaped_of_not_isEscaped b he, List.singleton_append] at hl
        obtain ⟨rfl, hhigh⟩ := List.cons.inj hl
        obtain ⟨others, rfl, hlow'⟩ := exists_of_flatMap_escaped (hexValue?_ne_percent hh) hhigh
        obtain ⟨others, rfl, hrest⟩ := exists_of_flatMap_escaped (hexValue?_ne_percent hlow) hlow'
        exact .escape hh hlow (ih hrest)
      | true =>
        obtain ⟨hb, hs⟩ := escaped_of_isEscaped b he
        rw [hs] at hl
        exact .plain hb (ih (List.cons.inj (List.cons.inj (List.cons.inj hl).2).2).2)

lemma wellEscaped_escaped_iff (octets : List UInt8) : WellEscaped (octets.flatMap escaped) ↔ WellEscaped octets :=
  ⟨wellEscaped_of_escaped, fun h => (wellEscaped_escaped h).1⟩

@[simp] lemma decode_escape (segment : List Char) : (decode (escape segment)).toOption = (decode segment).toOption := by
  have hiff := wellEscaped_escaped_iff (Utf8.encode segment)
  rw [decode, decode, utf8_escape]
  cases hm : malformedAt? (Utf8.encode segment) with
  | none =>
    have hwell := (malformedAt?_eq_none_iff _).mp hm
    rw [(malformedAt?_eq_none_iff _).mpr (hiff.mpr hwell), (wellEscaped_escaped hwell).2]
  | some offset =>
    cases he : malformedAt? ((Utf8.encode segment).flatMap escaped) with
    | some offset' => rfl
    | none =>
      rw [(malformedAt?_eq_none_iff _).mpr (hiff.mp ((malformedAt?_eq_none_iff _).mp he))] at hm
      cases hm

@[simp] lemma canonical_escape (segment : List Char) :
    (canonical (escape segment)).toOption = (canonical segment).toOption := by
  have hmap : ∀ x : Except DecodeFault (List Char), (x.map encode).toOption = x.toOption.map encode := fun x => by
    cases x <;> rfl
  rw [canonical, canonical, hmap, hmap, decode_escape]

end Url.Path

end PathRouter
