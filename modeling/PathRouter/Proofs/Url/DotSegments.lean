import PathRouter.Proofs.Percent.Decoding
import PathRouter.Proofs.Url.Path

/-! The dot segments are the segments that spell one dot or two, and a path that has been resolved holds none. -/

namespace PathRouter.Url.Path

open Percent

/-- Whether a segment is a dot, spelled in one of its three ways, and a tail. -/
inductive IsDotBefore (tail : List Char) : List Char → Prop
  | raw : IsDotBefore tail ('.' :: tail)
  | lower : IsDotBefore tail ('%' :: '2' :: 'e' :: tail)
  | upper : IsDotBefore tail ('%' :: '2' :: 'E' :: tail)

variable {segment tail text : List Char}

lemma IsDotBefore.ascii (h : IsDotBefore tail segment) (ha : ∀ c ∈ segment, c.toNat < 0x80) :
    ∀ c ∈ tail, c.toNat < 0x80 := by
  intro c hc
  cases h with
  | raw => exact ha c (List.mem_cons_of_mem _ hc)
  | lower => exact ha c (by simp [hc])
  | upper => exact ha c (by simp [hc])

@[simp] lemma plainDots_eq_nil_iff : plainDots segment = [] ↔ segment = [] := by
  refine ⟨fun h => ?_, fun h => by rw [h, plainDots]⟩
  unfold plainDots at h
  split at h
  · cases h
  · cases h
  · cases h
  · rfl

lemma plainDots_eq_dot_cons_iff {rest : List Char} :
    plainDots segment = '.' :: rest ↔ ∃ tail, IsDotBefore tail segment ∧ plainDots tail = rest := by
  constructor
  · intro h
    unfold plainDots at h
    split at h
    · exact ⟨_, .lower, (List.cons.inj h).2⟩
    · exact ⟨_, .upper, (List.cons.inj h).2⟩
    · obtain ⟨rfl, hrest⟩ := List.cons.inj h
      exact ⟨_, .raw, hrest⟩
    · cases h
  · rintro ⟨tail, hdot, rfl⟩
    cases hdot <;> rfl

lemma hexValue?_dot : ∀ b, (hexValue? b = some 2 → b = 0x32) ∧ (hexValue? b = some 14 → b = 0x65 ∨ b = 0x45) :=
  forall_octet (by decide +kernel)

lemma digits_of_dot {high low value value' : UInt8} (hh : hexValue? high = some value)
    (hl : hexValue? low = some value') (h : 16 * value + value' = 0x2e) : high = 0x32 ∧ (low = 0x65 ∨ low = 0x45) := by
  have hlow := hexValue?_lt hl
  have hsum := congrArg UInt8.toNat h
  rw [toNat_escape hh hl] at hsum
  obtain rfl : value = 2 := UInt8.toNat_inj.mp (by simp only [UInt8.reduceToNat] at hsum ⊢; omega)
  obtain rfl : value' = 14 := UInt8.toNat_inj.mp (by simp only [UInt8.reduceToNat] at hsum ⊢; omega)
  exact ⟨(hexValue?_dot high).1 hh, (hexValue?_dot low).2 hl⟩

section Spelled

variable (ha : ∀ c ∈ segment, c.toNat < 0x80)
include ha

lemma unescape_eq_dot_cons_iff {others : List UInt8} : unescape (segment.map Char.toUInt8) = 0x2e :: others ↔
    ∃ tail, IsDotBefore tail segment ∧ unescape (tail.map Char.toUInt8) = others := by
  constructor
  · intro h
    cases segment with
    | nil => cases h
    | cons c rest =>
      obtain ⟨hc, hrest⟩ := List.forall_mem_cons.mp ha
      rw [List.map_cons] at h
      by_cases hpercent : c.toUInt8 = 0x25
      · obtain rfl : c = '%' := (Utf8.toUInt8_inj hc (by decide)).mp hpercent
        obtain ⟨_, _, _, _, _, hdigits, hh, hl, hdot, hothers⟩ := exists_escape_of_unescape (by decide) h
        obtain ⟨high, lower, rfl, rfl, hlower⟩ := List.map_eq_cons_iff.mp hdigits
        obtain ⟨low, rest, rfl, rfl, rfl⟩ := List.map_eq_cons_iff.mp hlower
        simp only [List.forall_mem_cons] at hrest
        obtain ⟨hhigh, hlow, -⟩ := hrest
        obtain ⟨h2, he⟩ := digits_of_dot hh hl hdot
        obtain rfl : high = '2' := (Utf8.toUInt8_inj hhigh (by decide)).mp h2
        rcases he with he | he
        · obtain rfl : low = 'e' := (Utf8.toUInt8_inj hlow (by decide)).mp he
          exact ⟨rest, .lower, hothers⟩
        · obtain rfl : low = 'E' := (Utf8.toUInt8_inj hlow (by decide)).mp he
          exact ⟨rest, .upper, hothers⟩
      · rw [unescape_cons_of_ne hpercent] at h
        obtain ⟨hdot, hothers⟩ := List.cons.inj h
        obtain rfl : c = '.' := (Utf8.toUInt8_inj hc (by decide)).mp hdot
        exact ⟨rest, .raw, hothers⟩
  · rintro ⟨tail, hdot, rfl⟩
    cases hdot <;> rfl

lemma plainDots_eq_dot_iff : plainDots segment = ['.'] ↔ unescape (segment.map Char.toUInt8) = [0x2e] := by
  rw [plainDots_eq_dot_cons_iff, unescape_eq_dot_cons_iff ha]
  refine exists_congr fun tail => and_congr_right fun _ => ?_
  rw [plainDots_eq_nil_iff]
  refine ⟨?_, fun h => List.map_eq_nil_iff.mp (unescape_eq_nil h)⟩
  rintro rfl
  rfl

lemma plainDots_eq_dots_iff : plainDots segment = ['.', '.'] ↔ unescape (segment.map Char.toUInt8) = [0x2e, 0x2e] := by
  rw [plainDots_eq_dot_cons_iff, unescape_eq_dot_cons_iff ha]
  exact exists_congr fun tail => and_congr_right fun h => plainDots_eq_dot_iff (h.ascii ha)

lemma isDot_iff_of_spells (h : Spells segment text) : isDot segment = true ↔ text = ['.'] := by
  rw [isDot, decide_eq_true_eq, plainDots_eq_dot_iff ha, ← Utf8.encode_of_ascii ha, h.octets]
  exact Utf8.encode_injective.eq_iff (b := ['.'])

lemma isDoubleDot_iff_of_spells (h : Spells segment text) : isDoubleDot segment = true ↔ text = ['.', '.'] := by
  rw [isDoubleDot, decide_eq_true_eq, plainDots_eq_dots_iff ha, ← Utf8.encode_of_ascii ha, h.octets]
  exact Utf8.encode_injective.eq_iff (b := ['.', '.'])

end Spelled

lemma escape_visible {c : Char} (h : c ∈ escape text) : isVisible c = true := by
  rw [escape_eq_flatMap] at h
  obtain ⟨b, -, hc⟩ := List.mem_flatMap.mp h
  exact (escapeOctet_visible b c hc).1

lemma mem_cut_resolve {body : List Char} (hb : ∀ c ∈ body, isPathChar c = true)
    (h : segment ∈ Pieces.cut '/' (Pieces.join '/' (resolve .web [] (Pieces.cut '/' body)).reverse)) :
    (∀ c ∈ segment, isVisible c = true) ∧ isDot segment = false ∧ isDoubleDot segment = false := by
  have hempty : (∀ c ∈ ([] : List Char), isVisible c = true ∧ c ≠ '/') ∧ isDot [] = false ∧ isDoubleDot [] = false :=
    ⟨fun c hc => (by cases hc), by decide, by decide⟩
  have hresolved : ∀ piece ∈ (resolve .web [] (Pieces.cut '/' body)).reverse,
      (∀ c ∈ piece, isVisible c = true ∧ c ≠ '/') ∧ isDot piece = false ∧ isDoubleDot piece = false := by
    intro piece hp
    rcases mem_of_mem_resolve (by decide) (List.mem_reverse.mp hp) with hp | rfl | ⟨⟨text, ht, rfl⟩, hdots⟩
    · cases hp
    · exact hempty
    · have htext : ∀ c ∈ clean text, isVisible c = true ∧ c ≠ '/' := fun c hc => by
        obtain ⟨hm, hne⟩ := Pieces.mem_of_mem_cut ht (List.mem_of_mem_filter hc)
        exact ⟨((isPathChar_iff c).mp (hb c hm)).1, hne⟩
      exact ⟨fun c hc => ⟨escape_visible hc, fun hs => slash_not_mem_escape htext (hs ▸ hc)⟩, hdots⟩
  obtain ⟨hv, hdots⟩ : (∀ c ∈ segment, isVisible c = true ∧ c ≠ '/') ∧ isDot segment = false ∧
      isDoubleDot segment = false := by
    by_cases hne : (resolve .web [] (Pieces.cut '/' body)).reverse = []
    · rw [hne] at h
      exact List.mem_singleton.mp h ▸ hempty
    · rw [Pieces.cut_join hne fun piece hp hs => ((hresolved piece hp).1 _ hs).2 rfl] at h
      exact hresolved segment h
  exact ⟨fun c hc => (hv c hc).1, hdots⟩

end PathRouter.Url.Path
