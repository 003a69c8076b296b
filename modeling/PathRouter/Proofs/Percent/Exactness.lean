import Mathlib.Order.Bounds.Defs
import PathRouter.Proofs.Percent.Decoding
import PathRouter.Text.Digits

/-! What decoding means, position by position. Escapes never overlap, since none of their digits is a percent sign, so
where they stand can be said of each position by itself, and what is read is what the positions write, in order. -/

namespace PathRouter.Percent

def escape? : List UInt8 → Option UInt8
  | 0x25 :: high :: low :: _ => (Digits.numeral? 16 [Char.ofUInt8 high, Char.ofUInt8 low]).map UInt8.ofNat
  | _ => none

def escapeAt? (octets : List UInt8) (i : Nat) : Option UInt8 :=
  escape? (octets.drop i)

def IsStray (octets : List UInt8) (i : Nat) : Prop :=
  octets[i]? = some 0x25 ∧ escapeAt? octets i = none

def IsInEscape (octets : List UInt8) (i : Nat) : Prop :=
  ∃ j < i, i ≤ j + 2 ∧ (escapeAt? octets j).isSome

instance (octets : List UInt8) (i : Nat) : Decidable (IsInEscape octets i) :=
  inferInstanceAs (Decidable (∃ j < i, _))

/-- What a position writes: an escape writes its octet where it begins and nothing where its digits stand, and any
other octet writes itself. -/
def octetsAt (octets : List UInt8) (i : Nat) : List UInt8 :=
  match escapeAt? octets i with
  | some b => [b]
  | none => if IsInEscape octets i then [] else octets[i]?.toList

def replaced (octets : List UInt8) : List UInt8 :=
  (List.range octets.length).flatMap (octetsAt octets)

section Escape

variable {octets : List UInt8} {b : UInt8} {i : Nat}

lemma value?_ofUInt8 : ∀ b, (Digits.value? (Char.ofUInt8 b)).filter (· < 16) = (hexValue? b).map UInt8.toNat :=
  forall_octet (by decide +kernel)

lemma numeral?_octets (high low : UInt8) : Digits.numeral? 16 [Char.ofUInt8 high, Char.ofUInt8 low] =
    (hexValue? high).bind fun h => (hexValue? low).map fun l => (16 * h + l).toNat := by
  simp only [Digits.numeral?, List.foldlM_cons, List.foldlM_nil, value?_ofUInt8, Option.bind_eq_bind, Option.pure_def]
  cases hh : hexValue? high with
  | none => rfl
  | some h =>
    cases hl : hexValue? low with
    | none => rfl
    | some l => simp only [Option.map_some, Option.bind_some, toNat_escape hh hl, Nat.mul_zero, Nat.zero_add]

lemma escape?_eq_some_iff : escape? octets = some b ↔ ∃ high low h l rest, octets = 0x25 :: high :: low :: rest ∧
    hexValue? high = some h ∧ hexValue? low = some l ∧ 16 * h + l = b := by
  constructor
  · intro he
    unfold escape? at he
    split at he
    next high low rest =>
      obtain ⟨n, hn, rfl⟩ := Option.map_eq_some_iff.mp he
      rw [numeral?_octets] at hn
      obtain ⟨h, hh, hn⟩ := Option.bind_eq_some_iff.mp hn
      obtain ⟨l, hl, rfl⟩ := Option.map_eq_some_iff.mp hn
      exact ⟨high, low, h, l, rest, rfl, hh, hl, UInt8.ofNat_toNat.symm⟩
    next => cases he
  · rintro ⟨high, low, h, l, rest, rfl, hh, hl, rfl⟩
    rw [escape?, numeral?_octets, hh, hl]
    exact congrArg some UInt8.ofNat_toNat

lemma isSome_escapeAt?_iff : (escapeAt? octets i).isSome = true ↔ octets[i]? = some 0x25 ∧ IsEscapeAt octets i := by
  rw [Option.isSome_iff_exists]
  simp only [escapeAt?, escape?_eq_some_iff]
  constructor
  · rintro ⟨_, high, low, h, l, rest, hdrop, hh, hl, -⟩
    have hget : ∀ k, octets[i + k]? = (0x25 :: high :: low :: rest)[k]? := fun k => by
      rw [← hdrop, List.getElem?_drop]
    exact ⟨hget 0, high, low, h, l, hget 1, hget 2, hh, hl⟩
  · rintro ⟨hpercent, high, low, h, l, hhigh, hlow, hh, hl⟩
    refine ⟨16 * h + l, high, low, h, l, octets.drop (i + 3), ?_, hh, hl, rfl⟩
    obtain ⟨hi, hpercent⟩ := List.getElem?_eq_some_iff.mp hpercent
    obtain ⟨hi', hhigh⟩ := List.getElem?_eq_some_iff.mp hhigh
    obtain ⟨hi'', hlow⟩ := List.getElem?_eq_some_iff.mp hlow
    rw [List.drop_eq_getElem_cons hi, List.drop_eq_getElem_cons hi', List.drop_eq_getElem_cons hi'', hpercent, hhigh,
      hlow]

lemma isStray_iff : IsStray octets i ↔ octets[i]? = some 0x25 ∧ ¬ IsEscapeAt octets i := by
  rw [IsStray, ← Option.not_isSome_iff_eq_none, isSome_escapeAt?_iff]
  exact and_congr_right fun hi => not_congr (and_iff_right hi)

lemma forall_not_isStray_iff (octets : List UInt8) :
    (∀ i, ¬ IsStray octets i) ↔ ∀ i, octets[i]? = some 0x25 → IsEscapeAt octets i := by
  simp only [isStray_iff, not_and, not_not]

lemma isLeast_isStray_iff (octets : List UInt8) (i : Nat) :
    IsLeast {i | IsStray octets i} i ↔ IsMalformedAt octets i := by
  constructor
  · rintro ⟨hi, hleast⟩
    obtain ⟨hpercent, hn⟩ := isStray_iff.mp hi
    refine ⟨hpercent, hn, fun j hj hp => ?_⟩
    by_contra he
    exact absurd (hleast (isStray_iff.mpr ⟨hp, he⟩)) (Nat.not_le.mpr hj)
  · rintro ⟨hpercent, hn, hbefore⟩
    refine ⟨isStray_iff.mpr ⟨hpercent, hn⟩, fun j hj => ?_⟩
    obtain ⟨hp, he⟩ := isStray_iff.mp hj
    by_contra hlt
    exact he (hbefore j (Nat.not_le.mp hlt) hp)

end Escape

section Replaced

variable {rest : List UInt8} {b high low h l : UInt8} {i : Nat}

lemma isInEscape_succ_iff : IsInEscape (b :: rest) (i + 1) ↔
    IsInEscape rest i ∨ i < 2 ∧ (escapeAt? (b :: rest) 0).isSome = true := by
  constructor
  · rintro ⟨j, hj, hi, he⟩
    cases j with
    | zero => exact .inr ⟨by omega, he⟩
    | succ j => exact .inl ⟨j, by omega, by omega, he⟩
  · rintro (⟨j, hj, hi, he⟩ | ⟨hi, he⟩)
    · exact ⟨j + 1, by omega, by omega, he⟩
    · exact ⟨0, by omega, by omega, he⟩

lemma octetsAt_succ (h : i < 2 → escapeAt? (b :: rest) 0 = none) :
    octetsAt (b :: rest) (i + 1) = octetsAt rest i := by
  have hin : IsInEscape (b :: rest) (i + 1) ↔ IsInEscape rest i := by
    refine isInEscape_succ_iff.trans (or_iff_left ?_)
    rintro ⟨hi, he⟩
    rw [h hi] at he
    cases he
  simp only [octetsAt, escapeAt?, List.drop_succ_cons, List.getElem?_cons_succ, hin]

lemma replaced_cons (b : UInt8) (rest : List UInt8) : replaced (b :: rest) =
    octetsAt (b :: rest) 0 ++ (List.range rest.length).flatMap fun i => octetsAt (b :: rest) (i + 1) := by
  rw [replaced, List.length_cons, List.range_succ_eq_map, List.flatMap_cons, List.flatMap_map]

lemma octetsAt_zero (h : escapeAt? (b :: rest) 0 = none) : octetsAt (b :: rest) 0 = [b] := by
  have hin : ¬ IsInEscape (b :: rest) 0 := fun ⟨j, hj, _⟩ => absurd hj (Nat.not_lt_zero j)
  rw [octetsAt, h]
  exact if_neg hin

lemma replaced_cons_of_none (h : escapeAt? (b :: rest) 0 = none) : replaced (b :: rest) = b :: replaced rest := by
  rw [replaced_cons, octetsAt_zero h, List.singleton_append]
  simp only [octetsAt_succ fun _ => h]
  rfl

lemma escapeAt?_zero_of_not {octets : List UInt8} (hn : ∀ high low h l tail, octets = 0x25 :: high :: low :: tail →
    hexValue? high = some h → hexValue? low = some l → False) : escapeAt? octets 0 = none := by
  rw [Option.eq_none_iff_forall_ne_some]
  intro b he
  obtain ⟨high, low, h, l, tail, ht, hh, hl, -⟩ := escape?_eq_some_iff.mp he
  exact hn high low h l tail ht hh hl

lemma escapeAt?_zero_of_ne (hb : b ≠ 0x25) (rest : List UInt8) : escapeAt? (b :: rest) 0 = none :=
  escapeAt?_zero_of_not fun _ _ _ _ _ ht _ _ => hb (List.cons.inj ht).1

lemma octetsAt_of_isInEscape {octets : List UInt8} (hn : escapeAt? octets i = none) (h : IsInEscape octets i) :
    octetsAt octets i = [] := by
  rw [octetsAt, hn]
  exact if_pos h

lemma replaced_escape (hh : hexValue? high = some h) (hl : hexValue? low = some l) (rest : List UInt8) :
    replaced (0x25 :: high :: low :: rest) = (16 * h + l) :: replaced rest := by
  have he : escapeAt? (0x25 :: high :: low :: rest) 0 = some (16 * h + l) :=
    escape?_eq_some_iff.mpr ⟨high, low, h, l, rest, rfl, hh, hl, rfl⟩
  -- No digit is a percent sign, so nothing begins at the digits, and what comes after them is not in this escape.
  have hhigh := escapeAt?_zero_of_ne (hexValue?_ne_percent hh) (low :: rest)
  have hlow := escapeAt?_zero_of_ne (hexValue?_ne_percent hl) rest
  have hsome : (escapeAt? (0x25 :: high :: low :: rest) 0).isSome = true := by rw [he]; rfl
  have hzero : octetsAt (0x25 :: high :: low :: rest) 0 = [16 * h + l] := by rw [octetsAt, he]
  have hone : octetsAt (0x25 :: high :: low :: rest) 1 = [] :=
    octetsAt_of_isInEscape hhigh ⟨0, by decide, by decide, hsome⟩
  have htwo : octetsAt (0x25 :: high :: low :: rest) 2 = [] :=
    octetsAt_of_isInEscape hlow ⟨0, by decide, by decide, hsome⟩
  have hafter : ∀ i, octetsAt (0x25 :: high :: low :: rest) (3 + i) = octetsAt rest i := by
    intro i
    rw [Nat.add_comm, octetsAt_succ fun hi => absurd hi (by omega), octetsAt_succ fun _ => hhigh,
      octetsAt_succ fun _ => hlow]
  calc replaced (0x25 :: high :: low :: rest)
      = (List.range (3 + rest.length)).flatMap (octetsAt (0x25 :: high :: low :: rest)) := by
        rw [Nat.add_comm]; rfl
    _ = [0, 1, 2].flatMap (octetsAt (0x25 :: high :: low :: rest)) ++ replaced rest := by
        rw [List.range_add, List.flatMap_append, List.flatMap_map]
        simp only [hafter]
        rfl
    _ = (16 * h + l) :: replaced rest := by
        simp only [List.flatMap_cons, List.flatMap_nil, hzero, hone, htwo, List.nil_append, List.singleton_append]

lemma unescape_eq_replaced (octets : List UInt8) : unescape octets = replaced octets := by
  induction octets using unescape.induct with
  | case1 => rw [unescape]; rfl
  | case2 high low rest h l hl hh ih => rw [unescape_escape hh hl, replaced_escape hh hl, ih]
  | case3 high low rest hdigits ih =>
    have hn : escapeAt? (0x25 :: high :: low :: rest) 0 = none := by
      refine escapeAt?_zero_of_not fun _ _ h l _ ht hh hl => ?_
      simp only [List.cons.injEq] at ht
      obtain ⟨-, rfl, rfl, -⟩ := ht
      exact hdigits h l hh hl
    rw [replaced_cons_of_none hn, ← ih, unescape]
    cases hh : hexValue? high with
    | none => rfl
    | some h =>
      cases hl : hexValue? low with
      | none => rfl
      | some l => exact (hdigits h l hh hl).elim
  | case4 b rest hshort ih =>
    have hn : escapeAt? (b :: rest) 0 = none := by
      refine escapeAt?_zero_of_not fun high low _ _ tail ht _ _ => ?_
      obtain ⟨hb, hrest⟩ := List.cons.inj ht
      exact hshort high low tail hb hrest
    rw [replaced_cons_of_none hn, ← ih, unescape]
    exact hshort

end Replaced

lemma decodeLenient_eq (segment : List Char) :
    decodeLenient segment = Utf8.decodeLossy (replaced (Utf8.encode segment)) := by
  rw [decodeLenient, unescape_eq_replaced]

lemma spells_iff (segment text : List Char) : Spells segment text ↔
    (∀ i, ¬ IsStray (Utf8.encode segment) i) ∧ replaced (Utf8.encode segment) = Utf8.encode text := by
  rw [forall_not_isStray_iff, ← unescape_eq_replaced]
  exact ⟨fun h => ⟨h.escapes, h.octets⟩, fun ⟨hescapes, hoctets⟩ => ⟨hescapes, hoctets⟩⟩

lemma Spells.decodeLenient {segment text : List Char} (h : Spells segment text) :
    Percent.decodeLenient segment = text := by
  rw [decodeLenient_eq, ((spells_iff segment text).mp h).2, Utf8.decodeLossy_encode]

/-- Strict decoding refuses a segment at its first percent sign that begins no escape, or because the octets that it
writes are no text, and otherwise gives their text. Lenient decoding reads the same octets, whatever they are, so both
give a text back from its canonical spelling and they agree wherever strict decoding succeeds. -/
theorem decode_exact :
    (∀ octets : List UInt8, (malformedAt? octets = none ↔ ∀ i, ¬ IsStray octets i) ∧
      ∀ i, malformedAt? octets = some i ↔ IsLeast {i | IsStray octets i} i) ∧
    (∀ segment text, decode segment = .ok text ↔
      (∀ i, ¬ IsStray (Utf8.encode segment) i) ∧ replaced (Utf8.encode segment) = Utf8.encode text) ∧
    (∀ segment i, decode segment = .error (.malformed i) ↔ IsLeast {i | IsStray (Utf8.encode segment) i} i) ∧
    (∀ segment, decode segment = .error .notUtf8 ↔
      (∀ i, ¬ IsStray (Utf8.encode segment) i) ∧ ∀ text, replaced (Utf8.encode segment) ≠ Utf8.encode text) ∧
    (∀ segment, decodeLenient segment = Utf8.decodeLossy (replaced (Utf8.encode segment))) ∧
    (∀ text, decode (encode text) = .ok text ∧ decodeLenient (encode text) = text) ∧
    ∀ segment text, decode segment = .ok text → decodeLenient segment = text := by
  refine ⟨fun octets => ⟨?_, fun i => ?_⟩, fun segment text => ?_, fun segment i => ?_, fun segment => ?_,
    decodeLenient_eq, fun text => ⟨decode_encode text, decodeLenient_encode text⟩, fun segment text h => ?_⟩
  · rw [malformedAt?_eq_none_iff, wellEscaped_iff, forall_not_isStray_iff]
  · rw [malformedAt?_eq_some_iff, isLeast_isStray_iff]
  · rw [decode_eq_ok_iff, spells_iff]
  · rw [decode_eq_malformed_iff, isLeast_isStray_iff]
  · rw [decode_eq_notUtf8_iff, forall_not_isStray_iff, ← unescape_eq_replaced, not_exists]
  · exact ((decode_eq_ok_iff segment text).mp h).decodeLenient

theorem decode_exact_accented :
    decode "caf%c3%A9%2541".toList = .ok "caf\u00e9%41".toList ∧
      decodeLenient "caf%c3%A9%2541".toList = "caf\u00e9%41".toList ∧
      IsLeast {i | IsStray (Utf8.encode "\u00e9%%41%4".toList) i} 2 ∧
      decodeLenient "\u00e9%%41%4".toList = "\u00e9%A%4".toList := by
  obtain ⟨-, -, hmalformed, -, hlenient, -, hagree⟩ := decode_exact
  have hdecode : decode "caf%c3%A9%2541".toList = .ok "caf\u00e9%41".toList := by decide +kernel
  refine ⟨hdecode, hagree _ _ hdecode, (hmalformed _ _).mp (by decide +kernel), ?_⟩
  rw [hlenient, show replaced (Utf8.encode "\u00e9%%41%4".toList) = Utf8.encode "\u00e9%A%4".toList by decide +kernel,
    Utf8.decodeLossy_encode]

end PathRouter.Percent
