import PathRouter.Proofs.Percent

/-! What a segment spells. Strict decoding accepts a segment exactly if all its percent signs begin escapes and
the octets that it then writes are UTF-8, and it gives the text of these octets. -/

namespace PathRouter.Percent

inductive WellEscaped : List UInt8 → Prop
  | nil : WellEscaped []
  | plain {b : UInt8} {rest : List UInt8} (hb : b ≠ 0x25) (h : WellEscaped rest) : WellEscaped (b :: rest)
  | escape {high low h l : UInt8} {rest : List UInt8} (hh : hexValue? high = some h) (hl : hexValue? low = some l)
      (h : WellEscaped rest) : WellEscaped (0x25 :: high :: low :: rest)

lemma malformedAt?_eq_none_iff (octets : List UInt8) : malformedAt? octets = none ↔ WellEscaped octets := by
  constructor
  · intro h
    induction octets using malformedAt?.induct with
    | case1 => exact .nil
    | case2 high low rest hdigits ih =>
      obtain ⟨hh, hl⟩ := (Bool.and_eq_true _ _).mp hdigits
      obtain ⟨_, hh⟩ := Option.isSome_iff_exists.mp hh
      obtain ⟨_, hl⟩ := Option.isSome_iff_exists.mp hl
      rw [malformedAt?, if_pos hdigits, Option.map_eq_none_iff] at h
      exact .escape hh hl (ih h)
    | case3 high low rest hdigits =>
      rw [malformedAt?, if_neg hdigits] at h
      cases h
    | case4 rest hshort =>
      rw [malformedAt?, if_pos rfl] at h
      · cases h
      · exact hshort
    | case5 b rest _ hb ih =>
      rw [malformedAt?_cons_of_ne hb, Option.map_eq_none_iff] at h
      exact .plain hb (ih h)
  · intro h
    induction h with
    | nil => simp [malformedAt?]
    | plain hb _ ih => rw [malformedAt?_cons_of_ne hb, ih, Option.map_none]
    | escape hh hl _ ih => rw [malformedAt?, hh, hl, ih]; rfl

lemma unescape_escape {high low h l : UInt8} (hh : hexValue? high = some h) (hl : hexValue? low = some l)
    (rest : List UInt8) : unescape (0x25 :: high :: low :: rest) = (16 * h + l) :: unescape rest := by
  rw [unescape, hh, hl]

lemma hexValue?_ne_percent {b d : UInt8} (h : hexValue? b = some d) : b ≠ 0x25 := by
  rintro rfl
  cases h

lemma hexValue?_lt {b value : UInt8} (h : hexValue? b = some value) : value.toNat < 16 := by
  have hall : ∀ b, (hexValue? b).all (fun value => value.toNat < 16) = true := forall_octet (by decide +kernel)
  have hb := hall b
  rwa [h, Option.all_some, decide_eq_true_eq] at hb

lemma toNat_escape {high low h l : UInt8} (hh : hexValue? high = some h) (hl : hexValue? low = some l) :
    (16 * h + l).toNat = 16 * h.toNat + l.toNat := by
  have hhigh := hexValue?_lt hh
  have hlow := hexValue?_lt hl
  simp only [UInt8.toNat_add, UInt8.toNat_mul, UInt8.reduceToNat]
  omega

def IsEscapeAt (octets : List UInt8) (i : Nat) : Prop :=
  ∃ high low h l, octets[i + 1]? = some high ∧ octets[i + 2]? = some low ∧ hexValue? high = some h ∧
    hexValue? low = some l

lemma not_isEscapeAt_of_digits {high low : UInt8} {rest : List UInt8}
    (h : ¬ ((hexValue? high).isSome && (hexValue? low).isSome) = true) :
    ¬ IsEscapeAt (0x25 :: high :: low :: rest) 0 := by
  rintro ⟨_, _, _, _, hhigh, hlow, hh, hl⟩
  obtain rfl := Option.some.inj hhigh
  obtain rfl := Option.some.inj hlow
  rw [hh, hl] at h
  exact h rfl

lemma not_isEscapeAt_of_short {rest : List UInt8} (h : ∀ high low tail, rest = high :: low :: tail → False) :
    ¬ IsEscapeAt (0x25 :: rest) 0 := by
  rintro ⟨high, low, _, _, hhigh, hlow, -, -⟩
  match rest with
  | [] => cases hhigh
  | [_] => cases hlow
  | first :: second :: tail => exact h first second tail rfl

lemma wellEscaped_iff (octets : List UInt8) :
    WellEscaped octets ↔ ∀ i, octets[i]? = some 0x25 → IsEscapeAt octets i := by
  constructor
  · intro h
    induction h with
    | nil => exact fun i hi => (by cases hi)
    | plain hb _ ih =>
      intro i hi
      cases i with
      | zero => exact absurd (Option.some.inj hi) hb
      | succ i => exact ih i hi
    | escape hh hl _ ih =>
      intro i hi
      match i with
      | 0 => exact ⟨_, _, _, _, rfl, rfl, hh, hl⟩
      | 1 => exact absurd (Option.some.inj hi) (hexValue?_ne_percent hh)
      | 2 => exact absurd (Option.some.inj hi) (hexValue?_ne_percent hl)
      | i + 3 => exact ih i hi
  · intro h
    induction octets using malformedAt?.induct with
    | case1 => exact .nil
    | case2 high low rest _ ih =>
      obtain ⟨_, _, _, _, hhigh, hlow, hh, hl⟩ := h 0 rfl
      obtain rfl := Option.some.inj hhigh
      obtain rfl := Option.some.inj hlow
      exact .escape hh hl (ih fun i hi => h (i + 3) hi)
    | case3 high low rest hdigits => exact absurd (h 0 rfl) (not_isEscapeAt_of_digits hdigits)
    | case4 rest hshort => exact absurd (h 0 rfl) (not_isEscapeAt_of_short fun _ _ _ => hshort _ _ _ rfl)
    | case5 b rest _ hb ih => exact .plain hb (ih fun i hi => h (i + 1) hi)

/-- Whether the first percent sign that begins no escape is the one at an octet. -/
def IsMalformedAt (octets : List UInt8) (i : Nat) : Prop :=
  octets[i]? = some 0x25 ∧ ¬ IsEscapeAt octets i ∧ ∀ j < i, octets[j]? = some 0x25 → IsEscapeAt octets j

lemma isMalformedAt_zero_iff {octets : List UInt8} (h : octets[0]? = some 0x25) (hn : ¬ IsEscapeAt octets 0) (i : Nat) :
    IsMalformedAt octets i ↔ 0 = i := by
  constructor
  · rintro ⟨-, -, hbefore⟩
    by_contra hi
    exact hn (hbefore 0 (Nat.pos_of_ne_zero (Ne.symm hi)) h)
  · rintro rfl
    exact ⟨h, hn, fun j hj => absurd hj (Nat.not_lt_zero j)⟩

lemma isMalformedAt_cons_iff {b : UInt8} {rest : List UInt8} (hb : b = 0x25 → IsEscapeAt (b :: rest) 0) (i : Nat) :
    IsMalformedAt (b :: rest) i ↔ ∃ j, IsMalformedAt rest j ∧ j + 1 = i := by
  cases i with
  | zero =>
    refine iff_of_false ?_ fun ⟨_, _, he⟩ => (by cases he)
    rintro ⟨hi, hn, -⟩
    exact hn (hb (Option.some.inj hi))
  | succ i =>
    constructor
    · rintro ⟨hi, hn, hbefore⟩
      exact ⟨i, ⟨hi, hn, fun j hj hp => hbefore (j + 1) (Nat.succ_lt_succ hj) hp⟩, rfl⟩
    · rintro ⟨j, ⟨hi, hn, hbefore⟩, he⟩
      obtain rfl := Nat.succ.inj he
      refine ⟨hi, hn, fun k hk hp => ?_⟩
      cases k with
      | zero => exact hb (Option.some.inj hp)
      | succ k => exact hbefore k (Nat.lt_of_succ_lt_succ hk) hp

lemma malformedAt?_eq_some_iff (octets : List UInt8) (i : Nat) :
    malformedAt? octets = some i ↔ IsMalformedAt octets i := by
  induction octets using malformedAt?.induct generalizing i with
  | case1 => exact iff_of_false (fun h => (by cases h)) fun h => (by cases h.1)
  | case2 high low rest hdigits ih =>
    obtain ⟨hh, hl⟩ := (Bool.and_eq_true _ _).mp hdigits
    obtain ⟨h, hh⟩ := Option.isSome_iff_exists.mp hh
    obtain ⟨l, hl⟩ := Option.isSome_iff_exists.mp hl
    rw [malformedAt?, if_pos hdigits, Option.map_eq_some_iff,
      isMalformedAt_cons_iff fun _ => ⟨high, low, h, l, rfl, rfl, hh, hl⟩]
    simp only [isMalformedAt_cons_iff fun he => absurd he (hexValue?_ne_percent hh),
      isMalformedAt_cons_iff fun he => absurd he (hexValue?_ne_percent hl), ih]
    constructor
    · rintro ⟨j, hj, rfl⟩
      exact ⟨j + 2, ⟨j + 1, ⟨j, hj, rfl⟩, rfl⟩, rfl⟩
    · rintro ⟨_, ⟨_, ⟨j, hj, rfl⟩, rfl⟩, rfl⟩
      exact ⟨j, hj, rfl⟩
  | case3 high low rest hdigits =>
    rw [malformedAt?, if_neg hdigits, isMalformedAt_zero_iff rfl (not_isEscapeAt_of_digits hdigits), Option.some.injEq]
  | case4 rest hshort =>
    rw [isMalformedAt_zero_iff rfl (not_isEscapeAt_of_short fun _ _ _ => hshort _ _ _ rfl),
      malformedAt?, if_pos rfl, Option.some.injEq]
    exact hshort
  | case5 b rest _ hb ih =>
    rw [malformedAt?_cons_of_ne hb, Option.map_eq_some_iff, isMalformedAt_cons_iff fun he => absurd he hb]
    exact exists_congr fun j => and_congr_left fun _ => ih j

/-- Whether a segment spells a text: all its percent signs begin escapes, and with the octets of the escapes in
their place it is the text. -/
structure Spells (segment text : List Char) : Prop where
  escapes : ∀ i, (Utf8.encode segment)[i]? = some 0x25 → IsEscapeAt (Utf8.encode segment) i
  octets : unescape (Utf8.encode segment) = Utf8.encode text

lemma decode_eq_ok_iff (segment text : List Char) : decode segment = .ok text ↔ Spells segment text := by
  rw [decode]
  cases hm : malformedAt? (Utf8.encode segment) with
  | some offset =>
    refine iff_of_false (fun h => by cases h) fun h => ?_
    rw [(malformedAt?_eq_none_iff _).mpr ((wellEscaped_iff _).mpr h.escapes)] at hm
    cases hm
  | none =>
    have hwell := (wellEscaped_iff _).mp ((malformedAt?_eq_none_iff _).mp hm)
    have hread := Utf8.decode?_eq_some_iff (unescape (Utf8.encode segment)) text
    cases hd : Utf8.decode? (unescape (Utf8.encode segment)) with
    | none =>
      refine iff_of_false (fun h => by cases h) fun h => ?_
      rw [hread.mpr h.octets.symm] at hd
      cases hd
    | some read =>
      rw [hd, Option.some.injEq] at hread
      exact ⟨fun h => ⟨hwell, (hread.mp (Except.ok.inj h)).symm⟩, fun h => congrArg _ (hread.mpr h.octets.symm)⟩

lemma decode_eq_malformed_iff (segment : List Char) (i : Nat) :
    decode segment = .error (.malformed i) ↔ IsMalformedAt (Utf8.encode segment) i := by
  rw [decode, ← malformedAt?_eq_some_iff]
  cases malformedAt? (Utf8.encode segment) with
  | some offset => simp
  | none => cases Utf8.decode? (unescape (Utf8.encode segment)) <;> simp

lemma decode_eq_notUtf8_iff (segment : List Char) : decode segment = .error .notUtf8 ↔
    (∀ i, (Utf8.encode segment)[i]? = some 0x25 → IsEscapeAt (Utf8.encode segment) i) ∧
      ¬ ∃ text, unescape (Utf8.encode segment) = Utf8.encode text := by
  have hread : (∃ text, unescape (Utf8.encode segment) = Utf8.encode text) ↔
      ∃ text, Utf8.decode? (unescape (Utf8.encode segment)) = some text :=
    exists_congr fun text => eq_comm.trans (Utf8.decode?_eq_some_iff _ text).symm
  rw [decode, ← wellEscaped_iff, ← malformedAt?_eq_none_iff, hread]
  cases malformedAt? (Utf8.encode segment) with
  | some offset => simp
  | none => cases Utf8.decode? (unescape (Utf8.encode segment)) <;> simp

lemma exists_spells_iff (segment : List Char) :
    (∃ text, Spells segment text) ↔
      (∀ i, (Utf8.encode segment)[i]? = some 0x25 → IsEscapeAt (Utf8.encode segment) i) ∧
        ∃ text, unescape (Utf8.encode segment) = Utf8.encode text :=
  ⟨fun ⟨text, h⟩ => ⟨h.escapes, text, h.octets⟩, fun ⟨h, text, ht⟩ => ⟨text, h, ht⟩⟩

lemma unescape_eq_nil {octets : List UInt8} (h : unescape octets = []) : octets = [] := by
  cases octets with
  | nil => rfl
  | cons b rest =>
    unfold unescape at h
    split at h
    · next heq => cases heq
    · split at h <;> cases h
    · cases h

/-- An octet that a percent sign is read as, other than itself, is the one of the escape that the sign begins. -/
lemma exists_escape_of_unescape {b : UInt8} {rest others : List UInt8} (hb : b ≠ 0x25)
    (h : unescape (0x25 :: rest) = b :: others) : ∃ high low tail h l, rest = high :: low :: tail ∧
      hexValue? high = some h ∧ hexValue? low = some l ∧ 16 * h + l = b ∧ unescape tail = others := by
  match rest with
  | [] => exact absurd (List.cons.inj h).1.symm hb
  | [_] => exact absurd (List.cons.inj h).1.symm hb
  | high :: low :: tail =>
    rw [unescape] at h
    cases hh : hexValue? high with
    | none =>
      rw [hh] at h
      exact absurd (List.cons.inj h).1.symm hb
    | some high' =>
      cases hl : hexValue? low with
      | none =>
        rw [hh, hl] at h
        exact absurd (List.cons.inj h).1.symm hb
      | some low' =>
        rw [hh, hl] at h
        obtain ⟨hoctet, hothers⟩ := List.cons.inj h
        exact ⟨high, low, tail, high', low', rfl, hh, hl, hoctet, hothers⟩

namespace Spells

variable {segment text text' : List Char}

lemma unique (h : Spells segment text) (h' : Spells segment text') : text = text' :=
  Utf8.encode_injective (h.octets.symm.trans h'.octets)

lemma of_encode (text : List Char) : Spells (encode text) text :=
  (decode_eq_ok_iff _ _).mp (decode_encode text)

lemma eq_nil (h : Spells segment []) : segment = [] :=
  Utf8.encode_injective (unescape_eq_nil h.octets)

end Spells

end PathRouter.Percent
