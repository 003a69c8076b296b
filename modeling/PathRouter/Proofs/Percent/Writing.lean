import PathRouter.Proofs.Percent.Decoding

/-! The spellings of a text that leave nothing raw but safe octets: each octet is escaped, in any case of the digits,
or safe and written as it is. They decode to the text. -/

namespace PathRouter.Percent

/-- Whether a segment writes octets one by one, each as an escape or raw if it is safe. -/
inductive Writes : List Char → List UInt8 → Prop
  | nil : Writes [] []
  | raw {b : UInt8} {segment : List Char} {octets : List UInt8} (hb : isSafe b = true) (h : Writes segment octets) :
      Writes (Char.ofUInt8 b :: segment) (b :: octets)
  | escape {high low value value' : UInt8} {segment : List Char} {octets : List UInt8}
      (hh : hexValue? high = some value) (hl : hexValue? low = some value') (h : Writes segment octets) :
      Writes ('%' :: Char.ofUInt8 high :: Char.ofUInt8 low :: segment) ((16 * value + value') :: octets)

def isSpelling (c : Char) : Bool :=
  c = '%' || (c.toNat < 0x80 && isSafe c.toUInt8)

lemma isSpelling_ofUInt8 : ∀ b, isSafe b = true ∨ (hexValue? b).isSome = true →
    isSpelling (Char.ofUInt8 b) = true ∧ (Char.ofUInt8 b).toUInt8 = b ∧ Char.ofUInt8 b ≠ '%' :=
  forall_octet (by decide +kernel)

lemma isSpelling_digit {b value : UInt8} (h : hexValue? b = some value) :
    isSpelling (Char.ofUInt8 b) = true ∧ (Char.ofUInt8 b).toUInt8 = b ∧ Char.ofUInt8 b ≠ '%' :=
  isSpelling_ofUInt8 b (.inr (by rw [h]; rfl))

lemma isSpelling_ascii {c : Char} (h : isSpelling c = true) : c.toNat < 0x80 := by
  rw [isSpelling, Bool.or_eq_true, Bool.and_eq_true, decide_eq_true_eq, decide_eq_true_eq] at h
  rcases h with rfl | h
  · decide
  · exact h.1

namespace Writes

variable {segment text : List Char} {octets : List UInt8}

lemma isSpelling (h : Writes segment octets) : ∀ c ∈ segment, Percent.isSpelling c = true := by
  induction h with
  | nil => exact fun _ hc => (by cases hc)
  | raw hb _ ih => exact List.forall_mem_cons.mpr ⟨(isSpelling_ofUInt8 _ (.inl hb)).1, ih⟩
  | escape hh hl _ ih =>
    simp only [List.forall_mem_cons]
    exact ⟨by decide, (isSpelling_digit hh).1, (isSpelling_digit hl).1, ih⟩

lemma wellEscaped (h : Writes segment octets) :
    WellEscaped (segment.map Char.toUInt8) ∧ unescape (segment.map Char.toUInt8) = octets := by
  induction h with
  | nil => exact ⟨.nil, rfl⟩
  | @raw b _ _ hb _ ih =>
    obtain ⟨hwell, hsame⟩ := ih
    have hne := (spelled_of_safe b hb).2
    rw [List.map_cons, (isSpelling_ofUInt8 b (.inl hb)).2.1, unescape_cons_of_ne hne, hsame]
    exact ⟨.plain hne hwell, rfl⟩
  | escape hh hl _ ih =>
    obtain ⟨hwell, hsame⟩ := ih
    have hpercent : Char.toUInt8 '%' = 0x25 := rfl
    rw [List.map_cons, List.map_cons, List.map_cons, (isSpelling_digit hh).2.1, (isSpelling_digit hl).2.1, hpercent,
      unescape_escape hh hl, hsame]
    exact ⟨.escape hh hl hwell, rfl⟩

lemma spells (h : Writes segment (Utf8.encode text)) : Spells segment text := by
  obtain ⟨hwell, hsame⟩ := h.wellEscaped
  rw [← Utf8.encode_of_ascii fun c hc => isSpelling_ascii (h.isSpelling c hc)] at hwell hsame
  exact ⟨(wellEscaped_iff _).mp hwell, hsame⟩

end Writes

end PathRouter.Percent
