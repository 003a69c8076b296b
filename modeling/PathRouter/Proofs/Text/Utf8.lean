import Mathlib.Data.List.Basic
import PathRouter.Text.Utf8

/-! Encoding a text and reading its octets gives the text back, strictly and leniently, and strict reading takes
nothing but encodings. A character of ASCII is one octet. -/

namespace PathRouter.Utf8

lemma encode_cons (c : Char) (text : List Char) :
    encode (c :: text) = String.utf8EncodeChar c ++ encode text :=
  List.flatMap_cons

@[simp] lemma head?_encodeChar_append (c : Char) (rest : List UInt8) :
    head? (String.utf8EncodeChar c ++ rest) = some c := by
  have hlen : (String.utf8EncodeChar c).length ≤ 4 := by
    rw [String.length_utf8EncodeChar]
    exact c.utf8Size_le_four
  rw [head?, List.take_append, List.take_of_length_le hlen, List.toByteArray_append]
  exact ByteArray.utf8DecodeChar?_utf8EncodeChar_append

@[simp] lemma drop_encodeChar_append (c : Char) (rest : List UInt8) :
    (String.utf8EncodeChar c ++ rest).drop c.utf8Size = rest := by
  rw [← String.length_utf8EncodeChar c, List.drop_left]

lemma exists_encode_cons (c : Char) (rest : List Char) :
    ∃ b octets, encode (c :: rest) = b :: octets ∧ head? (b :: octets) = some c ∧
      (b :: octets).drop c.utf8Size = encode rest := by
  cases h : String.utf8EncodeChar c with
  | nil => exact absurd h String.utf8EncodeChar_ne_nil
  | cons b octets =>
    have hc : encode (c :: rest) = b :: (octets ++ encode rest) := by rw [encode_cons, h, List.cons_append]
    refine ⟨b, octets ++ encode rest, hc, ?_, ?_⟩
    · rw [← hc, encode_cons, head?_encodeChar_append]
    · rw [← hc, encode_cons, drop_encodeChar_append]

@[simp] lemma decode?_encode (text : List Char) : decode? (encode text) = some text := by
  induction text with
  | nil => simp [encode, decode?]
  | cons c rest ih =>
    obtain ⟨b, octets, hc, hh, hd⟩ := exists_encode_cons c rest
    rw [hc, decode?, hh]
    simp only [hd, ih, Option.map_some]

lemma exists_of_head?_eq_some {octets : List UInt8} {c : Char} (h : head? octets = some c) :
    ∃ rest, octets = String.utf8EncodeChar c ++ rest := by
  obtain ⟨tail, ht⟩ := ByteArray.exists_of_utf8DecodeChar?_eq_some h
  have hlist := congrArg (·.data.toList) ht
  simp only [List.data_toByteArray, ByteArray.data_append, Array.toList_append] at hlist
  refine ⟨tail.data.toList ++ octets.drop 4, ?_⟩
  rw [← List.append_assoc, ← hlist, List.take_append_drop]

lemma encode_of_decode? {octets : List UInt8} {text : List Char} (h : decode? octets = some text) :
    encode text = octets := by
  induction octets using decode?.induct generalizing text with
  | case1 =>
    rw [decode?] at h
    obtain rfl := Option.some.inj h
    rfl
  | case2 b rest hc =>
    rw [decode?, hc] at h
    cases h
  | case3 b rest c hc ih =>
    rw [decode?, hc] at h
    obtain ⟨others, ho, rfl⟩ := Option.map_eq_some_iff.mp h
    obtain ⟨tail, ht⟩ := exists_of_head?_eq_some hc
    rw [ht, drop_encodeChar_append] at ih ho
    rw [encode_cons, ih ho, ht]

lemma decode?_eq_some_iff (octets : List UInt8) (text : List Char) :
    decode? octets = some text ↔ encode text = octets :=
  ⟨encode_of_decode?, fun h => h ▸ decode?_encode text⟩

@[simp] lemma decodeLossy_encode (text : List Char) : decodeLossy (encode text) = text := by
  induction text with
  | nil => simp [encode, decodeLossy]
  | cons c rest ih =>
    obtain ⟨b, octets, hc, hh, hd⟩ := exists_encode_cons c rest
    rw [hc, decodeLossy, hh]
    simp only [hd, ih]

lemma encode_injective : Function.Injective encode := fun text text' h => by
  have hh := congrArg decode? h
  rw [decode?_encode, decode?_encode] at hh
  exact Option.some.inj hh

lemma encodeChar_of_ascii {c : Char} (h : c.toNat < 0x80) : String.utf8EncodeChar c = [c.toUInt8] := by
  have hv : c.val.toNat ≤ 127 := Nat.le_of_lt_succ h
  simp only [String.utf8EncodeChar, hv, if_true]
  rfl

lemma encode_of_ascii {text : List Char} (h : ∀ c ∈ text, c.toNat < 0x80) :
    encode text = text.map Char.toUInt8 := by
  induction text with
  | nil => rfl
  | cons c rest ih =>
    rw [encode_cons, encodeChar_of_ascii (h c List.mem_cons_self),
      ih fun d hd => h d (List.mem_cons_of_mem _ hd)]
    rfl

lemma toNat_toUInt8 {c : Char} (h : c.toNat < 0x80) : c.toUInt8.toNat = c.toNat := by
  show c.val.toUInt8.toNat = c.val.toNat
  rw [UInt32.toNat_toUInt8]
  exact Nat.mod_eq_of_lt (Nat.lt_trans h (by decide))

lemma toUInt8_inj {c d : Char} (hc : c.toNat < 0x80) (hd : d.toNat < 0x80) :
    c.toUInt8 = d.toUInt8 ↔ c = d := by
  constructor
  · intro h
    have hn := congrArg UInt8.toNat h
    rw [toNat_toUInt8 hc, toNat_toUInt8 hd] at hn
    exact Char.toNat_inj.mp hn
  · exact congrArg _

lemma le_of_mem_encodeChar {c : Char} (h : ¬ c.toNat < 0x80) {b : UInt8} (hb : b ∈ String.utf8EncodeChar c) :
    0x80 ≤ b.toNat := by
  have hv : ¬ c.val.toNat ≤ 127 := fun hle => h (Nat.lt_succ_of_le hle)
  simp only [String.utf8EncodeChar, hv, if_false] at hb
  split at hb
  · rcases List.mem_pair.mp hb with rfl | rfl <;> rw [UInt8.toNat_ofNat'] <;> omega
  · split at hb
    · simp only [List.mem_cons, List.not_mem_nil, or_false] at hb
      rcases hb with rfl | rfl | rfl <;> rw [UInt8.toNat_ofNat'] <;> omega
    · simp only [List.mem_cons, List.not_mem_nil, or_false] at hb
      rcases hb with rfl | rfl | rfl | rfl <;> rw [UInt8.toNat_ofNat'] <;> omega

lemma exists_octet_of_not_ascii {c : Char} (h : ¬ c.toNat < 0x80) :
    ∃ b ∈ String.utf8EncodeChar c, 0x80 ≤ b.toNat := by
  obtain ⟨b, hb⟩ := List.exists_mem_of_ne_nil _ (String.utf8EncodeChar_ne_nil (c := c))
  exact ⟨b, hb, le_of_mem_encodeChar h hb⟩

lemma ascii_of_octets {text : List Char} (h : ∀ b ∈ encode text, b.toNat < 0x80) :
    ∀ c ∈ text, c.toNat < 0x80 := by
  intro c hc
  by_contra hn
  obtain ⟨b, hb, hle⟩ := exists_octet_of_not_ascii hn
  exact absurd (h b (List.mem_flatMap.mpr ⟨c, hc, hb⟩)) (Nat.not_lt.mpr hle)

@[simp] lemma size_nil : size [] = 0 :=
  rfl

@[simp] lemma size_cons (c : Char) (text : List Char) : size (c :: text) = c.utf8Size + size text :=
  rfl

@[simp] lemma size_append (text text' : List Char) : size (text ++ text') = size text + size text' := by
  induction text with
  | nil => exact (Nat.zero_add _).symm
  | cons c rest ih => rw [List.cons_append, size, size, ih, Nat.add_assoc]

-- No octet of a longer encoding is one of ASCII, so the octet can only be the character itself.
lemma exists_of_getElem?_encode {c : Char} (hc : c.toNat < 0x80) {text : List Char} {i : Nat}
    (h : (encode text)[i]? = some c.toUInt8) : ∃ front rest, text = front ++ c :: rest ∧ i = size front := by
  induction text generalizing i with
  | nil => cases h
  | cons d text ih =>
    rw [encode_cons] at h
    by_cases hi : i < (String.utf8EncodeChar d).length
    · rw [List.getElem?_append_left hi] at h
      have hd : d.toNat < 0x80 := by
        by_contra hd
        have hle := le_of_mem_encodeChar hd (List.mem_of_getElem? h)
        rw [toNat_toUInt8 hc] at hle
        omega
      rw [encodeChar_of_ascii hd] at h hi
      obtain rfl : i = 0 := Nat.lt_one_iff.mp hi
      obtain rfl := (toUInt8_inj hd hc).mp (Option.some.inj h)
      exact ⟨[], text, rfl, rfl⟩
    · rw [List.getElem?_append_right (Nat.not_lt.mp hi)] at h
      obtain ⟨front, rest, rfl, he⟩ := ih h
      rw [String.length_utf8EncodeChar] at hi he
      refine ⟨d :: front, rest, rfl, ?_⟩
      rw [size, ← he]
      omega

end PathRouter.Utf8
