import Mathlib.Data.List.Forall2
import PathRouter.Percent
import PathRouter.Proofs.Outcome
import PathRouter.Proofs.Text.Pieces
import PathRouter.Proofs.Text.Utf8

/-! The canonical spelling of a text decodes to that text, strictly and leniently, and consists of visible
characters other than the slash. A normalized path is a canonical spelling in each of its segments. -/

namespace PathRouter

namespace Percent

lemma forall_octet {p : UInt8 → Prop} (h : ∀ n < 256, p (UInt8.ofNat n)) (b : UInt8) : p b := by
  have hb := h b.toNat b.toNat_lt
  rwa [UInt8.ofNat_toNat] at hb

def isVisible (c : Char) : Bool :=
  '\x21' ≤ c && c ≤ '\x7e'

lemma isVisible_ascii {c : Char} (h : isVisible c = true) : c.toNat < 0x80 := by
  simp only [isVisible, Bool.and_eq_true, decide_eq_true_eq] at h
  have hc : c.toNat ≤ '\x7e'.toNat := h.2
  exact Nat.lt_of_le_of_lt hc (by decide)

lemma encodeOctet_visible (b : UInt8) : ∀ c ∈ encodeOctet b, isVisible c = true ∧ c ≠ '/' := by
  have hall : ∀ b, (encodeOctet b).all (fun c => isVisible c && c ≠ '/') = true := forall_octet (by decide +kernel)
  simpa only [List.all_eq_true, Bool.and_eq_true, decide_eq_true_eq] using hall b

@[simp] lemma encodeOctet_ne_nil (b : UInt8) : encodeOctet b ≠ [] := by
  simp only [encodeOctet]
  split <;> exact List.cons_ne_nil _ _

lemma encode_visible {data : List Char} {c : Char} (h : c ∈ encode data) : isVisible c = true ∧ c ≠ '/' := by
  obtain ⟨b, _, hb⟩ := List.mem_flatMap.mp h
  exact encodeOctet_visible b c hb

lemma slash_not_mem_encode (data : List Char) : '/' ∉ encode data :=
  fun h => (encode_visible h).2 rfl

lemma brace_not_mem_encode (data : List Char) : '{' ∉ encode data := by
  have hall : ∀ b, '{' ∉ encodeOctet b := forall_octet (by decide +kernel)
  intro h
  obtain ⟨b, -, hb⟩ := List.mem_flatMap.mp h
  exact hall b hb

@[simp] lemma encode_eq_nil_iff (data : List Char) : encode data = [] ↔ data = [] := by
  constructor
  · intro h
    cases data with
    | nil => rfl
    | cons c rest =>
      obtain ⟨b, octets, hc, -⟩ := Utf8.exists_encode_cons c rest
      rw [encode, hc, List.flatMap_cons] at h
      exact absurd (List.append_eq_nil_iff.mp h).1 (encodeOctet_ne_nil b)
  · rintro rfl
    rfl

def spelled (b : UInt8) : List UInt8 :=
  (encodeOctet b).map Char.toUInt8

lemma utf8_encode (data : List Char) : Utf8.encode (encode data) = (Utf8.encode data).flatMap spelled := by
  rw [Utf8.encode_of_ascii (fun c hc => isVisible_ascii (encode_visible hc).1), encode, List.map_flatMap]
  rfl

lemma spelled_of_safe : ∀ b, isSafe b = true → spelled b = [b] ∧ b ≠ 0x25 :=
  forall_octet (by decide +kernel)

lemma spelled_of_not_safe : ∀ b, isSafe b = false →
    spelled b = [0x25, (hexDigit (b / 16)).toUInt8, (hexDigit (b % 16)).toUInt8] :=
  forall_octet (by decide +kernel)

lemma hexValue?_hexDigit : ∀ b : UInt8, hexValue? (hexDigit (b / 16)).toUInt8 = some (b / 16) ∧
    hexValue? (hexDigit (b % 16)).toUInt8 = some (b % 16) ∧ 16 * (b / 16) + b % 16 = b :=
  forall_octet (by decide +kernel)

lemma unescape_cons_of_ne {b : UInt8} (h : b ≠ 0x25) (rest : List UInt8) :
    unescape (b :: rest) = b :: unescape rest := by
  rw [unescape]
  rintro high low tail rfl
  exact absurd rfl h

lemma malformedAt?_cons_of_ne {b : UInt8} (h : b ≠ 0x25) (rest : List UInt8) :
    malformedAt? (b :: rest) = (malformedAt? rest).map (· + 1) := by
  rw [malformedAt?, if_neg h]
  rintro high low tail rfl
  exact absurd rfl h

@[simp] lemma unescape_spelled (octets : List UInt8) : unescape (octets.flatMap spelled) = octets := by
  induction octets with
  | nil => simp [unescape]
  | cons b rest ih =>
    rw [List.flatMap_cons]
    cases hs : isSafe b with
    | true =>
      obtain ⟨hb, hne⟩ := spelled_of_safe b hs
      rw [hb, List.singleton_append, unescape_cons_of_ne hne, ih]
    | false =>
      obtain ⟨hh, hl, hv⟩ := hexValue?_hexDigit b
      rw [spelled_of_not_safe b hs, List.cons_append, List.cons_append, List.singleton_append, unescape, hh, hl]
      simp only [hv, ih]

@[simp] lemma malformedAt?_spelled (octets : List UInt8) : malformedAt? (octets.flatMap spelled) = none := by
  induction octets with
  | nil => simp [malformedAt?]
  | cons b rest ih =>
    rw [List.flatMap_cons]
    cases hs : isSafe b with
    | true =>
      obtain ⟨hb, hne⟩ := spelled_of_safe b hs
      rw [hb, List.singleton_append, malformedAt?_cons_of_ne hne, ih]
      rfl
    | false =>
      obtain ⟨hh, hl, -⟩ := hexValue?_hexDigit b
      rw [spelled_of_not_safe b hs, List.cons_append, List.cons_append, List.singleton_append, malformedAt?, hh, hl, ih]
      rfl

@[simp] lemma decode_encode (data : List Char) : decode (encode data) = .ok data := by
  simp [decode, utf8_encode]

@[simp] lemma decodeLenient_encode (data : List Char) : decodeLenient (encode data) = data := by
  simp [decodeLenient, utf8_encode]

lemma encode_injective : Function.Injective encode := fun data data' h => by
  have hh := congrArg decodeLenient h
  rwa [decodeLenient_encode, decodeLenient_encode] at hh

lemma ofUInt8_toUInt8 {c : Char} (h : c.toNat < 0x80) : Char.ofUInt8 c.toUInt8 = c := by
  rw [← Char.toNat_inj]
  exact Utf8.toNat_toUInt8 h

lemma isSafe_ascii : ∀ b, isSafe b = true → b.toNat < 0x80 :=
  forall_octet (by decide +kernel)

lemma encode_of_safe {data : List Char} (h : ∀ c ∈ data, c.toNat < 0x80 ∧ isSafe c.toUInt8 = true) :
    encode data = data := by
  rw [encode, Utf8.encode_of_ascii fun c hc => (h c hc).1, List.flatMap_map]
  induction data with
  | nil => rfl
  | cons c rest ih =>
    obtain ⟨hc, hs⟩ := h c List.mem_cons_self
    rw [List.flatMap_cons, ih fun d hd => h d (List.mem_cons_of_mem _ hd), encodeOctet, if_pos hs,
      ofUInt8_toUInt8 hc, List.singleton_append]

lemma safe_of_isCanonicalAsIs {path : List Char} (h : isCanonicalAsIs path = true) :
    ∀ c ∈ path, c ≠ '/' → c.toNat < 0x80 ∧ isSafe c.toUInt8 = true := by
  simp only [isCanonicalAsIs, List.all_eq_true, Bool.or_eq_true, decide_eq_true_eq] at h
  have hascii : ∀ c ∈ path, c.toNat < 0x80 := by
    refine Utf8.ascii_of_octets fun b hb => ?_
    rcases h b hb with rfl | hs
    · decide
    · exact isSafe_ascii b hs
  intro c hc hne
  have hlt := hascii c hc
  have hm : c.toUInt8 ∈ Utf8.encode path := by
    rw [Utf8.encode_of_ascii hascii]
    exact List.mem_map_of_mem hc
  rcases h _ hm with he | hs
  · have hslash : c.toUInt8 = '/'.toUInt8 := he
    exact absurd ((Utf8.toUInt8_inj hlt (by decide)).mp hslash) hne
  · exact ⟨hlt, hs⟩

/-- The path whose segments spell some texts, each canonically. -/
def pathOf (texts : List (List Char)) : List Char :=
  Pieces.join '/' (texts.map encode)

lemma cut_pathOf {texts : List (List Char)} (h : texts ≠ []) :
    Pieces.cut '/' (pathOf texts) = texts.map encode := by
  refine Pieces.cut_join (fun hn => h (List.map_eq_nil_iff.mp hn)) fun piece hp => ?_
  obtain ⟨data, _, rfl⟩ := List.mem_map.mp hp
  exact slash_not_mem_encode data

lemma pathOf_ne_nil {texts : List (List Char)} (h : texts ≠ []) (hne : ∀ text ∈ texts, text ≠ []) :
    pathOf texts ≠ [] := by
  intro hp
  have hcut := cut_pathOf h
  rw [hp] at hcut
  have hmem : [] ∈ texts.map encode := hcut ▸ List.mem_singleton.mpr rfl
  obtain ⟨text, ht, he⟩ := List.mem_map.mp hmem
  exact hne text ht ((encode_eq_nil_iff text).mp he)

lemma head?_pathOf {texts : List (List Char)} (hne : ∀ text ∈ texts, text ≠ []) : (pathOf texts).head? ≠ some '/' := by
  refine Pieces.head?_join (List.forall_mem_map.mpr fun text _ => slash_not_mem_encode text) ?_
  exact List.forall_mem_map.mpr fun text ht he => hne text ht ((encode_eq_nil_iff text).mp he)

lemma mem_pathOf {texts : List (List Char)} {c : Char} (h : c ∈ pathOf texts) :
    c = '/' ∨ ∃ text ∈ texts, c ∈ encode text := by
  refine (Pieces.mem_join h).imp_right ?_
  rintro ⟨piece, hp, hc⟩
  obtain ⟨text, ht, rfl⟩ := List.mem_map.mp hp
  exact ⟨text, ht, hc⟩

lemma pathOf_visible {texts : List (List Char)} {c : Char} (h : c ∈ pathOf texts) : isVisible c = true := by
  rcases mem_pathOf h with rfl | ⟨text, -, hc⟩
  · decide
  · exact (encode_visible hc).1

lemma mapM_canonical_iff (segments spellings : List (List Char)) :
    segments.mapM (fun segment => (canonical segment).toOption) = some spellings ↔
      ∃ texts, List.Forall₂ (fun segment text => decode segment = .ok text) segments texts ∧
        spellings = texts.map encode := by
  induction segments generalizing spellings with
  | nil => simp [eq_comm]
  | cons segment rest ih =>
    rw [List.mapM_cons]
    cases hd : decode segment with
    | error e =>
      have hc : (canonical segment).toOption = none := by simp [canonical, hd, Except.map, Except.toOption]
      rw [hc]
      constructor
      · intro h
        cases h
      · rintro ⟨texts, hf, -⟩
        cases hf with
        | cons ht _ =>
          rw [hd] at ht
          cases ht
    | ok text =>
      have hc : (canonical segment).toOption = some (encode text) := by
        simp [canonical, hd, Except.map, Except.toOption]
      rw [hc, Option.bind_eq_bind, Option.bind_some, Option.bind_eq_bind, Option.bind_eq_some_iff]
      constructor
      · rintro ⟨others, ho, hs⟩
        obtain ⟨texts, hf, rfl⟩ := (ih others).mp ho
        exact ⟨text :: texts, .cons hd hf, (Option.some.inj hs).symm⟩
      · rintro ⟨texts, hf, rfl⟩
        cases hf with
        | cons ht hf =>
          obtain rfl := Except.ok.inj (hd.symm.trans ht)
          exact ⟨_, (ih _).mpr ⟨_, hf, rfl⟩, rfl⟩

lemma forall₂_decode_encode (texts : List (List Char)) :
    List.Forall₂ (fun segment text => decode segment = .ok text) (texts.map encode) texts := by
  rw [List.forall₂_map_left_iff, List.forall₂_same]
  exact fun text _ => decode_encode text

lemma normalizePath_pathOf {texts : List (List Char)} (h : texts ≠ []) :
    normalizePath (pathOf texts) = some (pathOf texts) := by
  rw [normalizePath]
  split
  · rfl
  · rw [cut_pathOf h, (mapM_canonical_iff _ _).mpr ⟨texts, forall₂_decode_encode texts, rfl⟩]
    rfl

lemma cut_map_encode_of_isCanonicalAsIs {path : List Char} (h : isCanonicalAsIs path = true) :
    (Pieces.cut '/' path).map encode = Pieces.cut '/' path := by
  refine (List.map_congr_left fun piece hp => ?_).trans (List.map_id _)
  refine encode_of_safe fun c hc => ?_
  obtain ⟨hm, hne⟩ := Pieces.mem_of_mem_cut hp hc
  exact safe_of_isCanonicalAsIs h c hm hne

lemma normalizePath_eq_map (path : List Char) : normalizePath path =
    ((Pieces.cut '/' path).mapM fun segment => (canonical segment).toOption).map (Pieces.join '/') := by
  rw [normalizePath]
  split_ifs with has
  · have hmap := cut_map_encode_of_isCanonicalAsIs has
    have hf := forall₂_decode_encode (Pieces.cut '/' path)
    rw [hmap] at hf
    rw [(mapM_canonical_iff _ _).mpr ⟨_, hf, rfl⟩, Option.map_some, hmap, Pieces.join_cut]
  · rfl

lemma normalizePath_eq_some {path normal : List Char} (h : normalizePath path = some normal) :
    ∃ texts, texts ≠ [] ∧
      List.Forall₂ (fun segment text => decode segment = .ok text) (Pieces.cut '/' path) texts ∧
      normal = pathOf texts := by
  rw [normalizePath_eq_map] at h
  obtain ⟨spellings, hs, rfl⟩ := Option.map_eq_some_iff.mp h
  obtain ⟨texts, hf, rfl⟩ := (mapM_canonical_iff _ _).mp hs
  refine ⟨texts, ?_, hf, rfl⟩
  rintro rfl
  exact Pieces.cut_ne_nil '/' path (List.forall₂_nil_right_iff.mp hf)

lemma pathOf_nil_cons {texts : List (List Char)} (h : texts ≠ []) :
    pathOf ([] :: texts) = '/' :: pathOf texts := by
  cases texts with
  | nil => exact absurd rfl h
  | cons text rest =>
    rw [pathOf, List.map_cons, List.map_cons, Pieces.join_cons_cons]
    rfl

lemma normalizePath_absolute {path normal : List Char} (hs : path.head? = some '/')
    (h : normalizePath path = some normal) :
    ∃ body texts, path = '/' :: body ∧ texts ≠ [] ∧
      List.Forall₂ (fun segment text => decode segment = .ok text) (Pieces.cut '/' body) texts ∧
      normal = '/' :: pathOf texts := by
  obtain ⟨body, rfl⟩ := List.head?_eq_some_iff.mp hs
  obtain ⟨texts, -, hf, rfl⟩ := normalizePath_eq_some h
  rw [Pieces.cut_cons_separator] at hf
  cases hf with
  | @cons _ first _ texts hd hf =>
    obtain rfl : [] = first := Except.ok.inj ((decode_encode []).symm.trans hd)
    have hne : texts ≠ [] := by
      rintro rfl
      exact Pieces.cut_ne_nil '/' body (List.forall₂_nil_right_iff.mp hf)
    exact ⟨body, texts, rfl, hne, hf, pathOf_nil_cons hne⟩

def IsCanonicalPath (path : List Char) : Prop :=
  path.head? = some '/' ∧ normalizePath path = some path

lemma isCanonicalPath_iff (path : List Char) :
    IsCanonicalPath path ↔ ∃ texts, texts ≠ [] ∧ path = '/' :: pathOf texts := by
  constructor
  · rintro ⟨hs, hn⟩
    obtain ⟨body, texts, -, hne, -, hp⟩ := normalizePath_absolute hs hn
    exact ⟨texts, hne, hp⟩
  · rintro ⟨texts, hne, rfl⟩
    refine ⟨rfl, ?_⟩
    rw [← pathOf_nil_cons hne]
    exact normalizePath_pathOf (List.cons_ne_nil _ _)

lemma IsCanonicalPath.visible {path : List Char} (h : IsCanonicalPath path) :
    ∀ c ∈ path, isVisible c = true := by
  obtain ⟨texts, -, rfl⟩ := (isCanonicalPath_iff path).mp h
  intro c hc
  rcases List.mem_cons.mp hc with rfl | hc
  · decide
  · exact pathOf_visible hc

end Percent

end PathRouter
