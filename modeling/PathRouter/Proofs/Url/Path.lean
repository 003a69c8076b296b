import PathRouter.Proofs.Url.Escape

/-! The path of an address whose segments are no dot segments: it is read segment by segment, and each one is
escaped. Neither the query nor the fragment bears on it. -/

namespace PathRouter.Url

open Percent

/-- Whether a text is empty or begins a query or a fragment. -/
def IsTail (text : List Char) : Prop :=
  ∀ c, text.head? = some c → endsPath c = true

def isPathChar (c : Char) : Bool :=
  isVisible c && !endsPath c && c ≠ '\\'

lemma isPathChar_iff (c : Char) : isPathChar c = true ↔ isVisible c = true ∧ endsPath c = false ∧ c ≠ '\\' := by
  rw [isPathChar, Bool.and_eq_true, Bool.and_eq_true, Bool.not_eq_true', decide_eq_true_eq, and_assoc]

lemma not_isBreak_of_isVisible {c : Char} (h : isVisible c = true) : isBreak c = false := by
  rw [isBreak, Bool.or_eq_false_iff, Bool.or_eq_false_iff, decide_eq_false_iff_not, decide_eq_false_iff_not,
    decide_eq_false_iff_not]
  refine ⟨⟨?_, ?_⟩, ?_⟩ <;> rintro rfl <;> revert h <;> decide

lemma clean_of_visible {text : List Char} (h : ∀ c ∈ text, isVisible c = true) : clean text = text :=
  List.filter_eq_self.mpr fun c hc => by rw [not_isBreak_of_isVisible (h c hc)]; rfl

lemma takeWhile_append_of_stop {p : Char → Bool} {text rest : List Char} (h : ∀ c ∈ text, p c = true)
    (hr : ∀ c, rest.head? = some c → p c = false) : (text ++ rest).takeWhile p = text := by
  rw [List.takeWhile_append_of_pos h]
  cases rest with
  | nil => rw [List.takeWhile_nil, List.append_nil]
  | cons c rest => rw [List.takeWhile_cons_of_neg (by rw [hr c rfl]; exact Bool.false_ne_true), List.append_nil]

namespace Path

lemma written_append {body tail : List Char} (hb : ∀ c ∈ body, isPathChar c = true) (ht : IsTail tail) :
    written (body ++ tail) = body := by
  refine takeWhile_append_of_stop (fun c hc => ?_) fun c hc => ?_
  · rw [((isPathChar_iff c).mp (hb c hc)).2.1]
    rfl
  · rw [ht c hc]
    rfl

lemma resolve_of_not_dots {kind : Kind} (hk : kind ≠ .file) {segments : List (List Char)}
    (h : ∀ segment ∈ segments, clean segment = segment ∧ isDot (escape segment) = false ∧
      isDoubleDot (escape segment) = false) (place : List (List Char)) :
    resolve kind place segments = (segments.map escape).reverse ++ place := by
  induction segments generalizing place with
  | nil => rfl
  | cons segment rest ih =>
    obtain ⟨⟨hclean, hdot, hdouble⟩, hrest⟩ := List.forall_mem_cons.mp h
    have hdescend : descend kind place (escape segment) = escape segment :: place := by
      simp [descend, hdot, hdouble, hk]
    rw [resolve]
    simp only [hk, decide_false, Bool.false_and, Bool.false_eq_true, if_false, hclean, hdot, hdouble, Bool.or_self,
      Bool.and_false, hdescend, ih hrest, List.map_cons, List.reverse_cons, List.append_assoc, List.singleton_append]

lemma mem_of_mem_descend {kind : Kind} (hk : kind ≠ .file) {place : List (List Char)} {segment other : List Char}
    (h : other ∈ descend kind place segment) :
    other ∈ place ∨ other = segment ∧ isDot segment = false ∧ isDoubleDot segment = false := by
  rw [descend] at h
  by_cases hdouble : isDoubleDot segment = true
  · left
    rw [if_pos hdouble] at h
    cases place with
    | nil => cases h
    | cons last above =>
      rw [parent] at h
      split_ifs at h with hroot
      · exact h
      · exact List.mem_cons_of_mem _ h
  · rw [if_neg hdouble] at h
    by_cases hdot : isDot segment = true
    · rw [if_pos hdot] at h
      exact .inl h
    · rw [if_neg hdot] at h
      simp only [hk, decide_false, Bool.false_and, Bool.false_eq_true, if_false, List.mem_cons] at h
      exact h.symm.imp_right fun he => ⟨he, eq_false_of_ne_true hdot, eq_false_of_ne_true hdouble⟩

/-- Where segments lead there are none but empty ones and those of them that are no dot segments. -/
lemma mem_of_mem_resolve {kind : Kind} (hk : kind ≠ .file) {place segments : List (List Char)} {segment : List Char}
    (h : segment ∈ resolve kind place segments) : segment ∈ place ∨ segment = [] ∨
      (∃ text ∈ segments, segment = escape (clean text)) ∧ isDot segment = false ∧ isDoubleDot segment = false := by
  induction segments generalizing place with
  | nil => exact .inl h
  | cons text rest ih =>
    rw [resolve] at h
    simp only [hk, decide_false, Bool.false_and, Bool.false_eq_true, if_false] at h
    have hplace : segment ∈ descend kind place (escape (clean text)) → segment ∈ place ∨ segment = [] ∨
        (∃ text' ∈ text :: rest, segment = escape (clean text')) ∧ isDot segment = false ∧
          isDoubleDot segment = false := by
      intro hm
      rcases mem_of_mem_descend hk hm with hm | ⟨rfl, hdots⟩
      · exact .inl hm
      · exact .inr (.inr ⟨⟨text, List.mem_cons_self, rfl⟩, hdots⟩)
    split at h
    · rcases List.mem_cons.mp h with rfl | h
      · exact .inr (.inl rfl)
      · exact hplace h
    · rcases ih h with h | rfl | ⟨⟨text', hm, he⟩, hdots⟩
      · exact hplace h
      · exact .inr (.inl rfl)
      · exact .inr (.inr ⟨⟨text', List.mem_cons_of_mem _ hm, he⟩, hdots⟩)

def escapeAll (body : List Char) : List Char :=
  '/' :: Pieces.join '/' ((Pieces.cut '/' body).map escape)

lemma ofSegments_resolve {body tail : List Char} (hb : ∀ c ∈ body, isPathChar c = true) (ht : IsTail tail) :
    ofSegments .web (body ++ tail) = '/' :: Pieces.join '/' (resolve .web [] (Pieces.cut '/' body)).reverse := by
  have hslash : body.map (fun c => if Kind.web.isSlash c then '/' else c) = body := by
    refine (List.map_congr_left fun c hc => ?_).trans (List.map_id _)
    have hne := ((isPathChar_iff c).mp (hb c hc)).2.2
    by_cases hs : c = '/' <;> simp [Kind.isSlash, hs, hne]
  rw [ofSegments, written_append hb ht, hslash]
  rfl

lemma ofSegments_append {body tail : List Char} (hb : ∀ c ∈ body, isPathChar c = true) (ht : IsTail tail)
    (hd : ∀ segment ∈ Pieces.cut '/' body, isDot (escape segment) = false ∧ isDoubleDot (escape segment) = false) :
    ofSegments .web (body ++ tail) = escapeAll body := by
  have hclean : ∀ segment ∈ Pieces.cut '/' body, clean segment = segment := fun segment hs =>
    clean_of_visible fun c hc => ((isPathChar_iff c).mp (hb c (Pieces.mem_of_mem_cut hs hc).1)).1
  rw [ofSegments_resolve hb ht, resolve_of_not_dots (by decide) fun segment hs => ⟨hclean segment hs, hd segment hs⟩,
    List.append_nil, List.reverse_reverse]
  rfl

lemma ofText_append {body tail : List Char} (hb : ∀ c ∈ body, isPathChar c = true) (ht : IsTail tail)
    (hd : ∀ segment ∈ Pieces.cut '/' body, isDot (escape segment) = false ∧ isDoubleDot (escape segment) = false) :
    ofText .web ('/' :: body ++ tail) = escapeAll body :=
  ofSegments_append hb ht hd

lemma slash_not_mem_escape {segment : List Char} (h : ∀ c ∈ segment, isVisible c = true ∧ c ≠ '/') :
    '/' ∉ escape segment := by
  intro hm
  have hascii : ∀ c ∈ segment, c.toNat < 0x80 := fun c hc => isVisible_ascii (h c hc).1
  rw [escape_eq_flatMap, Utf8.encode_of_ascii hascii] at hm
  obtain ⟨b, hb, hm⟩ := List.mem_flatMap.mp hm
  obtain ⟨c, hc, rfl⟩ := List.mem_map.mp hb
  have hslash : c.toUInt8 = '/'.toUInt8 := (escapeOctet_visible _ _ hm).2 rfl
  exact (h c hc).2 ((Utf8.toUInt8_inj (hascii c hc) (by decide)).mp hslash)

lemma cut_escapeAll {body : List Char} (hb : ∀ c ∈ body, isVisible c = true) :
    Pieces.cut '/' (escapeAll body) = [] :: (Pieces.cut '/' body).map escape := by
  rw [escapeAll, Pieces.cut_cons_separator, Pieces.cut_join]
  · exact fun hn => Pieces.cut_ne_nil '/' body (List.map_eq_nil_iff.mp hn)
  · intro piece hp
    obtain ⟨segment, hs, rfl⟩ := List.mem_map.mp hp
    refine slash_not_mem_escape fun c hc => ?_
    obtain ⟨hm, hne⟩ := Pieces.mem_of_mem_cut hs hc
    exact ⟨hb c hm, hne⟩

lemma normalizePath_escapeAll {body : List Char} (hb : ∀ c ∈ body, isVisible c = true) :
    normalizePath (escapeAll body) = normalizePath ('/' :: body) := by
  rw [normalizePath_eq_map, normalizePath_eq_map, cut_escapeAll hb, Pieces.cut_cons_separator, List.mapM_cons,
    List.mapM_cons, List.mapM_map]
  simp only [Function.comp_def, canonical_escape]

lemma encodeOctet_isPathChar (b : UInt8) : ∀ c ∈ encodeOctet b, isPathChar c = true := by
  have hall : ∀ b, (encodeOctet b).all isPathChar = true := forall_octet (by decide +kernel)
  exact List.all_eq_true.mp (hall b)

lemma pathOf_isPathChar {texts : List (List Char)} {c : Char} (h : c ∈ pathOf texts) : isPathChar c = true := by
  rcases mem_pathOf h with rfl | ⟨text, -, hc⟩
  · decide
  · obtain ⟨b, -, hb⟩ := List.mem_flatMap.mp hc
    exact encodeOctet_isPathChar b c hb

lemma escapeOctet_spelled : ∀ b, (spelled b).flatMap escapeOctet = encodeOctet b :=
  forall_octet (by decide +kernel)

@[simp] lemma escape_encode (text : List Char) : escape (encode text) = encode text := by
  rw [escape_eq_flatMap, utf8_encode, List.flatMap_assoc, encode]
  exact List.flatMap_congr fun b _ => escapeOctet_spelled b

lemma plainDots_cons_of_ne {c : Char} (h : c ≠ '%') (rest : List Char) :
    plainDots (c :: rest) = c :: plainDots rest := by
  rw [plainDots] <;> rintro _ rfl <;> exact absurd rfl h

lemma plainDots_percent {c d : Char} (hc : c ≠ '%') (hd : d ≠ '%') (he : c ≠ '2' ∨ d ≠ 'e' ∧ d ≠ 'E')
    (rest : List Char) : plainDots ('%' :: c :: d :: rest) = '%' :: c :: d :: plainDots rest := by
  rw [plainDots, plainDots_cons_of_ne hc, plainDots_cons_of_ne hd]
  · rintro tail - ⟨⟩
    exact he.elim (absurd rfl) fun h => h.1 rfl
  · rintro tail - ⟨⟩
    exact he.elim (absurd rfl) fun h => h.2 rfl

lemma encodeOctet_cases (b : UInt8) : (∃ c, encodeOctet b = [c] ∧ c ≠ '%') ∨
    ∃ c d, encodeOctet b = ['%', c, d] ∧ c ≠ '%' ∧ d ≠ '%' ∧ (c ≠ '2' ∨ d ≠ 'e' ∧ d ≠ 'E') := by
  cases hs : isSafe b with
  | true =>
    have hne : ∀ b, isSafe b = true → Char.ofUInt8 b ≠ '%' := forall_octet (by decide +kernel)
    exact .inl ⟨_, by rw [encodeOctet, if_pos hs], hne b hs⟩
  | false =>
    have hne : ∀ b, isSafe b = false → hexDigit (b / 16) ≠ '%' ∧ hexDigit (b % 16) ≠ '%' ∧
        (hexDigit (b / 16) ≠ '2' ∨ hexDigit (b % 16) ≠ 'e' ∧ hexDigit (b % 16) ≠ 'E') :=
      forall_octet (by decide +kernel)
    exact .inr ⟨_, _, by rw [encodeOctet, hs]; rfl, hne b hs⟩

@[simp] lemma plainDots_encode (text : List Char) : plainDots (encode text) = encode text := by
  rw [encode]
  induction Utf8.encode text with
  | nil => rfl
  | cons b rest ih =>
    rw [List.flatMap_cons]
    rcases encodeOctet_cases b with ⟨c, hb, hc⟩ | ⟨c, d, hb, hc, hd, he⟩
    · rw [hb, List.singleton_append, plainDots_cons_of_ne hc, ih]
    · rw [hb, List.cons_append, List.cons_append, List.singleton_append, plainDots_percent hc hd he, ih]

lemma not_dots_encode {text : List Char} (h : encode text ≠ ['.'] ∧ encode text ≠ ['.', '.']) :
    isDot (escape (encode text)) = false ∧ isDoubleDot (escape (encode text)) = false := by
  simpa [isDot, isDoubleDot] using h

lemma escapeAll_pathOf {texts : List (List Char)} (h : texts ≠ []) :
    escapeAll (pathOf texts) = '/' :: pathOf texts := by
  have hmap : texts.map (escape ∘ encode) = texts.map encode := List.map_congr_left fun text _ => escape_encode text
  rw [escapeAll, cut_pathOf h, List.map_map, hmap]
  rfl

end Path

end PathRouter.Url
