import PathRouter.Proofs.Router.Lookup
import PathRouter.Proofs.Url.Reference

/-! A path that stands for itself leads to the same route however it is given: alone, with a query or a fragment
after it, or as the path of an address. -/

namespace PathRouter

open Percent Url

namespace RouteInput

lemma exists_body_of_isPlainPath {text : List Char} (h : isPlainPath text = true) :
    ∃ body, text = '/' :: body ∧ body.head? ≠ some '/' ∧ (∀ c ∈ body, isPathChar c = true) ∧
      ∀ segment ∈ Pieces.cut '/' body, startsWithDot segment = false := by
  simp only [isPlainPath, Bool.and_eq_true, decide_eq_true_eq, List.all_eq_true, Bool.not_eq_true',
    List.any_eq_false, Bool.not_eq_true] at h
  obtain ⟨⟨⟨hfirst, hsecond⟩, hchars⟩, hdots⟩ := h
  obtain ⟨body, rfl⟩ := List.head?_eq_some_iff.mp hfirst
  rw [Pieces.cut_cons_separator, List.forall_mem_cons] at hdots
  refine ⟨body, rfl, ?_, fun c hc => ?_, hdots.2⟩
  · rwa [List.getElem?_cons_succ, ← List.head?_eq_getElem?] at hsecond
  · obtain ⟨⟨⟨⟨hlow, hhigh⟩, hq⟩, hf⟩, hr⟩ := hchars c (List.mem_cons_of_mem _ hc)
    exact (isPathChar_iff c).mpr ⟨by simp [isVisible, hlow, hhigh], by simp [endsPath, hq, hf], hr⟩

lemma not_isPlainPath_of_endsPath {text : List Char} {c : Char} (hc : c ∈ text) (he : endsPath c = true) :
    isPlainPath text = false := by
  cases h : isPlainPath text with
  | false => rfl
  | true =>
    obtain ⟨body, rfl, -, hb, -⟩ := exists_body_of_isPlainPath h
    rcases List.mem_cons.mp hc with rfl | hc
    · cases he
    · rw [((isPathChar_iff c).mp (hb c hc)).2.1] at he
      cases he

lemma escape_of_visible {text : List Char} (h : ∀ c ∈ text, isVisible c = true) :
    Path.escape text = text.flatMap fun c => Path.escapeOctet c.toUInt8 := by
  rw [Path.escape_eq_flatMap, Utf8.encode_of_ascii fun c hc => isVisible_ascii (h c hc), List.flatMap_map]

lemma escapeOctet_of_not_isEscaped {c : Char} (h : isVisible c = true) (he : Path.isEscaped c.toUInt8 = false) :
    Path.escapeOctet c.toUInt8 = [c] := by
  rw [Path.escapeOctet, he, ofUInt8_toUInt8 (isVisible_ascii h)]
  rfl

lemma exists_of_escape_eq_cons {text rest : List Char} {c : Char} (hv : ∀ c ∈ text, isVisible c = true) (hc : c ≠ '%')
    (h : Path.escape text = c :: rest) : ∃ others, text = c :: others ∧ Path.escape others = rest := by
  have hf : ∀ a ∈ text, Path.escapeOctet a.toUInt8 = [a] ∨ (Path.escapeOctet a.toUInt8).head? = some '%' := by
    intro a ha
    cases he : Path.isEscaped a.toUInt8 with
    | false => exact .inl (escapeOctet_of_not_isEscaped (hv a ha) he)
    | true => exact .inr (by rw [Path.escapeOctet, he]; rfl)
  rw [escape_of_visible hv] at h
  obtain ⟨others, rfl, hrest⟩ := Path.exists_of_flatMap_eq_cons hf hc h
  exact ⟨others, rfl, (escape_of_visible (List.forall_mem_cons.mp hv).2).trans hrest⟩

lemma startsWithDot_eq_true {text : List Char} (h : startsWithDot text = true) :
    (∃ rest, text = '.' :: rest) ∨ ∃ e rest, (e = 'e' ∨ e = 'E') ∧ text = '%' :: '2' :: e :: rest := by
  unfold startsWithDot at h
  split at h
  · exact .inl ⟨_, rfl⟩
  · exact .inr ⟨_, _, .inl rfl, rfl⟩
  · exact .inr ⟨_, _, .inr rfl, rfl⟩
  · cases h

lemma escapeOctet_ne_dot : ∀ b, Path.isEscaped b = true →
    Path.escapeOctet b ≠ ['%', '2', 'e'] ∧ Path.escapeOctet b ≠ ['%', '2', 'E'] ∧ (Path.escapeOctet b).length = 3 :=
  forall_octet (by decide +kernel)

lemma startsWithDot_escape {segment : List Char} (hv : ∀ c ∈ segment, isVisible c = true)
    (h : startsWithDot segment = false) : startsWithDot (Path.escape segment) = false := by
  rw [← Bool.not_eq_true]
  intro hdot
  rcases startsWithDot_eq_true hdot with ⟨rest, hs⟩ | ⟨e, rest, he, hs⟩
  · obtain ⟨others, rfl, -⟩ := exists_of_escape_eq_cons hv (by decide) hs
    cases h
  · cases segment with
    | nil => cases hs
    | cons a others =>
      obtain ⟨ha, hothers⟩ := List.forall_mem_cons.mp hv
      rw [escape_of_visible hv, List.flatMap_cons, ← escape_of_visible hothers] at hs
      cases hesc : Path.isEscaped a.toUInt8 with
      | true =>
        obtain ⟨hlower, hupper, hlength⟩ := escapeOctet_ne_dot _ hesc
        have hparts : Path.escapeOctet a.toUInt8 ++ Path.escape others = ['%', '2', e] ++ rest := hs
        have htake := (List.append_inj hparts hlength).1
        rcases he with rfl | rfl
        · exact hlower htake
        · exact hupper htake
      | false =>
        rw [escapeOctet_of_not_isEscaped ha hesc] at hs
        obtain ⟨rfl, htail⟩ := List.cons.inj hs
        obtain ⟨others, rfl, hrest⟩ := exists_of_escape_eq_cons hothers (by decide) htail
        have hne : e ≠ '%' := by rcases he with rfl | rfl <;> decide
        obtain ⟨others, rfl, -⟩ := exists_of_escape_eq_cons (List.forall_mem_cons.mp hothers).2 hne hrest
        rcases he with rfl | rfl <;> cases h

lemma head?_plainDots {text : List Char} (h : startsWithDot text = false) :
    (Path.plainDots text).head? ≠ some '.' := by
  unfold Path.plainDots
  split
  · cases h
  · cases h
  · intro he
    obtain rfl := Option.some.inj he
    cases h
  · exact fun he => (by cases he)

lemma not_dots_of_not_startsWithDot {text : List Char} (h : startsWithDot text = false) :
    Path.isDot text = false ∧ Path.isDoubleDot text = false := by
  have hhead := head?_plainDots h
  rw [Path.isDot, Path.isDoubleDot, decide_eq_false_iff_not, decide_eq_false_iff_not]
  exact ⟨fun he => hhead (by rw [he]; rfl), fun he => hhead (by rw [he]; rfl)⟩

lemma pathname?_of_isPlainPath {s : String} (h : isPlainPath s.toList = true) :
    (RouteInput.text s).pathname? = some s.toList := by
  obtain ⟨body, hs, -⟩ := exists_body_of_isPlainPath h
  rw [pathname?, if_pos h, hs]
  rfl

lemma pathname?_of_not_isPlainPath {s : String} (h : isPlainPath s.toList = false) {path : List Char}
    (hp : Url.parse? (some site) s.toList = some ⟨some path⟩) (hs : path.head? = some '/') :
    (RouteInput.text s).pathname? = some path := by
  simp [pathname?, h, hp, hs]

lemma pathname?_url {path : List Char} (hs : path.head? = some '/') :
    (RouteInput.url ⟨some path⟩).pathname? = some path := by
  simp [pathname?, hs]

/-- A plain path, with any query or fragment after it, is read as the path with each of its segments escaped. -/
lemma parse?_of_isPlainPath {text tail : List Char} (h : isPlainPath text = true) (ht : IsTail tail) :
    ∃ path, path.head? = some '/' ∧ normalizePath path = normalizePath text ∧
      Url.parse? (some site) (text ++ tail) = some ⟨some path⟩ ∧
      Url.parse? none ("http://localhost".toList ++ (text ++ tail)) = some ⟨some path⟩ := by
  obtain ⟨body, rfl, hs, hb, hdots⟩ := exists_body_of_isPlainPath h
  have hv : ∀ c ∈ body, isVisible c = true := fun c hc => ((isPathChar_iff c).mp (hb c hc)).1
  have hd : ∀ segment ∈ Pieces.cut '/' body, Path.isDot (Path.escape segment) = false ∧
      Path.isDoubleDot (Path.escape segment) = false := fun segment hm =>
    not_dots_of_not_startsWithDot
      (startsWithDot_escape (fun c hc => hv c (Pieces.mem_of_mem_cut hm hc).1) (hdots segment hm))
  exact ⟨Path.escapeAll body, rfl, Path.normalizePath_escapeAll hv, parse?_reference hb ht hd hs site,
    parse?_address hb ht hd⟩

lemma path?_of_isPlainPath {s : String} (h : isPlainPath s.toList = true) :
    (RouteInput.text s).path? = normalizePath s.toList := by
  rw [path?, pathname?_of_isPlainPath h, Option.bind_some]

lemma path?_of_isPlainPath_append {s q : String} (h : isPlainPath s.toList = true) (ht : IsTail q.toList) :
    (RouteInput.text (s ++ q)).path? = normalizePath s.toList := by
  cases hq : q.toList with
  | nil =>
    have hs : s ++ q = s := by rw [← String.toList_inj, String.toList_append, hq, List.append_nil]
    rw [hs, path?_of_isPlainPath h]
  | cons c rest =>
    -- The character that ends the path keeps the whole text from being a plain path.
    have hmem : c ∈ (s ++ q).toList := by
      rw [String.toList_append, hq]
      exact List.mem_append_right _ List.mem_cons_self
    have hplain := not_isPlainPath_of_endsPath hmem (ht c (by rw [hq]; rfl))
    obtain ⟨path, hhead, hnormal, hreference, -⟩ := parse?_of_isPlainPath h ht
    rw [← String.toList_append] at hreference
    rw [path?, pathname?_of_not_isPlainPath hplain hreference hhead, Option.bind_some, hnormal]

end RouteInput

theorem Router.plain_path_agrees {s q : String} (hs : RouteInput.isPlainPath s.toList = true)
    (hq : ∀ c, q.toList.head? = some c → c = '?' ∨ c = '#') :
    (RouteInput.text s).pathname? = some s.toList ∧
    ∃ path, Url.parse? (some RouteInput.site) (s ++ q).toList = some ⟨some path⟩ ∧
      Url.parse? none ("http://localhost" ++ s ++ q).toList = some ⟨some path⟩ ∧
      normalizePath path = normalizePath s.toList ∧
      ∀ (α : Type) (router : Router α),
        router.route (.text (s ++ q)) = router.route (.text s) ∧
        router.route (.url ⟨some path⟩) = router.route (.text s) ∧
        ∀ bound, router.routeWith (.text (s ++ q)) bound = router.routeWith (.text s) bound ∧
          router.routeWith (.url ⟨some path⟩) bound = router.routeWith (.text s) bound := by
  have ht : IsTail q.toList := fun c hc => by
    rcases hq c hc with rfl | rfl <;> rfl
  obtain ⟨path, hhead, hnormal, hreference, haddress⟩ := RouteInput.parse?_of_isPlainPath hs ht
  have hpath := RouteInput.path?_of_isPlainPath hs
  have htext : (RouteInput.text (s ++ q)).path? = (RouteInput.text s).path? :=
    (RouteInput.path?_of_isPlainPath_append hs ht).trans hpath.symm
  have hurl : (RouteInput.url ⟨some path⟩).path? = (RouteInput.text s).path? := by
    rw [hpath, RouteInput.path?, RouteInput.pathname?_url hhead, Option.bind_some, hnormal]
  refine ⟨RouteInput.pathname?_of_isPlainPath hs, path, by rwa [String.toList_append], ?_, hnormal, fun α router =>
    ⟨router.route_congr htext, router.route_congr hurl, fun bound =>
      ⟨router.routeWith_congr htext bound, router.routeWith_congr hurl bound⟩⟩⟩
  rwa [String.toList_append, String.toList_append, List.append_assoc]

/-- The escapes that an address adds stand beside one that is written in lower case. -/
theorem Router.plain_path_agrees_braces :
    RouteInput.isPlainPath "/a|b/{%c3%a9}".toList = true ∧
    ∃ path, Url.parse? none "http://localhost/a|b/{%c3%a9}?x=/../y#z".toList = some ⟨some path⟩ ∧
      normalizePath path = some "/a%7Cb/%7B%C3%A9%7D".toList := by
  have hs : RouteInput.isPlainPath "/a|b/{%c3%a9}".toList = true := by decide +kernel
  obtain ⟨-, path, -, haddress, hnormal, -⟩ := plain_path_agrees (s := "/a|b/{%c3%a9}") (q := "?x=/../y#z") hs
    fun c hc => .inl (Option.some.inj hc).symm
  exact ⟨hs, path, haddress, hnormal.trans (by decide +kernel)⟩

end PathRouter
