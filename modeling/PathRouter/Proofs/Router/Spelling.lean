import PathRouter.Proofs.Router.Filling
import PathRouter.Proofs.Pattern.Spelling
import PathRouter.Proofs.Percent.Writing
import PathRouter.Proofs.Url.DotSegments

/-! A pattern without variables is reached by every spelling of its segments, unless one of them is a dot segment:
these are resolved before the path is looked up, however they are spelled, so that no spelling reaches it. -/

namespace PathRouter

open Automaton Percent Url

inductive Pattern.HasDots (p : Pattern) : Prop
  | dot (h : .literal "." ∈ p.segments)
  | double (h : .literal ".." ∈ p.segments)

namespace Percent

lemma isPathChar_of_isSpelling {c : Char} (h : isSpelling c = true) :
    isPathChar c = true ∧ c ≠ '/' ∧ Path.isEscaped c.toUInt8 = false := by
  have hall : ∀ b, isSpelling (Char.ofUInt8 b) = true →
      isPathChar (Char.ofUInt8 b) = true ∧ Char.ofUInt8 b ≠ '/' ∧ Path.isEscaped (Char.ofUInt8 b).toUInt8 = false :=
    forall_octet (by decide +kernel)
  have hc := hall c.toUInt8
  rw [ofUInt8_toUInt8 (isSpelling_ascii h)] at hc
  exact hc h

lemma isVisible_of_isSpelling {c : Char} (h : isSpelling c = true) : isVisible c = true :=
  ((isPathChar_iff c).mp (isPathChar_of_isSpelling h).1).1

lemma escape_of_isSpelling {segment : List Char} (h : ∀ c ∈ segment, isSpelling c = true) :
    Path.escape segment = segment := by
  have hv : ∀ c ∈ segment, isVisible c = true := fun c hc => isVisible_of_isSpelling (h c hc)
  rw [RouteInput.escape_of_visible hv, List.flatMap_congr fun c hc =>
    RouteInput.escapeOctet_of_not_isEscaped (hv c hc) (isPathChar_of_isSpelling (h c hc)).2.2]
  exact List.flatMap_singleton' segment

end Percent

namespace RouteInput

variable {body : List Char} (hb : ∀ c ∈ body, isPathChar c = true) (hs : body.head? ≠ some '/')
include hb hs

lemma path?_absolute (hd : ∀ segment ∈ Pieces.cut '/' body, Path.isDot (Path.escape segment) = false ∧
    Path.isDoubleDot (Path.escape segment) = false) :
    (RouteInput.text (String.ofList ('/' :: body))).path? = normalizePath ('/' :: body) := by
  have hlist : (String.ofList ('/' :: body)).toList = '/' :: body := String.toList_ofList
  cases hplain : isPlainPath ('/' :: body) with
  | true => rw [path?_of_isPlainPath (hlist.symm ▸ hplain), hlist]
  | false =>
    have htail : IsTail [] := fun c hc => (by cases hc)
    have hparse := parse?_reference hb htail hd hs site
    rw [List.append_nil, ← hlist] at hparse
    rw [path?, pathname?_of_not_isPlainPath (hlist.symm ▸ hplain) hparse rfl, Option.bind_some,
      Path.normalizePath_escapeAll fun c hc => ((isPathChar_iff c).mp (hb c hc)).1]

lemma exists_pathname? : ∃ resolved,
    (RouteInput.text (String.ofList ('/' :: body))).pathname? = some ('/' :: resolved) ∧
      ∀ segment ∈ Pieces.cut '/' resolved, (∀ c ∈ segment, isVisible c = true) ∧ Path.isDot segment = false ∧
        Path.isDoubleDot segment = false := by
  have hlist : (String.ofList ('/' :: body)).toList = '/' :: body := String.toList_ofList
  cases hplain : isPlainPath ('/' :: body) with
  | true =>
    obtain ⟨_, heq, -, -, hdots⟩ := exists_body_of_isPlainPath hplain
    obtain ⟨-, rfl⟩ := List.cons.inj heq
    refine ⟨body, by rw [pathname?_of_isPlainPath (hlist.symm ▸ hplain), hlist], fun segment hm => ⟨fun c hc => ?_, ?_⟩⟩
    · exact ((isPathChar_iff c).mp (hb c (Pieces.mem_of_mem_cut hm hc).1)).1
    · exact not_dots_of_not_startsWithDot (hdots segment hm)
  | false =>
    have htail : IsTail [] := fun c hc => (by cases hc)
    obtain ⟨tail, ht, hparse⟩ := parse?_absolute hb htail hs site
    have hpath : Path.ofText .web ('/' :: body ++ tail) = Path.ofSegments .web (body ++ tail) := rfl
    rw [List.append_nil, hpath, Path.ofSegments_resolve hb ht, ← hlist] at hparse
    exact ⟨_, pathname?_of_not_isPlainPath (hlist.symm ▸ hplain) hparse rfl, fun _ => Path.mem_cut_resolve hb⟩

lemma not_dots_of_path? {path : List Char} (h : (RouteInput.text (String.ofList ('/' :: body))).path? = some path) :
    ∃ texts, texts ≠ [] ∧ path = '/' :: pathOf texts ∧ ['.'] ∉ texts ∧ ['.', '.'] ∉ texts := by
  obtain ⟨resolved, hpathname, hdots⟩ := exists_pathname? hb hs
  rw [path?, hpathname, Option.bind_some] at h
  obtain ⟨_, texts, heq, hne, hspells, hpath⟩ := normalizePath_absolute rfl h
  obtain ⟨-, rfl⟩ := List.cons.inj heq
  have hread : ∀ text ∈ texts, text ≠ ['.'] ∧ text ≠ ['.', '.'] := by
    intro text ht
    obtain ⟨segment, hm, hd⟩ := exists_of_related hspells.flip ht
    obtain ⟨hv, hdot, hdouble⟩ := hdots segment hm
    have ha : ∀ c ∈ segment, c.toNat < 0x80 := fun c hc => isVisible_ascii (hv c hc)
    have hspell := (decode_eq_ok_iff _ _).mp hd
    rw [Ne, Ne, ← Path.isDot_iff_of_spells ha hspell, ← Path.isDoubleDot_iff_of_spells ha hspell, hdot, hdouble]
    exact ⟨Bool.false_ne_true, Bool.false_ne_true⟩
  exact ⟨texts, hne, hpath, fun hm => (hread _ hm).1 rfl, fun hm => (hread _ hm).2 rfl⟩

end RouteInput

section Spelled

variable {texts pieces : List (List Char)}
  (hw : List.Forall₂ (fun piece text => Writes piece (Utf8.encode text)) pieces texts)
include hw

lemma isSpelling_of_writes : ∀ piece ∈ pieces, ∀ c ∈ piece, isSpelling c = true := by
  intro piece hp
  obtain ⟨_, -, h⟩ := exists_of_related hw hp
  exact h.isSpelling

lemma not_dots_of_writes (hd : ['.'] ∉ texts ∧ ['.', '.'] ∉ texts) :
    ∀ piece ∈ pieces, Path.isDot piece = false ∧ Path.isDoubleDot piece = false := by
  intro piece hp
  obtain ⟨text, ht, h⟩ := exists_of_related hw hp
  have ha : ∀ c ∈ piece, c.toNat < 0x80 := fun c hc => isSpelling_ascii (h.isSpelling c hc)
  rw [← Bool.not_eq_true, ← Bool.not_eq_true, Path.isDot_iff_of_spells ha h.spells,
    Path.isDoubleDot_iff_of_spells ha h.spells]
  exact ⟨fun he => hd.1 (he ▸ ht), fun he => hd.2 (he ▸ ht)⟩

lemma ne_nil_of_writes (hne : ∀ text ∈ texts, text ≠ []) : ∀ piece ∈ pieces, piece ≠ [] := by
  rintro _ hp rfl
  obtain ⟨text, ht, h⟩ := exists_of_related hw hp
  exact hne text ht (h.spells.unique (.of_encode []))

lemma isPathChar_of_writes : ∀ c ∈ Pieces.join '/' pieces, isPathChar c = true := by
  intro c hc
  rcases Pieces.mem_join hc with rfl | ⟨piece, hp, hc⟩
  · decide
  · exact (isPathChar_of_isSpelling (isSpelling_of_writes hw piece hp c hc)).1

lemma head?_join_of_writes (hempty : texts = [[]] ∨ ∀ text ∈ texts, text ≠ []) :
    (Pieces.join '/' pieces).head? ≠ some '/' := by
  rcases hempty with rfl | hne
  · cases hw with
    | cons h hnil =>
      obtain rfl := List.forall₂_nil_right_iff.mp hnil
      rw [h.spells.eq_nil]
      exact fun hs => (by cases hs)
  · refine Pieces.head?_join (fun piece hp hs => ?_) (ne_nil_of_writes hw hne)
    exact (isPathChar_of_isSpelling (isSpelling_of_writes hw piece hp _ hs)).2.1 rfl

lemma path?_of_writes (hne : texts ≠ []) (hempty : texts = [[]] ∨ ∀ text ∈ texts, text ≠ [])
    (hd : ['.'] ∉ texts ∧ ['.', '.'] ∉ texts) :
    (RouteInput.text (String.ofList ('/' :: Pieces.join '/' pieces))).path? = some ('/' :: pathOf texts) := by
  have hspelling := isSpelling_of_writes hw
  have hpieces : pieces ≠ [] := by
    rintro rfl
    exact hne (List.forall₂_nil_left_iff.mp hw)
  have hcut : Pieces.cut '/' (Pieces.join '/' pieces) = pieces := Pieces.cut_join hpieces fun piece hp hs =>
    (isPathChar_of_isSpelling (hspelling piece hp _ hs)).2.1 rfl
  have hdots : ∀ segment ∈ Pieces.cut '/' (Pieces.join '/' pieces), Path.isDot (Path.escape segment) = false ∧
      Path.isDoubleDot (Path.escape segment) = false := by
    rw [hcut]
    intro piece hp
    rw [escape_of_isSpelling (hspelling piece hp)]
    exact not_dots_of_writes hw hd piece hp
  rw [RouteInput.path?_absolute (isPathChar_of_writes hw) (head?_join_of_writes hw hempty) hdots,
    normalizePath_eq_some_iff]
  refine ⟨[] :: texts, List.cons_ne_nil _ _, ?_, (pathOf_nil_cons hne).symm⟩
  rw [Pieces.cut_cons_separator, hcut]
  exact .cons (.of_encode []) (hw.imp fun _ _ => Writes.spells)

end Spelled

namespace Pattern

variable {p : Pattern}

lemma exists_texts_of_not_hasVariables (hp : parse .template p.source = .ok p) (hl : p.hasVariables = false) :
    ∃ texts, List.Forall₂ Spells (Pieces.cut '/' p.source.toList.tail) texts ∧
      p.segments = texts.map fun text => .literal (String.ofList (encode text)) := by
  have hd := ((parse_eq_ok_iff _ _ _).mp hp).2.denotes
  rw [hasVariables, List.any_eq_false] at hl
  generalize Pieces.cut '/' p.source.toList.tail = raws at hd ⊢
  generalize p.segments = segments at hd hl ⊢
  induction hd with
  | nil => exact ⟨[], .nil, rfl⟩
  | cons h _ ih =>
    rw [List.forall_mem_cons] at hl
    obtain ⟨texts, hs, he⟩ := ih hl.2
    cases h with
    | literal _ hspells => exact ⟨_, .cons hspells hs, by rw [he]; rfl⟩
    | var => exact absurd rfl hl.1

section Literals

variable {texts : List (List Char)} (ht : p.segments = texts.map fun text => .literal (String.ofList (encode text)))
include ht

lemma Proper.empty_or_ne_nil (hp : p.Proper) : texts = [[]] ∨ ∀ text ∈ texts, text ≠ [] := by
  rcases hp.spelled with hroot | hspelled
  · left
    rw [ht] at hroot
    obtain ⟨text, rfl, he⟩ := List.map_eq_singleton_iff.mp hroot
    have hempty := congrArg String.toList (Segment.literal.inj he)
    rw [String.toList_ofList] at hempty
    rw [(encode_eq_nil_iff text).mp hempty]
  · right
    intro text hm
    obtain ⟨data, hne, he⟩ := hspelled _ (ht ▸ List.mem_map_of_mem hm)
    rw [String.toList_ofList] at he
    rwa [encode_injective he]

lemma hasDots_iff : p.HasDots ↔ ['.'] ∈ texts ∨ ['.', '.'] ∈ texts := by
  have hinj : Function.Injective fun text => Segment.literal (String.ofList (encode text)) := fun text text' h =>
    encode_injective (String.ofList_injective (Segment.literal.inj h))
  have hmem := fun text => List.mem_map_of_injective hinj (a := text) (l := texts)
  rw [← hmem, ← hmem, ← ht]
  constructor
  · intro h
    cases h with
    | dot h => exact .inl h
    | double h => exact .inr h
  · exact fun h => h.elim .dot .double

lemma fill_of_literals (assignment : Variables) : p.fill assignment = '/' :: pathOf texts := by
  have hfill : (fun text => (Segment.literal (String.ofList (encode text))).fill assignment) =
      fun text => [encode text] := funext fun text => by rw [Segment.fill, String.toList_ofList]
  rw [fill, ht, List.flatMap_map, hfill, ← List.map_eq_flatMap]
  rfl

lemma Proper.matchesPath_of_literals_iff (hp : p.Proper) {path : List Char} (hc : IsCanonicalPath path) :
    p.matchesPath path = true ↔ path = '/' :: pathOf texts := by
  constructor
  · intro hm
    obtain ⟨-, -, -, hfill⟩ := Router.bind_spec hp hc hm Variables.empty
    exact hfill.symm.trans (fill_of_literals ht _)
  · rintro rfl
    have ha : ∀ segment ∈ p.segments, segment.IsAssigned Variables.empty := by
      rw [ht]
      exact List.forall_mem_map.mpr fun _ _ => trivial
    rw [← fill_of_literals ht Variables.empty]
    exact matchesPath_fill hp ha

end Literals

end Pattern

namespace Router

variable {α : Type} {builder : Builder α} {options : BuildOptions}

theorem route_spelling (hm : builder.IsMade)
    (hc : ∀ conflict, builder.build options ≠ .error (.conflict conflict)) {r : Nat} {p : Pattern} {value : α}
    (hr : builder.routes[r]? = some (p, value)) (hp : Pattern.parse .template p.source = .ok p)
    (hl : p.hasVariables = false) {pieces : List (List Char)}
    (hw : List.Forall₂ (fun raw piece => ∃ text, decode raw = .ok text ∧ Writes piece (Utf8.encode text))
      (Pieces.cut '/' p.source.toList.tail) pieces) :
    (∃ states, builder.IsTooLarge options states) ∨
    ∃ router, builder.build options = .ok router ∧
      (¬ p.HasDots → router.route (.text (String.ofList ('/' :: Pieces.join '/' pieces))) = some value) ∧
      (p.HasDots → ∀ path, (RouteInput.text (String.ofList ('/' :: Pieces.join '/' pieces))).path? = some path →
        router.engine.run (Utf8.encode path) ≠ some r) := by
  have hproper := hm.proper_of_route hr
  obtain ⟨texts, hspells, ht⟩ := Pattern.exists_texts_of_not_hasVariables hp hl
  have hne : texts ≠ [] := fun hn => hproper.nonempty (by rw [ht, hn]; rfl)
  have hempty := hproper.empty_or_ne_nil ht
  obtain ⟨read, hread, hwrites⟩ := (related_through_iff _ _).mp hw
  obtain rfl := forall₂_spells_unique hspells (hread.imp fun _ _ => (decode_eq_ok_iff _ _).mp)
  rw [Pattern.hasDots_iff ht]
  refine (build_eq_ok_or_isTooLarge hc).imp_right ?_
  rintro ⟨router, hb⟩
  refine ⟨router, hb, fun hd => ?_, fun hd path hpath hrun => ?_⟩
  · have hpath := path?_of_writes hwrites hne hempty (not_or.mp hd)
    have hcanonical := (isCanonicalPath_iff _).mpr ⟨texts, hne, rfl⟩
    have hentry := lookup?_of_matchesPath hm hb hcanonical hr
      ((hproper.matchesPath_of_literals_iff ht hcanonical).mpr rfl)
    rw [route, find?_eq_bind, hpath, Option.bind_some, hentry]
    rfl
  · obtain ⟨texts', hne', rfl, hdots⟩ :=
      RouteInput.not_dots_of_path? (isPathChar_of_writes hwrites) (head?_join_of_writes hwrites hempty) hpath
    have hcanonical := (isCanonicalPath_iff _).mpr ⟨texts', hne', rfl⟩
    obtain ⟨q, hq, hqm⟩ := (run_eq_some_iff hm hb hcanonical.1 (octets_of_isCanonicalPath hcanonical) r).mp hrun
    rw [Builder.patterns, Array.getElem?_map, hr] at hq
    obtain rfl := Option.some.inj hq
    have hsame := (hproper.matchesPath_of_literals_iff ht hcanonical).mp hqm
    obtain rfl := (pathOf_inj hne' hne).mp (List.cons.inj hsame).2
    exact hd.elim hdots.1 hdots.2

def menu : Builder Nat :=
  ⟨#[(⟨[.literal "caf%C3%A9"], "/caf%c3%A9"⟩, 1)]⟩

theorem route_spelling_menu : menu.IsMade ∧ ∀ options,
    ∃ router, menu.build options = .ok router ∧ router.route (.text "/c%61f%C3%a9") = some 1 := by
  have hp : Pattern.parse .template "/caf%c3%A9" = .ok ⟨[.literal "caf%C3%A9"], "/caf%c3%A9"⟩ := by decide +kernel
  have hm : menu.IsMade := Builder.IsMade.empty.push hp 1
  refine ⟨hm, fun options => ?_⟩
  obtain ⟨_, hok⟩ := Builder.exists_build_of_size_le_one hm (Nat.le_refl 1) (by decide +kernel) options
  have hc : ∀ conflict, menu.build options ≠ .error (.conflict conflict) := by
    intro conflict h
    rw [hok] at h
    cases h
  have hw : Writes "c%61f%C3%a9".toList (Utf8.encode "caf\u00e9".toList) :=
    .raw (by decide) (.escape (show hexValue? 0x36 = some 6 from rfl) (show hexValue? 0x31 = some 1 from rfl)
      (.raw (by decide) (.escape (show hexValue? 0x43 = some 12 from rfl) (show hexValue? 0x33 = some 3 from rfl)
        (.escape (show hexValue? 0x61 = some 10 from rfl) (show hexValue? 0x39 = some 9 from rfl) .nil))))
  have hd : decode "caf%c3%A9".toList = .ok "caf\u00e9".toList := by decide +kernel
  have hdots : ¬ Pattern.HasDots ⟨[.literal "caf%C3%A9"], "/caf%c3%A9"⟩ := by
    intro h
    cases h with
    | dot h => exact absurd h (by decide)
    | double h => exact absurd h (by decide)
  rcases route_spelling (r := 0) hm hc rfl hp (by decide +kernel) (.cons ⟨_, hd, hw⟩ .nil) with
    ⟨states, hlarge⟩ | ⟨router, hb, hroute, -⟩
  · have he := hlarge.refused
    rw [hok] at he
    cases he
  · exact ⟨router, hb, hroute hdots⟩

def dotted : Builder Nat :=
  ⟨#[(⟨[.literal "."], "/."⟩, 1)]⟩

/-- The text of a pattern that is a dot segment leads to the root. -/
theorem route_dotted_eq_none : Pattern.parse .template "/." = .ok ⟨[.literal "."], "/."⟩ ∧ dotted.IsMade ∧
    dotted.routes[0]? = some (⟨[.literal "."], "/."⟩, 1) ∧ Writes ".".toList (Utf8.encode ".".toList) ∧
    ∃ router, dotted.build ⟨false⟩ = .ok router ∧ router.route (.text "/.") = none := by
  have hp : Pattern.parse .template "/." = .ok ⟨[.literal "."], "/."⟩ := by decide +kernel
  have hm : dotted.IsMade := Builder.IsMade.empty.push hp 1
  obtain ⟨router, hb⟩ := Builder.exists_build_of_size_le_one hm (Nat.le_refl 1) (by decide +kernel) ⟨false⟩
  have hpath : (RouteInput.text "/.").path? = some ['/'] := by decide +kernel
  have hv : ∀ b ∈ Utf8.encode ['/'], isPathOctet b = true := List.all_eq_true.mp (by decide +kernel)
  refine ⟨hp, hm, rfl, .raw (by decide) .nil, router, hb, ?_⟩
  have hrun : router.engine.run (Utf8.encode ['/']) = none := by
    refine Option.eq_none_iff_forall_ne_some.mpr fun r hr => ?_
    obtain ⟨q, hq, hqm⟩ := (run_eq_some_iff hm hb rfl hv r).mp hr
    have hpatterns : dotted.patterns.toList = [⟨[.literal "."], "/."⟩] := by simp [dotted, Builder.patterns]
    have hmem := Array.mem_toList_iff.mpr (Array.mem_of_getElem? hq)
    rw [hpatterns, List.mem_singleton] at hmem
    rw [hmem] at hqm
    cases hqm
  rw [route, find?_eq_bind, hpath, Option.bind_some, lookup?, hrun]
  rfl

end Router

end PathRouter
