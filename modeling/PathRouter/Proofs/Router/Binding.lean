import PathRouter.Proofs.Router.Exactness
import PathRouter.Proofs.Router.Variables

/-! What the variables of a route are bound to. The parts that the automaton has read are the parts that are
bound, so the bindings say again which path it was. -/

namespace PathRouter

open Automaton Percent

def Segment.fill (bound : Variables) : Segment → List (List Char)
  | .literal text => [text.toList]
  | .var name _ =>
    match bound.get? name with
    | some (.one text) => [encode text.toList]
    | some (.many texts) => texts.map fun text => encode text.toList
    | none => []

/-- Whether the variable of a segment at a place is bound to what the parts of a path spell there. -/
def Segment.IsBound (parts : List (List Char)) (i : Nat) (bound : Variables) : Segment → Prop
  | .literal _ => True
  | .var name none => ∃ part text, parts[i]? = some part ∧ decode part = .ok text ∧ text ≠ [] ∧
    bound.get? name = some (.one (String.ofList text))
  | .var name (some quantifier) => ∃ texts,
    List.Forall₂ (fun part text => decode part = .ok text) (parts.drop i) texts ∧ (∀ text ∈ texts, text ≠ []) ∧
    (texts = [] ↔ quantifier = .star ∧ parts.length ≤ i) ∧
    bound.get? name = some (.many (texts.map String.ofList))

namespace Pattern

def names (p : Pattern) : List String :=
  p.segments.filterMap Segment.name?

def fill (p : Pattern) (bound : Variables) : List Char :=
  '/' :: Pieces.join '/' (p.segments.flatMap (·.fill bound))

end Pattern

namespace Segment

lemma flatMap_fill {segments : List Segment} (hq : ∀ segment ∈ segments.dropLast, segment.isQuantified = false)
    {parts : List (List Char)} (ht : TakesAll segments parts) {bound : Variables}
    (hf : ∀ (k : Nat) (segment : Segment), segments[k]? = some segment →
      segment.fill bound = if segment.isQuantified then parts.drop k else (parts.drop k).take 1) :
    segments.flatMap (·.fill bound) = parts := by
  induction segments generalizing parts with
  | nil => exact (List.length_eq_zero_iff.mp (Nat.le_zero.mp (ht.2.resolve_right Bool.false_ne_true))).symm
  | cons segment others ih =>
    obtain ⟨hlast, hq⟩ := quantified_last_cons hq
    rw [List.flatMap_cons, hf 0 segment rfl]
    cases hs : segment.isQuantified with
    | true =>
      obtain rfl := hlast hs
      rw [if_pos rfl, List.flatMap_nil, List.append_nil, List.drop_zero]
    | false =>
      cases parts with
      | nil => exact absurd (ht.1 0 segment rfl) (not_takes_nil hs)
      | cons part parts =>
        have hrest := ih hq ((takesAll_cons hs others part parts).mp ht).2 fun k s hk => hf (k + 1) s hk
        rw [hrest]
        rfl

lemma fill_of_isBound {segment : Segment} {parts : List (List Char)} {k : Nat} {bound : Variables}
    (hp : ∀ part ∈ parts, ∀ text, decode part = .ok text → encode text = part) (ht : segment.Takes (parts.drop k))
    (hb : segment.IsBound parts k bound) :
    segment.fill bound = if segment.isQuantified then parts.drop k else (parts.drop k).take 1 := by
  have hmany : ∀ {rest texts : List (List Char)}, (∀ part ∈ rest, part ∈ parts) →
      List.Forall₂ (fun part text => decode part = .ok text) rest texts → texts.map encode = rest := by
    intro rest texts hrest hf
    induction hf with
    | nil => rfl
    | cons hd _ ih =>
      obtain ⟨hm, hrest⟩ := List.forall_mem_cons.mp hrest
      rw [List.map_cons, ih hrest, hp _ hm _ hd]
  match segment with
  | .literal text =>
    have hhead : (parts.drop k).head? = some text.toList := ht
    obtain ⟨rest, hrest⟩ := List.head?_eq_some_iff.mp hhead
    rw [hrest]
    rfl
  | .var name none =>
    obtain ⟨part, text, hk, hd, -, hg⟩ := hb
    have hhead : (parts.drop k).head? = some part := by rw [List.head?_drop, hk]
    obtain ⟨rest, hrest⟩ := List.head?_eq_some_iff.mp hhead
    have he := hp part (List.mem_of_getElem? hk) text hd
    simp [fill, hg, hrest, he, isQuantified]
  | .var name (some quantifier) =>
    obtain ⟨texts, hf, -, -, hg⟩ := hb
    have he := hmany (fun part hm => List.mem_of_mem_drop hm) hf
    simpa [fill, hg, isQuantified, Function.comp_def] using he

end Segment

namespace Router

variable {α : Type} {builder : Builder α} {options : BuildOptions} {router : Router α}

lemma exists_texts {path : List Char} (h : IsCanonicalPath path) :
    ∃ texts : List (List Char), Pattern.parts? path = some (texts.map encode) ∧ path = '/' :: pathOf texts ∧
      (∀ i, segmentTexts path (1 + i) = (texts.drop i).map String.ofList) ∧
      ∀ i text, texts[i]? = some text → segmentText path (1 + i) = String.ofList text := by
  obtain ⟨texts, hne, rfl⟩ := (isCanonicalPath_iff path).mp h
  by_cases hroot : pathOf texts = []
  · rw [hroot]
    exact ⟨[], rfl, rfl, fun i => by rw [segmentTexts, if_pos rfl, List.drop_nil, List.map_nil],
      fun i text ht => (by cases ht)⟩
  · have hcut : Pieces.cut '/' ('/' :: pathOf texts) = [] :: texts.map encode := by
      rw [Pieces.cut_cons_separator, cut_pathOf hne]
    have hread : ∀ text : List Char, String.ofList (decodeLenient (encode text)) = String.ofList text := fun text => by
      rw [decodeLenient_encode]
    refine ⟨texts, ?_, rfl, fun i => ?_, fun i text ht => ?_⟩
    · exact Pattern.parts?_pathOf hne hroot
    · rw [segmentTexts, if_neg (fun he => hroot (List.cons.inj he).2), hcut, Nat.add_comm, List.drop_succ_cons,
        ← List.map_drop, List.map_map]
      exact List.map_congr_left fun text _ => hread text
    · rw [segmentText, hcut, Nat.add_comm, List.getElem?_cons_succ, List.getElem?_map, ht]
      exact hread text

lemma head?_of_pathname? {input : RouteInput} {path : List Char} (h : input.pathname? = some path) :
    path.head? = some '/' := by
  unfold RouteInput.pathname? at h
  exact of_decide_eq_true (Option.filter_eq_some_iff.mp h).2

lemma isCanonicalPath_of_normalizePath {pathname path : List Char} (hs : pathname.head? = some '/')
    (h : normalizePath pathname = some path) : IsCanonicalPath path := by
  obtain ⟨body, texts, -, hne, -, hp⟩ := normalizePath_absolute hs h
  exact (isCanonicalPath_iff path).mpr ⟨texts, hne, hp⟩

lemma find?_eq_some {input : RouteInput} {path : List Char} {entry : RouteEntry α}
    (h : router.find? input = some (path, entry)) :
    input.pathname?.bind normalizePath = some path ∧ IsCanonicalPath path ∧
      ∃ r, router.engine.run (Utf8.encode path) = some r ∧ router.routes[r]? = some entry := by
  rw [find?] at h
  obtain ⟨pathname, hpathname, h⟩ := Option.bind_eq_some_iff.mp h
  obtain ⟨path', hpath, h⟩ := Option.bind_eq_some_iff.mp h
  obtain ⟨r, hr, h⟩ := Option.bind_eq_some_iff.mp h
  obtain ⟨entry', he, h⟩ := Option.bind_eq_some_iff.mp h
  obtain ⟨rfl, rfl⟩ := Prod.mk.inj (Option.some.inj h)
  refine ⟨?_, isCanonicalPath_of_normalizePath (head?_of_pathname? hpathname) hpath, r, hr, he⟩
  rw [hpathname, Option.bind_some, hpath]

lemma layout_eq (p : Pattern) :
    Builder.layout p = if p.hasVariables then some (p.segments.map slot?) else none := by
  rw [Builder.layout]
  split
  · exact congrArg some (List.map_congr_left fun segment _ => by cases segment <;> rfl)
  · rfl

lemma bind_of_literals (path : List Char) (bound : Variables) (index : Nat) {segments : List Segment}
    (h : segments.any Segment.isVariable = false) : bind path bound index (segments.map slot?) = bound := by
  induction segments generalizing index with
  | nil => rfl
  | cons segment rest ih =>
    rw [List.any_cons, Bool.or_eq_false_iff] at h
    cases segment with
    | literal text => exact ih (index + 1) h.2
    | var name quantifier => cases h.1

lemma bind_of_layout (p : Pattern) (path : List Char) (bound : Variables) :
    (match Builder.layout p with
      | none => bound
      | some layout => bind path bound 1 layout) = bind path bound 1 (p.segments.map slot?) := by
  rw [layout_eq]
  cases h : p.hasVariables with
  | false => exact (bind_of_literals path bound 1 h).symm
  | true => rfl

lemma isBound_of_get? {segments : List Segment} {texts : List (List Char)} {path : List Char} {after : Variables}
    (ht : Segment.TakesAll segments (texts.map encode))
    (hmany : ∀ i, segmentTexts path (1 + i) = (texts.drop i).map String.ofList)
    (hone : ∀ i text, texts[i]? = some text → segmentText path (1 + i) = String.ofList text)
    (hget : ∀ (k : Nat) (name : String) (quantifier : Option Quantifier), segments[k]? = some (.var name quantifier) →
      after.get? name = some (bindingAt path ⟨name, quantifier.isSome⟩ (1 + k)))
    {k : Nat} {segment : Segment} (hs : segments[k]? = some segment) :
    segment.IsBound (texts.map encode) k after := by
  have htakes := ht.1 k segment hs
  match segment with
  | .literal text => trivial
  | .var name none =>
    obtain ⟨part, hpart, hne⟩ := htakes
    rw [List.head?_drop, List.getElem?_map] at hpart
    obtain ⟨text, htext, rfl⟩ := Option.map_eq_some_iff.mp hpart
    refine ⟨encode text, text, ?_, decode_encode text, fun h => hne ((encode_eq_nil_iff text).mpr h), ?_⟩
    · rw [List.getElem?_map, htext, Option.map_some]
    · rw [hget k name none hs, ← hone k text htext]
      rfl
  | .var name (some quantifier) =>
    have hbound : after.get? name = some (.many ((texts.drop k).map String.ofList)) := by
      rw [hget k name (some quantifier) hs, ← hmany k]
      rfl
    rw [← List.map_drop] at htakes
    refine ⟨texts.drop k, ?_, ?_, ?_, hbound⟩
    · rw [← List.map_drop]
      exact forall₂_decode_encode _
    · have hne : ∀ part ∈ (texts.drop k).map encode, part ≠ [] := by
        cases quantifier with
        | plus => exact htakes.2
        | star => exact htakes
      exact fun text hm h => hne _ (List.mem_map_of_mem hm) ((encode_eq_nil_iff text).mpr h)
    · rw [List.length_map, ← List.drop_eq_nil_iff]
      cases quantifier with
      | plus => exact iff_of_false (fun h => htakes.1 (by rw [h, List.map_nil])) fun h => (by cases h.1)
      | star => exact ⟨fun h => ⟨rfl, h⟩, fun h => h.2⟩

lemma bind_spec {p : Pattern} (hp : p.Proper) {path : List Char} (hc : IsCanonicalPath path)
    (hm : p.matchesPath path = true) (bound : Variables) :
    ∃ parts, Pattern.parts? path = some parts ∧
      (∀ (k : Nat) (segment : Segment), p.segments[k]? = some segment →
        segment.IsBound parts k (bind path bound 1 (p.segments.map slot?))) ∧
      p.fill (bind path bound 1 (p.segments.map slot?)) = path := by
  obtain ⟨texts, hparts, hpath, hmany, hone⟩ := exists_texts hc
  refine ⟨texts.map encode, hparts, ?_⟩
  by_cases hr : p.IsRoot
  · have hroot := (hr.matchesPath_iff path).mp hm
    rw [Pattern.IsRoot] at hr
    rw [hr, Pattern.fill, hr, hroot]
    refine ⟨fun k segment hs => ?_, rfl⟩
    obtain rfl := List.mem_singleton.mp (List.mem_of_getElem? hs)
    trivial
  · obtain ⟨parts, hparts', ht⟩ := (hp.matchesPath_iff hr path).mp hm
    obtain rfl := Option.some.inj (hparts.symm.trans hparts')
    have hbound : ∀ (k : Nat) (segment : Segment), p.segments[k]? = some segment →
        segment.IsBound (texts.map encode) k (bind path bound 1 (p.segments.map slot?)) := fun k segment hs =>
      isBound_of_get? ht hmany hone (fun _ _ _ hs => get?_bind 1 hp.names_nodup hs) hs
    refine ⟨hbound, ?_⟩
    have hspell : ∀ part ∈ texts.map encode, ∀ text, decode part = .ok text → encode text = part := by
      intro part hmem text hd
      obtain ⟨text', -, rfl⟩ := List.mem_map.mp hmem
      obtain rfl := Except.ok.inj ((decode_encode text').symm.trans hd)
      rfl
    rw [Pattern.fill, Segment.flatMap_fill hp.quantified_last ht fun k segment hs =>
      Segment.fill_of_isBound hspell (ht.1 k segment hs) (hbound k segment hs)]
    exact hpath.symm

theorem routeWith_exact (hm : builder.IsMade) (hb : builder.build options = .ok router) (input : RouteInput)
    (bound : Variables) :
    (∀ after, router.routeWith input bound = (none, after) → after = bound) ∧
    ∀ value after, router.routeWith input bound = (some value, after) →
      ∃ (path : List Char) (parts : List (List Char)) (r : Nat) (p : Pattern),
        input.pathname?.bind normalizePath = some path ∧ Pattern.parts? path = some parts ∧
        router.engine.run (Utf8.encode path) = some r ∧ builder.routes[r]? = some (p, value) ∧
        p.matchesPath path = true ∧ p.names.Nodup ∧
        (∀ (k : Nat) (segment : Segment), p.segments[k]? = some segment → segment.IsBound parts k after) ∧
        (∀ name, name ∉ p.names → after.get? name = bound.get? name) ∧
        p.fill after = path := by
  rw [routeWith]
  cases hf : router.find? input with
  | none =>
    refine ⟨fun after h => (Prod.mk.inj h).2.symm, fun value after h => ?_⟩
    cases (Prod.mk.inj h).1
  | some found =>
    obtain ⟨path, entry⟩ := found
    refine ⟨fun after h => (by cases (Prod.mk.inj h).1), fun value after h => ?_⟩
    obtain ⟨hvalue, hafter⟩ := Prod.mk.inj h
    obtain ⟨hpath, hc, r, hr, hentry⟩ := find?_eq_some hf
    obtain ⟨-, -, -, hroutes⟩ := Builder.exists_of_build_eq_ok hb
    rw [hroutes, Array.getElem?_map] at hentry
    obtain ⟨⟨p, v⟩, hp, rfl⟩ := Option.map_eq_some_iff.mp hentry
    obtain rfl := Option.some.inj hvalue
    have hpattern : builder.patterns[r]? = some p := by rw [Builder.patterns, Array.getElem?_map, hp]; rfl
    have hproper := hm.proper p (Array.mem_toList_iff.mpr (Array.mem_of_getElem? hpattern))
    have hmatch : p.matchesPath path = true := by
      obtain ⟨q, hq, hqm⟩ := (run_eq_some_iff hm hb hc.1 (octets_of_isCanonicalPath hc) r).mp hr
      obtain rfl := Option.some.inj (hpattern.symm.trans hq)
      exact hqm
    have hafter : bind path bound 1 (p.segments.map slot?) = after := (bind_of_layout p path bound).symm.trans hafter
    obtain ⟨parts, hparts, hbound, hfill⟩ := bind_spec hproper hc hmatch bound
    rw [← hafter]
    exact ⟨path, parts, r, p, hpath, hparts, hr, hp, hmatch, hproper.names_nodup, hbound,
      fun name hn => get?_bind_of_not_mem 1 hn, hfill⟩

theorem routeWith_exact_files :
    files.IsMade ∧ ∀ options, ∃ router after, files.build options = .ok router ∧
      router.routeWith (.text "/files/a%20b/c") Variables.empty = (some 2, after) ∧
      after.get? "rest" = some (.many ["a b", "c"]) ∧ after.get? "other" = none := by
  refine ⟨files_isMade, fun options => ?_⟩
  obtain ⟨router, hb⟩ := exists_build_files options
  obtain ⟨-, -, -, hroutes⟩ := Builder.exists_of_build_eq_ok hb
  have hinput : (RouteInput.text "/files/a%20b/c").pathname? = some "/files/a%20b/c".toList := by decide +kernel
  have hnormal : normalizePath "/files/a%20b/c".toList = some "/files/a%20b/c".toList := by decide +kernel
  have hrun : router.engine.run (Utf8.encode "/files/a%20b/c".toList) = some 1 :=
    (run_eq_some_iff files_isMade hb rfl (by decide +kernel) 1).mpr
      ⟨⟨[.literal "files", .var "rest" (some .star)], "/files/{rest}*"⟩, by simp [files, Builder.patterns],
        by decide +kernel⟩
  obtain ⟨layout, hentry⟩ : ∃ layout, router.routes[1]? = some ⟨2, layout⟩ := by simp [hroutes, files]
  have hvalue : (router.routeWith (.text "/files/a%20b/c") Variables.empty).1 = some 2 := by
    simp only [routeWith, find?, hinput, hnormal, hrun, hentry, Option.bind_eq_bind, Option.bind_some]
  obtain ⟨path, parts, r, p, hpath, hparts, hr, hp, -, -, hbound, hother, -⟩ :=
    (routeWith_exact files_isMade hb (.text "/files/a%20b/c") Variables.empty).2 2
      (router.routeWith (.text "/files/a%20b/c") Variables.empty).2 (Prod.ext hvalue rfl)
  rw [hinput, Option.bind_some, hnormal] at hpath
  obtain rfl := Option.some.inj hpath
  obtain rfl := Option.some.inj (hrun.symm.trans hr)
  have hsegments : p.segments = [.literal "files", .var "rest" (some .star)] := by
    simpa [files] using (congrArg (Option.map fun route => route.1.segments) hp).symm
  have hcut : Pattern.parts? "/files/a%20b/c".toList = some ["files".toList, "a%20b".toList, "c".toList] := by
    decide +kernel
  obtain rfl := Option.some.inj (hcut.symm.trans hparts)
  have hrest := hbound 1 (.var "rest" (some .star)) (by rw [hsegments]; rfl)
  obtain ⟨texts, htexts, -, -, hget⟩ := hrest
  have hdecoded : List.Forall₂ (fun part text => decode part = .ok text) ["a%20b".toList, "c".toList]
      ["a b".toList, "c".toList] := .cons (by decide +kernel) (.cons (by decide +kernel) .nil)
  obtain rfl := List.right_unique_forall₂' (fun _ _ _ hd hd' => Except.ok.inj (hd.symm.trans hd')) htexts hdecoded
  refine ⟨router, _, hb, Prod.ext hvalue rfl, hget, ?_⟩
  exact hother "other" (by simp [Pattern.names, hsegments, Segment.name?])

end Router

end PathRouter
