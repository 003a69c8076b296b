import PathRouter.Proofs.Router.Binding
import PathRouter.Proofs.Router.PlainPath

/-! The path that a pattern stands for when its variables are assigned leads back to the pattern's route, and
binds what was assigned. -/

namespace PathRouter

open Automaton Percent Url

def Segment.IsAssigned (assignment : Variables) : Segment → Prop
  | .literal _ => True
  | .var name none => ∃ text, assignment.get? name = some (.one text) ∧ text ≠ ""
  | .var name (some quantifier) => ∃ texts, assignment.get? name = some (.many texts) ∧ (∀ text ∈ texts, text ≠ "") ∧
    (quantifier = .plus → texts ≠ [])

namespace Segment

variable {assignment : Variables} {segment : Segment} {segments : List Segment}

lemma toList_ne_nil {text : String} (h : text ≠ "") : text.toList ≠ [] :=
  fun hn => h (String.toList_inj.mp hn)

lemma exists_texts_of_isAssigned (hs : segment.IsSpelled) (ha : segment.IsAssigned assignment) :
    ∃ texts : List (List Char), segment.fill assignment = texts.map encode ∧ (∀ text ∈ texts, text ≠ []) ∧
      (segment.isQuantified = false → texts.length = 1) := by
  match segment with
  | .literal text =>
    obtain ⟨data, hne, he⟩ := hs
    exact ⟨[data], by rw [fill, he]; rfl, by simpa using hne, fun _ => rfl⟩
  | .var name none =>
    obtain ⟨text, hget, hne⟩ := ha
    exact ⟨[text.toList], by simp [fill, hget], by simpa using hne, fun _ => rfl⟩
  | .var name (some quantifier) =>
    obtain ⟨texts, hget, hne, -⟩ := ha
    refine ⟨texts.map String.toList, by simp [fill, hget], ?_, fun hq => (by cases hq)⟩
    exact List.forall_mem_map.mpr fun text ht => toList_ne_nil (hne text ht)

lemma exists_fill_eq_singleton (hs : segment.IsSpelled) (ha : segment.IsAssigned assignment)
    (hq : segment.isQuantified = false) : ∃ part, segment.fill assignment = [part] ∧ part ≠ [] := by
  obtain ⟨texts, hfill, hne, hlength⟩ := exists_texts_of_isAssigned hs ha
  obtain ⟨text, rfl⟩ := List.length_eq_one_iff.mp (hlength hq)
  exact ⟨encode text, hfill, fun h => hne text List.mem_cons_self ((encode_eq_nil_iff text).mp h)⟩

lemma exists_texts_of_forall_isAssigned (hs : ∀ segment ∈ segments, segment.IsSpelled)
    (ha : ∀ segment ∈ segments, segment.IsAssigned assignment) :
    ∃ texts : List (List Char), segments.flatMap (·.fill assignment) = texts.map encode ∧
      ∀ text ∈ texts, text ≠ [] := by
  induction segments with
  | nil => exact ⟨[], rfl, fun text h => (by cases h)⟩
  | cons segment others ih =>
    obtain ⟨hs, hsothers⟩ := List.forall_mem_cons.mp hs
    obtain ⟨ha, haothers⟩ := List.forall_mem_cons.mp ha
    obtain ⟨texts, hfill, hne, -⟩ := exists_texts_of_isAssigned hs ha
    obtain ⟨rest, hrest, hnerest⟩ := ih hsothers haothers
    exact ⟨texts ++ rest, by rw [List.flatMap_cons, hfill, hrest, List.map_append],
      List.forall_mem_append.mpr ⟨hne, hnerest⟩⟩

lemma takes_fill_append (hs : segment.IsSpelled) (ha : segment.IsAssigned assignment) {rest : List (List Char)}
    (hrest : segment.isQuantified = true → rest = []) : segment.Takes (segment.fill assignment ++ rest) := by
  match segment with
  | .literal text => rfl
  | .var name none =>
    obtain ⟨part, hfill, hne⟩ := exists_fill_eq_singleton hs ha rfl
    rw [hfill]
    exact ⟨part, rfl, hne⟩
  | .var name (some quantifier) =>
    obtain ⟨texts, hget, hne, hplus⟩ := ha
    have hparts : ∀ part ∈ texts.map fun text => encode text.toList, part ≠ [] := by
      refine List.forall_mem_map.mpr fun text ht h => ?_
      exact toList_ne_nil (hne text ht) ((encode_eq_nil_iff _).mp h)
    rw [hrest rfl, List.append_nil, fill, hget]
    cases quantifier with
    | plus => exact ⟨fun h => hplus rfl (List.map_eq_nil_iff.mp h), hparts⟩
    | star => exact hparts

lemma takesAll_flatMap_fill (hq : ∀ segment ∈ segments.dropLast, segment.isQuantified = false)
    (hs : ∀ segment ∈ segments, segment.IsSpelled) (ha : ∀ segment ∈ segments, segment.IsAssigned assignment) :
    TakesAll segments (segments.flatMap (·.fill assignment)) := by
  induction segments with
  | nil => exact ⟨fun k segment hs => (by cases hs), .inl (Nat.le_refl 0)⟩
  | cons segment others ih =>
    obtain ⟨hlast, hq⟩ := quantified_last_cons hq
    obtain ⟨hs, hsothers⟩ := List.forall_mem_cons.mp hs
    obtain ⟨ha, haothers⟩ := List.forall_mem_cons.mp ha
    have hrest : segment.isQuantified = true → others.flatMap (·.fill assignment) = [] := by
      intro h
      rw [hlast h]
      rfl
    have htakes := takes_fill_append hs ha hrest
    rw [List.flatMap_cons]
    cases h : segment.isQuantified with
    | true =>
      obtain rfl := hlast h
      exact (takesAll_of_isQuantified h _).mpr htakes
    | false =>
      obtain ⟨part, hfill, -⟩ := exists_fill_eq_singleton hs ha h
      rw [hfill] at htakes ⊢
      exact (takesAll_cons h others part _).mpr ⟨htakes, ih hq hsothers haothers⟩

lemma fill_eq_of_getElem? (hq : ∀ segment ∈ segments.dropLast, segment.isQuantified = false)
    (hs : ∀ segment ∈ segments, segment.IsSpelled) (ha : ∀ segment ∈ segments, segment.IsAssigned assignment)
    {k : Nat} (hk : segments[k]? = some segment) :
    segment.fill assignment =
      if segment.isQuantified then (segments.flatMap (·.fill assignment)).drop k
      else ((segments.flatMap (·.fill assignment)).drop k).take 1 := by
  induction segments generalizing k with
  | nil => cases hk
  | cons first others ih =>
    obtain ⟨hlast, hq⟩ := quantified_last_cons hq
    obtain ⟨hs, hsothers⟩ := List.forall_mem_cons.mp hs
    obtain ⟨ha, haothers⟩ := List.forall_mem_cons.mp ha
    rw [List.flatMap_cons]
    cases h : first.isQuantified with
    | true =>
      -- Nothing follows it, so it fills all the parts that are left.
      obtain rfl := hlast h
      obtain ⟨rfl, rfl⟩ : k = 0 ∧ first = segment := by
        cases k with
        | zero => exact ⟨rfl, Option.some.inj hk⟩
        | succ k => cases hk
      rw [if_pos h, List.flatMap_nil, List.append_nil, List.drop_zero]
    | false =>
      obtain ⟨part, hfill, -⟩ := exists_fill_eq_singleton hs ha h
      cases k with
      | zero =>
        obtain rfl := Option.some.inj hk
        rw [h, hfill]
        rfl
      | succ k =>
        rw [hfill, List.singleton_append, List.drop_succ_cons]
        exact ih hq hsothers haothers hk

end Segment

namespace RouteInput

lemma pathname?_of_isCanonicalPath {path : List Char} (hc : IsCanonicalPath path) (hs : path[1]? ≠ some '/')
    (hd : ∀ piece ∈ Pieces.cut '/' path, piece ≠ ['.'] ∧ piece ≠ ['.', '.']) :
    (RouteInput.text (String.ofList path)).pathname? = some path := by
  have hlist : (String.ofList path).toList = path := String.toList_ofList
  cases hplain : isPlainPath path with
  | true => rw [pathname?_of_isPlainPath (hlist.symm ▸ hplain), hlist]
  | false =>
    obtain ⟨texts, hne, rfl⟩ := (isCanonicalPath_iff path).mp hc
    have hdots : ∀ piece ∈ Pieces.cut '/' (pathOf texts), Path.isDot (Path.escape piece) = false ∧
        Path.isDoubleDot (Path.escape piece) = false := by
      intro piece hp
      have hpiece := hd piece (by rw [Pieces.cut_cons_separator]; exact List.mem_cons_of_mem _ hp)
      rw [cut_pathOf hne] at hp
      obtain ⟨text, -, rfl⟩ := List.mem_map.mp hp
      exact Path.not_dots_encode hpiece
    have hhead : (pathOf texts).head? ≠ some '/' := by rwa [List.getElem?_cons_succ, ← List.head?_eq_getElem?] at hs
    have htail : IsTail [] := fun c hc => (by cases hc)
    have hparse := parse?_reference (fun c hc => Path.pathOf_isPathChar hc) htail hdots hhead site
    rw [List.append_nil, Path.escapeAll_pathOf hne] at hparse
    exact pathname?_of_not_isPlainPath (hlist.symm ▸ hplain) (hlist.symm ▸ hparse) rfl

end RouteInput

namespace Pattern

variable {p : Pattern} {assignment : Variables}

lemma mem_names_iff (p : Pattern) (name : String) :
    name ∈ p.names ↔ ∃ (k : Nat) (quantifier : Option Quantifier), p.segments[k]? = some (.var name quantifier) := by
  rw [names, List.mem_filterMap]
  constructor
  · rintro ⟨segment, hs, hn⟩
    obtain ⟨k, hk⟩ := List.mem_iff_getElem?.mp hs
    cases segment with
    | literal text => cases hn
    | var other quantifier =>
      obtain rfl := Option.some.inj hn
      exact ⟨k, quantifier, hk⟩
  · rintro ⟨k, quantifier, hk⟩
    exact ⟨_, List.mem_of_getElem? hk, rfl⟩

lemma exists_texts_fill (hp : p.Proper) (ha : ∀ segment ∈ p.segments, segment.IsAssigned assignment) :
    ∃ texts, p.fill assignment = '/' :: pathOf texts ∧ (∀ text ∈ texts, text ≠ []) ∧
      (¬ p.IsRoot → p.segments.flatMap (·.fill assignment) = texts.map encode) := by
  by_cases hr : p.IsRoot
  · refine ⟨[], ?_, fun text h => (by cases h), absurd hr⟩
    rw [IsRoot] at hr
    rw [fill, hr]
    rfl
  · obtain ⟨texts, hfill, hne⟩ := Segment.exists_texts_of_forall_isAssigned (hp.spelled.resolve_left hr) ha
    exact ⟨texts, by rw [fill, hfill]; rfl, hne, fun _ => hfill⟩

lemma isCanonicalPath_fill (hp : p.Proper) (ha : ∀ segment ∈ p.segments, segment.IsAssigned assignment) :
    IsCanonicalPath (p.fill assignment) ∧ (p.fill assignment)[1]? ≠ some '/' := by
  obtain ⟨texts, hfill, hne, -⟩ := exists_texts_fill hp ha
  rw [hfill]
  refine ⟨(isCanonicalPath_iff _).mpr ?_, ?_⟩
  · cases texts with
    | nil => exact ⟨[[]], List.cons_ne_nil _ _, rfl⟩
    | cons text rest => exact ⟨text :: rest, List.cons_ne_nil _ _, rfl⟩
  · rw [List.getElem?_cons_succ, ← List.head?_eq_getElem?]
    exact head?_pathOf hne

lemma parts?_fill (hp : p.Proper) (hr : ¬ p.IsRoot) (ha : ∀ segment ∈ p.segments, segment.IsAssigned assignment) :
    parts? (p.fill assignment) = some (p.segments.flatMap (·.fill assignment)) := by
  obtain ⟨texts, hfill, hne, hparts⟩ := exists_texts_fill hp ha
  rw [hfill, hparts hr]
  by_cases hnil : texts = []
  · rw [hnil]
    rfl
  · exact parts?_pathOf hnil (pathOf_ne_nil hnil hne)

lemma matchesPath_fill (hp : p.Proper) (ha : ∀ segment ∈ p.segments, segment.IsAssigned assignment) :
    p.matchesPath (p.fill assignment) = true := by
  by_cases hr : p.IsRoot
  · rw [hr.matchesPath_iff]
    rw [IsRoot] at hr
    rw [fill, hr]
    rfl
  · refine (hp.matchesPath_iff hr _).mpr ⟨_, parts?_fill hp hr ha, ?_⟩
    exact Segment.takesAll_flatMap_fill hp.quantified_last (hp.spelled.resolve_left hr) ha

lemma get?_eq_of_isBound {parts : List (List Char)} {k : Nat} {name : String} {quantifier : Option Quantifier}
    {after : Variables} (ha : (Segment.var name quantifier).IsAssigned assignment)
    (hfill : (Segment.var name quantifier).fill assignment =
      if (Segment.var name quantifier).isQuantified then parts.drop k else (parts.drop k).take 1)
    (hb : (Segment.var name quantifier).IsBound parts k after) : after.get? name = assignment.get? name := by
  match quantifier with
  | none =>
    obtain ⟨text, hget, -⟩ := ha
    obtain ⟨part, read, hpart, hdecode, -, hbound⟩ := hb
    have hhead : ((parts.drop k).take 1)[0]? = some part := by simp [hpart]
    have hpart : part = encode text.toList := by
      have hsingle : [encode text.toList] = (parts.drop k).take 1 := by
        simpa [Segment.fill, hget, Segment.isQuantified] using hfill
      rw [← hsingle] at hhead
      exact (Option.some.inj hhead).symm
    rw [hpart, decode_encode] at hdecode
    rw [hbound, hget, ← Except.ok.inj hdecode, String.ofList_toList]
  | some quantifier =>
    obtain ⟨texts, hget, -⟩ := ha
    obtain ⟨read, hdecode, -, -, hbound⟩ := hb
    have hparts : parts.drop k = (texts.map String.toList).map encode := by
      simpa [Segment.fill, hget, Segment.isQuantified, Function.comp_def] using hfill.symm
    rw [hparts] at hdecode
    obtain rfl := List.right_unique_forall₂' (fun _ _ _ hd hd' => Except.ok.inj (hd.symm.trans hd')) hdecode
      (forall₂_decode_encode _)
    rw [hbound, hget, List.map_map]
    simp [Function.comp_def]

end Pattern

/-- How a builder is refused for want of room: its automaton has more states, routes or entries than the tables of the
layout can count, and the error names just these states and routes. -/
structure Builder.IsTooLarge {α : Type} (builder : Builder α) (options : BuildOptions) (states : Array State) :
    Prop where
  automaton : Automaton.build builder.patterns = .ok states
  exceeds : ¬ Engine.Holds states builder.routes.size options.compress
  large : Table.maxPacked < max (pathOctets.length * states.size) builder.routes.size
  refused : builder.build options = .error (.capacity ⟨states.size, builder.routes.size⟩)

namespace Router

variable {α : Type} {builder : Builder α} {options : BuildOptions} {router : Router α} {assignment : Variables}

lemma isCanonicalPath_of_path? {input : RouteInput} {path : List Char} (h : input.path? = some path) :
    IsCanonicalPath path := by
  obtain ⟨pathname, hpathname, hpath⟩ := Option.bind_eq_some_iff.mp h
  exact isCanonicalPath_of_normalizePath (head?_of_pathname? hpathname) hpath

lemma lookup?_of_matchesPath (hm : builder.IsMade) (hb : builder.build options = .ok router) {path : List Char}
    (hc : IsCanonicalPath path) {r : Nat} {p : Pattern} {value : α} (hr : builder.routes[r]? = some (p, value))
    (hp : p.matchesPath path = true) : router.lookup? path = some ⟨value, Builder.layout p⟩ := by
  have hrun := (run_eq_some_iff hm hb hc.1 (octets_of_isCanonicalPath hc) r).mpr
    ⟨p, Builder.getElem?_patterns hr, hp⟩
  obtain ⟨-, -, -, hroutes⟩ := Builder.exists_of_build_eq_ok hb
  rw [lookup?, hrun, Option.bind_some, hroutes, Array.getElem?_map, hr]
  rfl

lemma lookup?_value_eq_some_iff (hm : builder.IsMade) (hb : builder.build options = .ok router) {path : List Char}
    (hc : IsCanonicalPath path) (value : α) : (router.lookup? path).map (·.value) = some value ↔
      ∃ p, (p, value) ∈ builder.routes.toList ∧ p.matchesPath path = true := by
  constructor
  · intro h
    obtain ⟨entry, he, rfl⟩ := Option.map_eq_some_iff.mp h
    obtain ⟨r, hrun, hentry⟩ := Option.bind_eq_some_iff.mp he
    obtain ⟨-, -, -, hroutes⟩ := Builder.exists_of_build_eq_ok hb
    rw [hroutes, Array.getElem?_map] at hentry
    obtain ⟨⟨p, value⟩, hr, rfl⟩ := Option.map_eq_some_iff.mp hentry
    obtain ⟨q, hq, hmatch⟩ := (run_eq_some_iff hm hb hc.1 (octets_of_isCanonicalPath hc) r).mp hrun
    rw [Builder.getElem?_patterns hr] at hq
    obtain rfl := Option.some.inj hq
    exact ⟨p, Array.mem_toList_iff.mpr (Array.mem_of_getElem? hr), hmatch⟩
  · rintro ⟨p, hp, hmatch⟩
    obtain ⟨r, hr⟩ := Array.mem_iff_getElem?.mp (Array.mem_toList_iff.mp hp)
    rw [lookup?_of_matchesPath hm hb hc hr hmatch]
    rfl

lemma bind_getD_layout (p : Pattern) (path : List Char) (bound : Variables) :
    bind path bound 1 ((Builder.layout p).getD []) = bind path bound 1 (p.segments.map slot?) := by
  rw [← bind_of_layout]
  cases Builder.layout p <;> rfl

lemma get?_bind_fill {p : Pattern} (hp : p.Proper) (ha : ∀ segment ∈ p.segments, segment.IsAssigned assignment)
    (bound : Variables) (name : String) :
    (bind (p.fill assignment) bound 1 (p.segments.map slot?)).get? name =
      if name ∈ p.names then assignment.get? name else bound.get? name := by
  by_cases hname : name ∈ p.names
  · rw [if_pos hname]
    obtain ⟨k, quantifier, hk⟩ := (p.mem_names_iff name).mp hname
    have hr : ¬ p.IsRoot := by
      intro hr
      rw [Pattern.IsRoot] at hr
      rw [hr] at hk
      cases List.mem_singleton.mp (List.mem_of_getElem? hk)
    -- What is bound decodes the parts of the path, and these are what the assignment spells.
    obtain ⟨parts, hparts, hbound, -⟩ :=
      bind_spec hp (Pattern.isCanonicalPath_fill hp ha).1 (Pattern.matchesPath_fill hp ha) bound
    obtain rfl := Option.some.inj ((Pattern.parts?_fill hp hr ha).symm.trans hparts)
    have hfill := Segment.fill_eq_of_getElem? hp.quantified_last (hp.spelled.resolve_left hr) ha hk
    exact Pattern.get?_eq_of_isBound (ha _ (List.mem_of_getElem? hk)) hfill (hbound k _ hk)
  · rw [if_neg hname]
    exact get?_bind_of_not_mem 1 hname

lemma routeWith_path_fill (hm : builder.IsMade) (hb : builder.build options = .ok router) {r : Nat} {p : Pattern}
    {value : α} (hr : builder.routes[r]? = some (p, value))
    (ha : ∀ segment ∈ p.segments, segment.IsAssigned assignment)
    (hd : ∀ piece ∈ Pieces.cut '/' (p.fill assignment), piece ≠ ['.'] ∧ piece ≠ ['.', '.']) (bound : Variables) :
    router.routeWith (.text (String.ofList (p.fill assignment))) bound =
      (some value, bind (p.fill assignment) bound 1 (p.segments.map slot?)) := by
  have hproper := hm.proper_of_route hr
  obtain ⟨hc, hs⟩ := Pattern.isCanonicalPath_fill hproper ha
  have hpath : (RouteInput.text (String.ofList (p.fill assignment))).path? = some (p.fill assignment) := by
    rw [RouteInput.path?, RouteInput.pathname?_of_isCanonicalPath hc hs hd, Option.bind_some, hc.2]
  have hentry := lookup?_of_matchesPath hm hb hc hr (Pattern.matchesPath_fill hproper ha)
  rw [routeWith_of_path?_eq_some router hpath, hentry]
  simp only [bind_getD_layout]

lemma build_eq_ok_or_isTooLarge (hc : ∀ conflict, builder.build options ≠ .error (.conflict conflict)) :
    (∃ states, builder.IsTooLarge options states) ∨ ∃ router, builder.build options = .ok router := by
  cases hstates : Automaton.build builder.patterns with
  | error conflict => exact absurd (by rw [Builder.build, hstates]) (hc conflict)
  | ok states =>
    have hsize : builder.patterns.size = builder.routes.size := Array.size_map
    cases hengine : Engine.compile states builder.routes.size options.compress with
    | ok engine => exact .inr (Builder.exists_build_iff.mpr ⟨states, hstates, engine, hsize ▸ hengine⟩)
    | error e =>
      obtain rfl := Engine.compile_eq_error hengine
      have hexceeds : ¬ Engine.Holds states builder.routes.size options.compress := by
        rw [← Engine.exists_compile_iff]
        rintro ⟨engine, hok⟩
        rw [hengine] at hok
        cases hok
      refine .inl ⟨states, hstates, hexceeds, Nat.lt_of_not_le fun hle => hexceeds ?_, ?_⟩
      · exact Engine.holds_of_le (hsize ▸ build_wellFormed hstates) hle options.compress
      · simp only [Builder.build, hstates, hengine]

theorem routeWith_fill (hm : builder.IsMade) (hc : ∀ conflict, builder.build options ≠ .error (.conflict conflict))
    {r : Nat} {p : Pattern} {value : α} (hr : builder.routes[r]? = some (p, value)) {assignment : Variables}
    (ha : ∀ segment ∈ p.segments, segment.IsAssigned assignment)
    (hd : ∀ piece ∈ Pieces.cut '/' (p.fill assignment), piece ≠ ['.'] ∧ piece ≠ ['.', '.']) :
    (∃ states, builder.IsTooLarge options states) ∨
    ∃ router after, builder.build options = .ok router ∧
      router.routeWith (.text (String.ofList (p.fill assignment))) Variables.empty = (some value, after) ∧
      ∀ name, after.get? name = if name ∈ p.names then assignment.get? name else none := by
  have hproper := hm.proper_of_route hr
  refine (build_eq_ok_or_isTooLarge hc).imp_right ?_
  rintro ⟨router, hb⟩
  exact ⟨router, _, hb, routeWith_path_fill hm hb hr ha hd Variables.empty,
    fun name => get?_bind_fill hproper ha Variables.empty name⟩

def nested : Variables :=
  Variables.empty.set "rest" (.many ["a/b", ".x", "%2e"])

theorem routeWith_fill_files :
    files.IsMade ∧ ∀ options, ∃ router after, files.build options = .ok router ∧
      router.routeWith (.text "/files/a%2Fb/.x/%252e") Variables.empty = (some 2, after) ∧
      after.get? "rest" = some (.many ["a/b", ".x", "%2e"]) ∧ after.get? "other" = none := by
  refine ⟨files_isMade, fun options => ?_⟩
  obtain ⟨_, hok⟩ := exists_build_files options
  have hc : ∀ conflict, files.build options ≠ .error (.conflict conflict) := by
    intro conflict h
    rw [hok] at h
    cases h
  have ha : ∀ segment ∈ [Segment.literal "files", .var "rest" (some .star)], segment.IsAssigned nested := by
    refine List.forall_mem_cons.mpr ⟨trivial, List.forall_mem_singleton.mpr ⟨["a/b", ".x", "%2e"], rfl, by simp, ?_⟩⟩
    intro h
    cases h
  have hpath : Pattern.fill ⟨[.literal "files", .var "rest" (some .star)], "/files/{rest}*"⟩ nested =
      "/files/a%2Fb/.x/%252e".toList := by decide +kernel
  have hd : ∀ piece ∈ Pieces.cut '/' "/files/a%2Fb/.x/%252e".toList, piece ≠ ['.'] ∧ piece ≠ ['.', '.'] := by
    decide +kernel
  rcases routeWith_fill (r := 1) files_isMade hc rfl ha (hpath ▸ hd) with
    ⟨states, hlarge⟩ | ⟨router, after, hb, hroute, hget⟩
  · have he := hlarge.refused
    rw [hok] at he
    cases he
  · rw [hpath, String.ofList_toList] at hroute
    refine ⟨router, after, hb, hroute, ?_, ?_⟩
    · rw [hget]
      rfl
    · rw [hget]
      rfl

end Router

end PathRouter
