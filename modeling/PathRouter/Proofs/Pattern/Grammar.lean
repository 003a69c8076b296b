import PathRouter.Pattern.Parser
import PathRouter.Proofs.Percent.Decoding

/-! The grammar of patterns. A pattern is the root or segments that are not empty, each after a slash; in a template
a segment in braces is a variable, and any other is a literal without opening braces that can be decoded. The parser
accepts exactly what the grammar derives, and reads it as the segments that are derived with it. -/

namespace PathRouter

open Percent

def Segment.name? : Segment → Option String
  | .literal _ => none
  | .var name _ => some name

namespace Pattern

def suffix : Option Quantifier → List Char
  | none => []
  | some .plus => ['+']
  | some .star => ['*']

inductive Denotes : Mode → List Char → Segment → Prop
  | verbatim (raw : List Char) : Denotes .verbatim raw (.literal (String.ofList (encode raw)))
  | literal {raw text : List Char} (hb : '{' ∉ raw) (hs : Spells raw text) :
      Denotes .template raw (.literal (String.ofList (encode text)))
  | var {name : List Char} (hne : name ≠ []) (ho : '{' ∉ name) (hc : '}' ∉ name) (quantifier : Option Quantifier) :
      Denotes .template ('{' :: (name ++ '}' :: suffix quantifier)) (.var (String.ofList name) quantifier)

inductive Derives (mode : Mode) : List Char → List Segment → Prop
  | root : Derives mode ['/'] [.literal ""]
  | segments {raws : List (List Char)} {segments : List Segment} (hne : raws ≠ [])
      (hraws : ∀ raw ∈ raws, raw ≠ [] ∧ '/' ∉ raw) (hd : List.Forall₂ (Denotes mode) raws segments)
      (hlast : ∀ segment ∈ segments.dropLast, segment.isQuantified = false)
      (hnames : (segments.filterMap Segment.name?).Nodup) : Derives mode (raws.flatMap ('/' :: ·)) segments

@[simp] lemma readQuantifier_suffix (start : Nat) (quantifier : Option Quantifier) :
    readQuantifier start (suffix quantifier) = .ok quantifier := by
  match quantifier with
  | none | some .plus | some .star => rfl

def Follows (quantifier : Option Quantifier) (c : Char) : Prop :=
  quantifier = none → c ≠ '+' ∧ c ≠ '*'

lemma readQuantifier_of_follows {quantifier : Option Quantifier} {c : Char} (h : Follows quantifier c) (start : Nat)
    (rest : List Char) : readQuantifier start (suffix quantifier ++ c :: rest) =
      .error ⟨.illegalToken c, start + Utf8.size (suffix quantifier)⟩ := by
  match quantifier with
  | some .plus | some .star => rfl
  | none =>
    obtain ⟨hplus, hstar⟩ := h rfl
    cases rest <;> simp [suffix, readQuantifier, hplus, hstar]

lemma suffix_or_follows (tail : List Char) :
    (∃ quantifier, tail = suffix quantifier) ∨
      ∃ quantifier c rest, Follows quantifier c ∧ tail = suffix quantifier ++ c :: rest := by
  match tail with
  | [] => exact .inl ⟨none, rfl⟩
  | c :: rest =>
    by_cases hplus : c = '+'
    · subst hplus
      cases rest with
      | nil => exact .inl ⟨some .plus, rfl⟩
      | cons d rest => exact .inr ⟨some .plus, d, rest, fun h => (by cases h), rfl⟩
    · by_cases hstar : c = '*'
      · subst hstar
        cases rest with
        | nil => exact .inl ⟨some .star, rfl⟩
        | cons d rest => exact .inr ⟨some .star, d, rest, fun h => (by cases h), rfl⟩
      · exact .inr ⟨none, c, rest, fun _ => ⟨hplus, hstar⟩, rfl⟩

lemma readQuantifier_eq_ok_iff (start : Nat) (tail : List Char) (quantifier : Option Quantifier) :
    readQuantifier start tail = .ok quantifier ↔ tail = suffix quantifier := by
  refine ⟨fun h => ?_, fun h => h ▸ readQuantifier_suffix start quantifier⟩
  obtain ⟨other, rfl⟩ | ⟨other, c, rest, hf, rfl⟩ := suffix_or_follows tail
  · rw [readQuantifier_suffix] at h
    rw [Except.ok.inj h]
  · rw [readQuantifier_of_follows hf] at h
    cases h

lemma readVariable_of_closed {name : List Char} (hc : '}' ∉ name) (tail : List Char) :
    readVariable (name ++ '}' :: tail) = if name.isEmpty then .error ⟨.emptyVariableName, 0⟩
      else if '{' ∈ name then .error ⟨.illegalToken '{', 1 + Utf8.size (name.takeWhile (· ≠ '{'))⟩
      else (readQuantifier (Utf8.size name + 2) tail).map (.var (String.ofList name)) := by
  rw [readVariable, Pieces.takeWhile_append hc, Pieces.dropWhile_append hc]

lemma readVariable_of_unclosed {text : List Char} (hc : '}' ∉ text) :
    readVariable text = .error ⟨.unclosedVariable, 0⟩ := by
  have hdrop : text.dropWhile (· ≠ '}') = [] :=
    List.dropWhile_eq_nil_iff.mpr fun c hm => decide_eq_true fun he => hc (he ▸ hm)
  rw [readVariable, hdrop]

lemma readVariable_eq_ok_iff (text : List Char) (segment : Segment) :
    readVariable text = .ok segment ↔ ∃ name quantifier, text = name ++ '}' :: suffix quantifier ∧ name ≠ [] ∧
      '{' ∉ name ∧ '}' ∉ name ∧ segment = .var (String.ofList name) quantifier := by
  constructor
  · intro h
    by_cases hc : '}' ∈ text
    · obtain ⟨name, tail, rfl, hname⟩ := List.eq_append_cons_of_mem hc
      rw [readVariable_of_closed hname] at h
      split_ifs at h with hempty ho
      obtain ⟨quantifier, hq, he⟩ := exists_of_map_eq_ok h
      obtain rfl := (readQuantifier_eq_ok_iff _ _ _).mp hq
      exact ⟨name, quantifier, rfl, fun hn => hempty (List.isEmpty_iff.mpr hn), ho, hname, he.symm⟩
    · rw [readVariable_of_unclosed hc] at h
      cases h
  · rintro ⟨name, quantifier, rfl, hne, ho, hc, rfl⟩
    rw [readVariable_of_closed hc, if_neg fun he => hne (List.isEmpty_iff.mp he), if_neg ho, readQuantifier_suffix]
    rfl

lemma readLiteral_eq_ok_iff (text : List Char) (segment : Segment) :
    readLiteral text = .ok segment ↔
      '{' ∉ text ∧ ∃ data, Spells text data ∧ segment = .literal (String.ofList (encode data)) := by
  rw [readLiteral]
  by_cases hb : '{' ∈ text
  · rw [if_pos hb]
    exact iff_of_false (fun h => by cases h) fun h => h.1 hb
  · rw [if_neg hb, and_iff_right hb]
    cases hd : decode text with
    | ok data =>
      have hs := (decode_eq_ok_iff text data).mp hd
      have hc : canonical text = .ok (encode data) := by rw [canonical, hd]; rfl
      rw [hc]
      constructor
      · exact fun h => ⟨data, hs, (Except.ok.inj h).symm⟩
      · rintro ⟨data', hs', rfl⟩
        rw [hs.unique hs']
    | error fault =>
      have hc : canonical text = .error fault := by rw [canonical, hd]; rfl
      rw [hc]
      refine iff_of_false (fun h => ?_) ?_
      · cases fault <;> cases h
      · rintro ⟨data, hs, -⟩
        rw [(decode_eq_ok_iff text data).mpr hs] at hd
        cases hd

lemma readSegment_eq_ok_iff (raw : List Char) (segment : Segment) :
    readSegment raw = .ok segment ↔ Denotes .template raw segment := by
  constructor
  · intro h
    unfold readSegment at h
    split at h
    · obtain ⟨name, quantifier, rfl, hne, ho, hc, rfl⟩ := (readVariable_eq_ok_iff _ _).mp h
      exact .var hne ho hc quantifier
    · obtain ⟨hb, data, hs, rfl⟩ := (readLiteral_eq_ok_iff _ _).mp h
      exact .literal hb hs
  · intro h
    cases h with
    | var hne ho hc quantifier => exact (readVariable_eq_ok_iff _ _).mpr ⟨_, quantifier, rfl, hne, ho, hc, rfl⟩
    | @literal raw text hb hs =>
      have hliteral := (readLiteral_eq_ok_iff raw _).mpr ⟨hb, text, hs, rfl⟩
      unfold readSegment
      split
      · exact absurd List.mem_cons_self hb
      · exact hliteral

/-- Whether segments may follow on variables with some names: only the last one is quantified, and no name is bound
that has been bound before. -/
def ArePlaced (names : List String) (segments : List Segment) : Prop :=
  (∀ segment ∈ segments.dropLast, segment.isQuantified = false) ∧ (segments.filterMap Segment.name?).Nodup ∧
    ∀ name ∈ segments.filterMap Segment.name?, name ∉ names

lemma arePlaced_cons_iff (names : List String) (segment : Segment) (others : List Segment) :
    ArePlaced names (segment :: others) ↔ (segment.isQuantified = true → others = []) ∧
      (∀ name, segment.name? = some name → name ∉ names) ∧ ArePlaced (segment.name?.toList ++ names) others := by
  have hlast : (∀ s ∈ (segment :: others).dropLast, s.isQuantified = false) ↔
      (segment.isQuantified = true → others = []) ∧ ∀ s ∈ others.dropLast, s.isQuantified = false := by
    cases others with
    | nil => simp
    | cons next others =>
      rw [List.dropLast_cons_of_ne_nil (List.cons_ne_nil _ _), List.forall_mem_cons]
      simp
  rw [ArePlaced, ArePlaced, hlast]
  cases hn : segment.name? with
  | none => simp [hn, and_assoc]
  | some name =>
    rw [List.filterMap_cons_some hn, List.nodup_cons, List.forall_mem_cons]
    constructor
    · rintro ⟨⟨hq, hlast⟩, ⟨hfresh, hnodup⟩, hname, hnames⟩
      refine ⟨hq, fun other ho => Option.some.inj ho ▸ hname, hlast, hnodup, fun other ho hm => ?_⟩
      rcases List.mem_cons.mp hm with rfl | hm
      · exact hfresh ho
      · exact hnames other ho hm
    · rintro ⟨hq, hname, hlast, hnodup, hnames⟩
      exact ⟨⟨hq, hlast⟩, ⟨fun hm => hnames name hm List.mem_cons_self, hnodup⟩, hname name rfl,
        fun other ho hm => hnames other ho (List.mem_cons_of_mem _ hm)⟩

lemma place_eq_ok_iff (names names' : List String) (isLast : Bool) (size : Nat) (segment : Segment) :
    place names isLast size segment = .ok names' ↔ (segment.isQuantified = true → isLast = true) ∧
      (∀ name, segment.name? = some name → name ∉ names) ∧ names' = segment.name?.toList ++ names := by
  cases segment with
  | literal text => simp [place, Segment.isQuantified, Segment.name?, eq_comm]
  | var name quantifier =>
    have hmisplaced : ((Segment.var name quantifier).isQuantified = true → isLast = true) ↔
        ¬(quantifier.isSome && !isLast) = true := by
      cases quantifier <;> simp [Segment.isQuantified]
    rw [place, hmisplaced]
    by_cases hq : (quantifier.isSome && !isLast) = true
    · rw [if_pos hq]
      exact iff_of_false (fun h => by cases h) fun h => h.1 hq
    · rw [if_neg hq, and_iff_right hq]
      by_cases hn : name ∈ names
      · rw [if_pos hn]
        exact iff_of_false (fun h => by cases h) fun h => h.1 name rfl hn
      · rw [if_neg hn]
        constructor
        · exact fun h => ⟨fun other ho => Option.some.inj ho ▸ hn, (Except.ok.inj h).symm⟩
        · rintro ⟨-, rfl⟩
          rfl

def Refuses (names : List String) (isLast : Bool) (raw : List Char) (fault : Fault) : Prop :=
  readSegment raw = .error fault ∨
    ∃ segment, readSegment raw = .ok segment ∧ place names isLast (Utf8.size raw) segment = .error fault

section Segments

variable {mode : Mode} {names : List String} {raw : List Char} {rest : List (List Char)} (start : Nat)

@[simp] lemma readSegments_of_empty (mode : Mode) (names : List String) (rest : List (List Char)) :
    readSegments mode start names ([] :: rest) = .error ⟨.emptySegment, start - 1⟩ := by
  rw [readSegments, if_pos (by rfl)]

lemma readSegments_of_refuses (hne : raw ≠ []) {fault : Fault} (h : Refuses names rest.isEmpty raw fault) :
    readSegments .template start names (raw :: rest) = .error (fault.shift start) := by
  rw [readSegments, if_neg fun he => hne (List.isEmpty_iff.mp he)]
  rcases h with hr | ⟨segment, hr, hp⟩
  · simp only [hr]
  · simp only [hr, hp]

lemma readSegments_of_placed (hne : raw ≠ []) {segment : Segment} (hd : Denotes mode raw segment)
    (hq : segment.isQuantified = true → rest = []) (hn : ∀ name, segment.name? = some name → name ∉ names) :
    readSegments mode start names (raw :: rest) =
      (readSegments mode (start + Utf8.size raw + 1) (segment.name?.toList ++ names) rest).map (segment :: ·) := by
  rw [readSegments, if_neg fun he => hne (List.isEmpty_iff.mp he)]
  cases mode with
  | verbatim =>
    cases hd with
    | verbatim => rfl
  | template =>
    have hplace := (place_eq_ok_iff names _ rest.isEmpty (Utf8.size raw) segment).mpr
      ⟨fun h => List.isEmpty_iff.mpr (hq h), hn, rfl⟩
    simp only [(readSegment_eq_ok_iff raw segment).mpr hd, hplace]

lemma placed_or_refused (mode : Mode) (names : List String) (raw : List Char) (rest : List (List Char)) :
    (∃ segment, Denotes mode raw segment ∧ (segment.isQuantified = true → rest = []) ∧
        ∀ name, segment.name? = some name → name ∉ names) ∨
      mode = .template ∧ ∃ fault, Refuses names rest.isEmpty raw fault := by
  cases mode with
  | verbatim => exact .inl ⟨_, .verbatim raw, fun h => (by cases h), fun _ h => (by cases h)⟩
  | template =>
    cases hr : readSegment raw with
    | error fault => exact .inr ⟨rfl, fault, .inl hr⟩
    | ok segment =>
      cases hp : place names rest.isEmpty (Utf8.size raw) segment with
      | error fault => exact .inr ⟨rfl, fault, .inr ⟨segment, hr, hp⟩⟩
      | ok names' =>
        obtain ⟨hq, hn, -⟩ := (place_eq_ok_iff _ _ _ _ _).mp hp
        exact .inl ⟨segment, (readSegment_eq_ok_iff raw segment).mp hr, fun h => List.isEmpty_iff.mp (hq h), hn⟩

lemma readSegments_cons_eq_ok_iff (segments : List Segment) :
    readSegments mode start names (raw :: rest) = .ok segments ↔ raw ≠ [] ∧ ∃ segment others,
      segment :: others = segments ∧ Denotes mode raw segment ∧ (segment.isQuantified = true → rest = []) ∧
        (∀ name, segment.name? = some name → name ∉ names) ∧
        readSegments mode (start + Utf8.size raw + 1) (segment.name?.toList ++ names) rest = .ok others := by
  constructor
  · intro h
    have hne : raw ≠ [] := by
      rintro rfl
      rw [readSegments_of_empty] at h
      cases h
    rcases placed_or_refused mode names raw rest with ⟨segment, hd, hq, hn⟩ | ⟨rfl, fault, hf⟩
    · rw [readSegments_of_placed start hne hd hq hn, map_eq_ok_iff] at h
      obtain ⟨others, hr, he⟩ := h
      exact ⟨hne, segment, others, he, hd, hq, hn, hr⟩
    · rw [readSegments_of_refuses start hne hf] at h
      cases h
  · rintro ⟨hne, segment, others, rfl, hd, hq, hn, hr⟩
    rw [readSegments_of_placed start hne hd hq hn, hr]
    rfl

end Segments

lemma readSegments_eq_ok_iff (mode : Mode) (start : Nat) (names : List String) (raws : List (List Char))
    (segments : List Segment) : readSegments mode start names raws = .ok segments ↔
      (∀ raw ∈ raws, raw ≠ []) ∧ List.Forall₂ (Denotes mode) raws segments ∧ ArePlaced names segments := by
  induction raws generalizing start names segments with
  | nil =>
    simp only [readSegments, Except.ok.injEq, List.forall₂_nil_left_iff]
    constructor
    · rintro rfl
      simp [ArePlaced]
    · exact fun h => h.2.1.symm
  | cons raw rest ih =>
    rw [readSegments_cons_eq_ok_iff, List.forall_mem_cons]
    constructor
    · rintro ⟨hne, segment, others, rfl, hd, hq, hn, hr⟩
      obtain ⟨hrest, hds, hplaced⟩ := (ih _ _ _).mp hr
      refine ⟨⟨hne, hrest⟩, .cons hd hds, (arePlaced_cons_iff _ _ _).mpr ⟨fun h => ?_, hn, hplaced⟩⟩
      exact List.forall₂_nil_left_iff.mp (hq h ▸ hds)
    · rintro ⟨⟨hne, hrest⟩, hds, hplaced⟩
      cases hds with
      | cons hd hds =>
        obtain ⟨hq, hn, hplaced⟩ := (arePlaced_cons_iff _ _ _).mp hplaced
        refine ⟨hne, _, _, rfl, hd, fun h => ?_, hn, (ih _ _ _).mpr ⟨hrest, hds, hplaced⟩⟩
        exact List.forall₂_nil_right_iff.mp (hq h ▸ hds)

lemma flatMap_eq_join {raws : List (List Char)} (hne : raws ≠ []) :
    raws.flatMap ('/' :: ·) = '/' :: Pieces.join '/' raws := by
  induction raws with
  | nil => exact absurd rfl hne
  | cons raw rest ih =>
    cases rest with
    | nil => rw [List.flatMap_singleton, Pieces.join_singleton]
    | cons next rest => rw [List.flatMap_cons, ih (List.cons_ne_nil _ _), Pieces.join_cons_cons, List.cons_append]

lemma Derives.denotes {mode : Mode} {source : List Char} {segments : List Segment} (h : Derives mode source segments) :
    List.Forall₂ (Denotes mode) (Pieces.cut '/' source.tail) segments := by
  cases h with
  | root =>
    refine .cons ?_ .nil
    cases mode with
    | template => exact .literal List.not_mem_nil (.of_encode [])
    | verbatim => exact .verbatim []
  | segments hne hraws hd =>
    rwa [flatMap_eq_join hne, List.tail_cons, Pieces.cut_join hne fun raw hm => (hraws raw hm).2]

lemma readAll_cons (mode : Mode) {body : List Char} (hne : body ≠ []) :
    readAll mode ('/' :: body) = if body.getLast? = some '/' then .error ⟨.trailingSlash, Utf8.size body⟩
      else readSegments mode 1 [] (Pieces.cut '/' body) := by
  cases body with
  | nil => exact absurd rfl hne
  | cons c rest => rfl

lemma readAll_of_head (mode : Mode) {source : List Char} (h : source.head? ≠ some '/') :
    readAll mode source = .error ⟨.missingLeadingSlash, 0⟩ := by
  unfold readAll
  split
  · exact absurd rfl h
  · exact absurd rfl h
  · rfl

lemma readAll_eq_ok_iff (mode : Mode) (source : List Char) (segments : List Segment) :
    readAll mode source = .ok segments ↔ Derives mode source segments := by
  constructor
  · intro h
    by_cases hstart : source.head? = some '/'
    · obtain ⟨body, rfl⟩ := List.head?_eq_some_iff.mp hstart
      by_cases hne : body = []
      · subst hne
        obtain rfl := Except.ok.inj h
        exact .root
      · rw [readAll_cons mode hne] at h
        split_ifs at h with hlast
        obtain ⟨hraws, hd, hlast, hnames, -⟩ := (readSegments_eq_ok_iff _ _ _ _ _).mp h
        have hcut := Pieces.cut_ne_nil '/' body
        have hslash : ∀ raw ∈ Pieces.cut '/' body, '/' ∉ raw := fun _ hm hs => (Pieces.mem_of_mem_cut hm hs).2 rfl
        have hderives := Derives.segments hcut (fun raw hm => ⟨hraws raw hm, hslash raw hm⟩) hd hlast hnames
        rwa [flatMap_eq_join hcut, Pieces.join_cut] at hderives
    · rw [readAll_of_head mode hstart] at h
      cases h
  · intro h
    cases h with
    | root => rfl
    | @segments raws segments hne hraws hd hlast hnames =>
      have hcut : Pieces.cut '/' (Pieces.join '/' raws) = raws := Pieces.cut_join hne fun raw hm => (hraws raw hm).2
      have hbody : Pieces.join '/' raws ≠ [] := by
        intro hn
        rw [hn] at hcut
        exact (hraws [] (hcut ▸ List.mem_singleton.mpr rfl)).1 rfl
      have hend : (Pieces.join '/' raws).getLast? ≠ some '/' := by
        intro hs
        obtain ⟨front, hfront⟩ := List.getLast?_eq_some_iff.mp hs
        rw [hfront, Pieces.cut_append_separator] at hcut
        exact (hraws [] (hcut ▸ List.mem_append_right _ List.mem_cons_self)).1 rfl
      rw [flatMap_eq_join hne, readAll_cons mode hbody, if_neg hend, hcut]
      exact (readSegments_eq_ok_iff _ _ _ _ _).mpr
        ⟨fun raw hm => (hraws raw hm).1, hd, hlast, hnames, fun name _ hm => (by cases hm)⟩

lemma parse_eq_ok_iff (mode : Mode) (source : String) (p : Pattern) :
    parse mode source = .ok p ↔ p.source = source ∧ Derives mode source.toList p.segments := by
  rw [parse, ← readAll_eq_ok_iff]
  cases readAll mode source.toList with
  | ok segments =>
    constructor
    · intro h
      obtain rfl := Except.ok.inj h
      exact ⟨rfl, rfl⟩
    · rintro ⟨rfl, h⟩
      rw [Except.ok.inj h]
  | error fault => exact iff_of_false (fun h => by cases h) fun h => by cases h.2

end Pattern

end PathRouter
