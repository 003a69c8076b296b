import PathRouter.Proofs.Pattern.SegmentFault

/-! What is wrong with a text that is no pattern, and at which octet. The segments are gone through from the left, and
the first that is empty, is no segment, is quantified without being the last or binds a name again is at fault. -/

namespace PathRouter.Pattern

/-- Whether nothing is wrong with segments in front of others, which bind some names in addition to those that are bound
before. -/
inductive AreSound (mode : Mode) : List String → List (List Char) → List String → Prop
  | nil {names : List String} : AreSound mode names [] names
  | cons {names names' : List String} {raw : List Char} {rest : List (List Char)} {segment : Segment} (hne : raw ≠ [])
      (hd : Denotes mode raw segment) (hq : segment.isQuantified = false)
      (hn : ∀ name, segment.name? = some name → name ∉ names)
      (h : AreSound mode (segment.name?.toList ++ names) rest names') : AreSound mode names (raw :: rest) names'

/-- Whether a text is some segments, each after a slash, and does not end with a slash. -/
structure IsCutInto (source : List Char) (raws : List (List Char)) : Prop where
  eq : source = raws.flatMap ('/' :: ·)
  plain : ∀ raw ∈ raws, '/' ∉ raw
  last : source.getLast? ≠ some '/'

/-- What is wrong with a text in the first place, and at which octet. -/
inductive FirstFault : Mode → List Char → Cause → Nat → Prop
  | start {mode : Mode} {source : List Char} (h : source.head? ≠ some '/') :
      FirstFault mode source .missingLeadingSlash 0
  | last {mode : Mode} {front : List Char} (h : front.head? = some '/') :
      FirstFault mode (front ++ ['/']) .trailingSlash (Utf8.size front)
  | empty {mode : Mode} {source : List Char} {before after : List (List Char)} {names : List String}
      (hc : IsCutInto source (before ++ [] :: after)) (hb : AreSound mode [] before names) :
      FirstFault mode source .emptySegment (Utf8.size (before.flatMap ('/' :: ·)))
  | segment {source raw : List Char} {before after : List (List Char)} {names : List String} {cause : Cause}
      {offset : Nat} (hc : IsCutInto source (before ++ raw :: after)) (hb : AreSound .template [] before names)
      (hf : SegmentFault names after.isEmpty raw cause offset) :
      FirstFault .template source cause (Utf8.size (before.flatMap ('/' :: ·)) + 1 + offset)

lemma size_flatMap_cons (raw : List Char) (rest : List (List Char)) :
    Utf8.size ((raw :: rest).flatMap ('/' :: ·)) = Utf8.size raw + 1 + Utf8.size (rest.flatMap ('/' :: ·)) := by
  have hslash : '/'.utf8Size = 1 := rfl
  simp only [List.flatMap_cons, List.cons_append, Utf8.size_cons, Utf8.size_append, hslash]
  omega

def FaultOf (mode : Mode) (start : Nat) (names : List String) (raws : List (List Char)) (fault : Fault) : Prop :=
  ∃ before raw after names', raws = before ++ raw :: after ∧ AreSound mode names before names' ∧
    ((raw = [] ∧ fault = ⟨.emptySegment, start + Utf8.size (before.flatMap ('/' :: ·)) - 1⟩) ∨
      (mode = .template ∧ ∃ f : Fault, SegmentFault names' after.isEmpty raw f.cause f.offset ∧
        fault = f.shift (start + Utf8.size (before.flatMap ('/' :: ·)))))

lemma AreSound.readSegments_eq_error_iff {mode : Mode} {names names' : List String} {before : List (List Char)}
    (h : AreSound mode names before names') (start : Nat) (raws : List (List Char)) (fault : Fault) :
    readSegments mode start names (before ++ raws) = .error fault ↔
      readSegments mode (start + Utf8.size (before.flatMap ('/' :: ·))) names' raws = .error fault := by
  induction h generalizing start with
  | nil => rfl
  | @cons names names' raw rest segment hraw hd hq hn h ih =>
    rw [List.cons_append, readSegments_of_placed start hraw hd (fun hs => by rw [hq] at hs; cases hs) hn,
      map_eq_error_iff, ih, size_flatMap_cons, ← Nat.add_assoc, ← Nat.add_assoc]

lemma readSegments_eq_error_iff (mode : Mode) (start : Nat) (names : List String) (raws : List (List Char))
    (fault : Fault) : readSegments mode start names raws = .error fault ↔ FaultOf mode start names raws fault := by
  constructor
  · intro h
    induction raws generalizing start names with
    | nil => cases h
    | cons raw rest ih =>
      by_cases hne : raw = []
      · subst hne
        rw [readSegments_of_empty] at h
        exact ⟨[], [], rest, names, rfl, .nil, .inl ⟨rfl, (Except.error.inj h).symm⟩⟩
      · rcases placed_or_refused mode names raw rest with ⟨segment, hd, hq, hn⟩ | ⟨rfl, f, hf⟩
        · rw [readSegments_of_placed start hne hd hq hn, map_eq_error_iff] at h
          obtain ⟨before, other, after, names', rfl, hs, hf⟩ := ih _ _ h
          have hunquantified : segment.isQuantified = false :=
            Bool.eq_false_iff.mpr fun h => by simpa using hq h
          refine ⟨raw :: before, other, after, names', rfl, .cons hne hd hunquantified hn hs, ?_⟩
          rwa [size_flatMap_cons, ← Nat.add_assoc, ← Nat.add_assoc]
        · rw [readSegments_of_refuses start hne hf] at h
          exact ⟨[], raw, rest, names, rfl, .nil,
            .inr ⟨rfl, f, (segmentFault_iff _ _ _ _).mpr hf, (Except.error.inj h).symm⟩⟩
  · rintro ⟨before, raw, after, names', rfl, hs, h⟩
    rw [hs.readSegments_eq_error_iff start]
    rcases h with ⟨rfl, rfl⟩ | ⟨rfl, f, hf, rfl⟩
    · exact readSegments_of_empty _ _ _ _
    · exact readSegments_of_refuses _ hf.ne_nil ((segmentFault_iff _ _ _ _).mp hf)

lemma size_append_slash (front : List Char) : Utf8.size (front ++ ['/']) = Utf8.size ('/' :: front) := by
  simp [Nat.add_comm]

lemma IsCutInto.exists_body {source : List Char} {raws : List (List Char)} (h : IsCutInto source raws)
    (hne : raws ≠ []) :
    ∃ body, source = '/' :: body ∧ body ≠ [] ∧ body.getLast? ≠ some '/' ∧ Pieces.cut '/' body = raws := by
  have hsource := h.eq
  rw [flatMap_eq_join hne] at hsource
  have hlast := h.last
  refine ⟨_, hsource, fun he => ?_, fun he => ?_, Pieces.cut_join hne h.plain⟩
  · rw [hsource, he] at hlast
    exact hlast rfl
  · rw [hsource, List.getLast?_cons, he] at hlast
    exact hlast rfl

lemma isCutInto_cut {body : List Char} (hne : body ≠ []) (hlast : body.getLast? ≠ some '/') :
    IsCutInto ('/' :: body) (Pieces.cut '/' body) where
  eq := by rw [flatMap_eq_join (Pieces.cut_ne_nil '/' body), Pieces.join_cut]
  plain raw hm hs := (Pieces.mem_of_mem_cut hm hs).2 rfl
  last := by
    obtain ⟨c, hc⟩ := Option.ne_none_iff_exists'.mp (mt List.getLast?_eq_none_iff.mp hne)
    rw [hc] at hlast
    rwa [List.getLast?_cons, hc]

lemma readAll_eq_error_iff (mode : Mode) (source : List Char) (fault : Fault) :
    readAll mode source = .error fault ↔ FirstFault mode source fault.cause fault.offset := by
  constructor
  · intro h
    by_cases hstart : source.head? = some '/'
    · obtain ⟨body, rfl⟩ := List.head?_eq_some_iff.mp hstart
      by_cases hne : body = []
      · subst hne
        cases h
      · rw [readAll_cons mode hne] at h
        split_ifs at h with hlast
        · obtain ⟨front, rfl⟩ := List.getLast?_eq_some_iff.mp hlast
          obtain rfl := Except.error.inj h
          rw [size_append_slash]
          have hfirst : ('/' :: front).head? = some '/' := rfl
          exact .last hfirst
        · have hcut := isCutInto_cut hne hlast
          obtain ⟨before, raw, after, names, hraws, hs, h⟩ := (readSegments_eq_error_iff _ _ _ _ _).mp h
          rw [hraws] at hcut
          rcases h with ⟨rfl, rfl⟩ | ⟨rfl, f, hf, rfl⟩
          · rw [Nat.add_sub_cancel_left]
            exact .empty hcut hs
          · rw [Nat.add_comm 1]
            exact .segment hcut hs hf
    · rw [readAll_of_head mode hstart] at h
      obtain rfl := Except.error.inj h
      exact .start hstart
  · obtain ⟨cause, offset⟩ := fault
    intro h
    cases h with
    | start h => exact readAll_of_head mode h
    | last h =>
      obtain ⟨rest, rfl⟩ := List.head?_eq_some_iff.mp h
      rw [List.cons_append, readAll_cons mode (by simp), if_pos (by simp), size_append_slash]
    | empty hc hs =>
      obtain ⟨body, rfl, hne, hlast, hcut⟩ := hc.exists_body (by simp)
      rw [readAll_cons mode hne, if_neg hlast, hcut]
      refine (readSegments_eq_error_iff _ _ _ _ _).mpr ⟨_, _, _, _, rfl, hs, .inl ⟨rfl, ?_⟩⟩
      rw [Nat.add_sub_cancel_left]
    | @segment _ _ _ _ _ _ offset hc hs hf =>
      obtain ⟨body, rfl, hne, hlast, hcut⟩ := hc.exists_body (by simp)
      rw [readAll_cons _ hne, if_neg hlast, hcut]
      refine (readSegments_eq_error_iff _ _ _ _ _).mpr ⟨_, _, _, _, rfl, hs, .inr ⟨rfl, ⟨cause, offset⟩, hf, ?_⟩⟩
      rw [Fault.shift, Nat.add_comm 1]
      rfl

lemma FirstFault.exists_split {mode : Mode} {source : List Char} {cause : Cause} {offset : Nat}
    (h : FirstFault mode source cause offset) : ∃ front back, source = front ++ back ∧ offset = Utf8.size front := by
  cases h with
  | start => exact ⟨[], source, rfl, rfl⟩
  | last => exact ⟨_, _, rfl, rfl⟩
  | empty hc =>
    rw [hc.eq, List.flatMap_append]
    exact ⟨_, _, rfl, rfl⟩
  | @segment source raw before after _ _ _ hc hs hf =>
    obtain ⟨front, back, -, rfl, rfl⟩ := hf.exists_split
    refine ⟨before.flatMap ('/' :: ·) ++ '/' :: front, back ++ after.flatMap ('/' :: ·), ?_, ?_⟩
    · rw [hc.eq, List.flatMap_append, List.flatMap_cons]
      simp
    · have hslash : '/'.utf8Size = 1 := rfl
      simp [hslash, Nat.add_assoc]

lemma rawEndPos_ofList (text : List Char) : (String.ofList text).rawEndPos = ⟨Utf8.size text⟩ := by
  rw [← Utf8.length_encode, Utf8.encode, ← List.size_toByteArray]
  rfl

/-- The parser refuses a text exactly for its first fault. The octet that it gives is one where a character starts, or
the end of the text; what is wrong with a segment stands inside the segment. -/
theorem parse_error_exact (mode : Mode) (source : String) (e : SyntaxError) :
    (parse mode source = .error e ↔ e.source = source ∧ FirstFault mode source.toList e.cause e.offset) ∧
      (parse mode source = .error e →
        e.offset ≤ source.utf8ByteSize ∧ (⟨e.offset⟩ : String.Pos.Raw).IsValid source) ∧
      ∀ names isLast raw cause offset, SegmentFault names isLast raw cause offset →
        ∃ front back, back ≠ [] ∧ raw = front ++ back ∧ offset = Utf8.size front := by
  have hiff : parse mode source = .error e ↔ e.source = source ∧ FirstFault mode source.toList e.cause e.offset := by
    rw [← readAll_eq_error_iff mode source.toList ⟨e.cause, e.offset⟩, parse]
    cases readAll mode source.toList with
    | ok segments => exact iff_of_false (fun h => by cases h) fun h => by cases h.2
    | error fault =>
      constructor
      · intro h
        obtain rfl := Except.error.inj h
        exact ⟨rfl, rfl⟩
      · rintro ⟨rfl, h⟩
        rw [Except.error.inj h]
  refine ⟨hiff, fun h => ?_, fun _ _ _ _ _ h => h.exists_split⟩
  obtain ⟨front, back, hsource, hoffset⟩ := (hiff.mp h).2.exists_split
  have hvalid : (⟨e.offset⟩ : String.Pos.Raw).IsValid source := by
    refine String.Pos.Raw.isValid_iff_exists_append.mpr ⟨String.ofList front, String.ofList back, ?_, ?_⟩
    · rw [← String.ofList_append, ← hsource, String.ofList_toList]
    · rw [rawEndPos_ofList, hoffset]
  exact ⟨hvalid.le_utf8ByteSize, hvalid⟩

example : parse .template "/größe/{n}+/x" = .error ⟨.misplacedQuantifier, 12, "/größe/{n}+/x"⟩ := by decide +kernel

end PathRouter.Pattern
