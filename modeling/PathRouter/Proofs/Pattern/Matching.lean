import PathRouter.Pattern.Matching
import PathRouter.Proofs.Pattern.Parser

/-! What a match means segment by segment. Whether a path is matched depends on its parts only through the
literals that they spell and through which of them are empty. -/

namespace PathRouter

namespace Segment

def Takes : Segment → List (List Char) → Prop
  | .literal text, parts => parts.head? = some text.toList
  | .var _ none, parts => ∃ part, parts.head? = some part ∧ part ≠ []
  | .var _ (some .plus), parts => parts ≠ [] ∧ ∀ part ∈ parts, part ≠ []
  | .var _ (some .star), parts => ∀ part ∈ parts, part ≠ []

def TakesAll (segments : List Segment) (parts : List (List Char)) : Prop :=
  (∀ (k : Nat) (segment : Segment), segments[k]? = some segment → segment.Takes (parts.drop k)) ∧
    (parts.length ≤ segments.length ∨ segments.getLast?.any isQuantified = true)

lemma not_takes_nil {segment : Segment} (hq : segment.isQuantified = false) : ¬ segment.Takes [] := by
  match segment, hq with
  | .literal _, _ => exact fun h => (by cases h)
  | .var _ none, _ => exact fun ⟨_, h, _⟩ => (by cases h)

lemma takesAll_cons {segment : Segment} (hq : segment.isQuantified = false) (others : List Segment)
    (part : List Char) (parts : List (List Char)) :
    TakesAll (segment :: others) (part :: parts) ↔ segment.Takes (part :: parts) ∧ TakesAll others parts := by
  have hlast : (segment :: others).getLast?.any isQuantified = others.getLast?.any isQuantified := by
    cases others with
    | nil => exact hq
    | cons next others => rw [List.getLast?_cons_cons]
  rw [TakesAll]
  rw [hlast, List.length_cons, List.length_cons, Nat.succ_le_succ_iff]
  constructor
  · rintro ⟨h, hlength⟩
    exact ⟨h 0 segment rfl, fun k s hs => h (k + 1) s hs, hlength⟩
  · rintro ⟨h, hrest, hlength⟩
    refine ⟨fun k s hs => ?_, hlength⟩
    cases k with
    | zero =>
      obtain rfl := Option.some.inj hs
      exact h
    | succ k => exact hrest k s hs

lemma takesAll_of_isQuantified {segment : Segment} (hq : segment.isQuantified = true)
    (parts : List (List Char)) : TakesAll [segment] parts ↔ segment.Takes parts := by
  constructor
  · exact fun h => h.1 0 segment rfl
  · refine fun h => ⟨fun k s hs => ?_, .inr hq⟩
    cases k with
    | zero =>
      obtain rfl := Option.some.inj hs
      exact h
    | succ k => cases hs

lemma quantified_last_cons {segment : Segment} {others : List Segment}
    (hq : ∀ s ∈ (segment :: others).dropLast, s.isQuantified = false) :
    (segment.isQuantified = true → others = []) ∧ ∀ s ∈ others.dropLast, s.isQuantified = false := by
  cases others with
  | nil => simp
  | cons next others =>
    rw [List.dropLast_cons_of_ne_nil (List.cons_ne_nil _ _), List.forall_mem_cons] at hq
    refine ⟨fun hs => ?_, hq.2⟩
    rw [hq.1] at hs
    cases hs

lemma takeAll_iff {segments : List Segment} (hq : ∀ segment ∈ segments.dropLast, segment.isQuantified = false)
    (parts : List (List Char)) : takeAll segments parts = true ↔ TakesAll segments parts := by
  induction segments generalizing parts with
  | nil => cases parts <;> simp [takeAll, TakesAll]
  | cons segment others ih =>
    obtain ⟨hlast, hq⟩ := quantified_last_cons hq
    cases hs : segment.isQuantified with
    | false =>
      cases parts with
      | nil =>
        refine iff_of_false ?_ fun h => not_takes_nil hs (h.1 0 segment rfl)
        match segment, hs with
        | .literal _, _ => exact Bool.false_ne_true
        | .var _ none, _ => exact Bool.false_ne_true
      | cons part parts =>
        rw [takesAll_cons hs, ← ih hq]
        match segment, hs with
        | .literal _, _ => simp [takeAll, Takes]
        | .var _ none, _ => simp [takeAll, Takes]
    | true =>
      obtain rfl := hlast hs
      rw [takesAll_of_isQuantified hs]
      match segment, hs with
      | .var _ (some .plus), _ => simp [takeAll, Takes]
      | .var _ (some .star), _ => simp [takeAll, Takes]

lemma Takes.of_heads {segment : Segment} {parts parts' : List (List Char)} (h : segment.Takes parts)
    (hlength : parts.length = parts'.length) (hne : ∀ part ∈ parts', part ≠ [])
    (hl : ∀ text, segment = .literal text → parts.head? = some text.toList → parts'.head? = some text.toList) :
    segment.Takes parts' := by
  match segment with
  | .literal text => exact hl text rfl h
  | .var _ none =>
    obtain ⟨part, hp, -⟩ := h
    cases parts' with
    | nil =>
      obtain rfl := List.length_eq_zero_iff.mp hlength
      cases hp
    | cons part' rest => exact ⟨part', rfl, hne part' List.mem_cons_self⟩
  | .var _ (some .plus) =>
    refine ⟨?_, hne⟩
    rintro rfl
    exact h.1 (List.length_eq_zero_iff.mp hlength)
  | .var _ (some .star) => exact hne

lemma TakesAll.of_literals {segments : List Segment} {parts parts' : List (List Char)} (h : TakesAll segments parts)
    (hlength : parts.length = parts'.length) (hne : ∀ part ∈ parts', part ≠ [])
    (hl : ∀ (k : Nat) (text : String), segments[k]? = some (.literal text) → parts[k]? = some text.toList →
      parts'[k]? = some text.toList) : TakesAll segments parts' := by
  refine ⟨fun k segment hs => ?_, hlength ▸ h.2⟩
  refine (h.1 k segment hs).of_heads ?_ (fun part hp => hne part (List.mem_of_mem_drop hp)) fun text ht => ?_
  · rw [List.length_drop, List.length_drop, hlength]
  · rw [List.head?_drop, List.head?_drop]
    exact hl k text (ht ▸ hs)

lemma TakesAll.ne_nil {segments : List Segment} {parts : List (List Char)} (h : TakesAll segments parts)
    (hs : ∀ text, Segment.literal text ∈ segments → text.toList ≠ []) : ∀ part ∈ parts, part ≠ [] := by
  intro part hp
  obtain ⟨k, hk⟩ := List.mem_iff_getElem?.mp hp
  have hhead : (parts.drop k).head? = some part := by rw [List.head?_drop, hk]
  have hmem : part ∈ parts.drop k := List.mem_of_mem_head? hhead
  cases hseg : segments[k]? with
  | some segment =>
    have ht := h.1 k segment hseg
    match segment with
    | .literal text =>
      obtain rfl := Option.some.inj (hhead.symm.trans ht)
      exact hs text (List.mem_of_getElem? hseg)
    | .var _ none =>
      obtain ⟨part', hp', hne⟩ := ht
      obtain rfl := Option.some.inj (hhead.symm.trans hp')
      exact hne
    | .var _ (some .plus) => exact ht.2 part hmem
    | .var _ (some .star) => exact ht part hmem
  | none =>
    have hk' := List.getElem?_eq_none_iff.mp hseg
    have hlt := (List.getElem?_eq_some_iff.mp hk).1
    have hq := h.2.resolve_left (by omega)
    rw [List.getLast?_eq_getElem?] at hq
    obtain ⟨last, hlast, hq⟩ := (Option.any_eq_true _ _).mp hq
    have ht := h.1 _ last hlast
    have hmem' : part ∈ parts.drop (segments.length - 1) := by
      refine List.mem_iff_getElem?.mpr ⟨k - (segments.length - 1), ?_⟩
      rw [List.getElem?_drop, Nat.add_sub_cancel' (by omega), hk]
    match last, hq with
    | .var _ (some .plus), _ => exact ht.2 part hmem'
    | .var _ (some .star), _ => exact ht part hmem'

end Segment

namespace Pattern

lemma parts?_cons {body : List Char} (h : body ≠ []) : parts? ('/' :: body) = some (Pieces.cut '/' body) := by
  cases body with
  | nil => exact absurd rfl h
  | cons c rest => simp [parts?]

lemma parts?_eq_some {path : List Char} {parts : List (List Char)} (h : parts? path = some parts)
    (hroot : path ≠ ['/']) : ∃ body, body ≠ [] ∧ path = '/' :: body ∧ parts = Pieces.cut '/' body := by
  by_cases hstart : path.head? = some '/'
  · obtain ⟨body, rfl⟩ := List.head?_eq_some_iff.mp hstart
    have hbody : body ≠ [] := by
      rintro rfl
      exact hroot rfl
    rw [parts?_cons hbody] at h
    exact ⟨body, hbody, rfl, (Option.some.inj h).symm⟩
  · unfold parts? at h
    split at h
    · exact absurd rfl hstart
    · exact absurd rfl hstart
    · cases h

lemma parts?_pathOf {texts : List (List Char)} (h : texts ≠ []) (hp : Percent.pathOf texts ≠ []) :
    parts? ('/' :: Percent.pathOf texts) = some (texts.map Percent.encode) := by
  rw [parts?_cons hp, Percent.cut_pathOf h]

def IsRoot (p : Pattern) : Prop :=
  p.segments = [.literal ""]

lemma IsRoot.matchesPath_iff {p : Pattern} (hr : p.IsRoot) (path : List Char) :
    p.matchesPath path = true ↔ path = ['/'] := by
  rw [IsRoot] at hr
  rw [matchesPath, if_pos hr, decide_eq_true_iff]

variable {p : Pattern}

lemma Proper.matchesPath_iff (h : p.Proper) (hr : ¬ p.IsRoot) (path : List Char) :
    p.matchesPath path = true ↔ ∃ parts, parts? path = some parts ∧ Segment.TakesAll p.segments parts := by
  rw [IsRoot] at hr
  rw [matchesPath, if_neg hr, Option.any_eq_true]
  simp only [Segment.takeAll_iff h.quantified_last]

/-- Two paths of as many parts are matched alike if the same literals stand at the same places. -/
lemma Proper.matchesPath_congr (h : p.Proper) (hr : ¬ p.IsRoot) {path path' : List Char}
    {parts parts' : List (List Char)} (hp : parts? path = some parts) (hp' : parts? path' = some parts')
    (hlength : parts.length = parts'.length) (hne : ∀ part ∈ parts, part ≠ []) (hne' : ∀ part ∈ parts', part ≠ [])
    (hl : ∀ (k : Nat) (text : String), p.segments[k]? = some (.literal text) →
      (parts[k]? = some text.toList ↔ parts'[k]? = some text.toList)) :
    p.matchesPath path = p.matchesPath path' := by
  rw [Bool.eq_iff_iff, h.matchesPath_iff hr, h.matchesPath_iff hr]
  constructor
  · rintro ⟨_, he, ht⟩
    obtain rfl := Option.some.inj (hp.symm.trans he)
    exact ⟨parts', hp', ht.of_literals hlength hne' fun k text hk => (hl k text hk).mp⟩
  · rintro ⟨_, he, ht⟩
    obtain rfl := Option.some.inj (hp'.symm.trans he)
    exact ⟨parts, hp, ht.of_literals hlength.symm hne fun k text hk => (hl k text hk).mpr⟩

lemma Proper.spelled_of_literal (h : p.Proper) (hr : ¬ p.IsRoot) {text : String}
    (ht : Segment.literal text ∈ p.segments) : ∃ data, data ≠ [] ∧ text.toList = Percent.encode data :=
  h.spelled.resolve_left hr _ ht

lemma Proper.literal_ne_nil (h : p.Proper) (hr : ¬ p.IsRoot) {text : String}
    (ht : Segment.literal text ∈ p.segments) : text.toList ≠ [] := by
  obtain ⟨data, hne, he⟩ := h.spelled_of_literal hr ht
  rw [he]
  exact fun hn => hne ((Percent.encode_eq_nil_iff data).mp hn)

end Pattern

end PathRouter
