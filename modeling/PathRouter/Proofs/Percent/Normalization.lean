import PathRouter.Proofs.Percent.Decoding

/-! Normalization is a complete invariant of what the segments of a path spell: it fails exactly if some segment
spells no text, and two paths have the same normal path exactly if they spell the same texts, segment by segment. -/

namespace PathRouter.Percent

section Related

variable {α β γ : Type} {R : α → β → Prop} {S : γ → β → Prop}

lemma exists_related_iff (l : List α) : (∃ u, List.Forall₂ R l u) ↔ ∀ a ∈ l, ∃ b, R a b := by
  induction l with
  | nil => exact iff_of_true ⟨[], .nil⟩ fun _ hm => (by cases hm)
  | cons a rest ih =>
    rw [List.forall_mem_cons, ← ih]
    constructor
    · rintro ⟨_, h⟩
      cases h with
      | cons hr hrest => exact ⟨⟨_, hr⟩, _, hrest⟩
    · rintro ⟨⟨b, hr⟩, u, hrest⟩
      exact ⟨b :: u, .cons hr hrest⟩

lemma related_through_iff (l : List α) (v : List γ) : List.Forall₂ (fun a c => ∃ b, R a b ∧ S c b) l v ↔
    ∃ u, List.Forall₂ R l u ∧ List.Forall₂ S v u := by
  constructor
  · intro h
    induction h with
    | nil => exact ⟨[], .nil, .nil⟩
    | cons hb _ ih =>
      obtain ⟨b, hr, hs⟩ := hb
      obtain ⟨u, hru, hsu⟩ := ih
      exact ⟨b :: u, .cons hr hru, .cons hs hsu⟩
  · rintro ⟨u, hr, hs⟩
    induction hr generalizing v with
    | nil =>
      rw [List.forall₂_nil_right_iff.mp hs]
      exact .nil
    | cons hr _ ih =>
      cases hs with
      | cons hs hrest => exact .cons ⟨_, hr, hs⟩ (ih _ hrest)

lemma exists_of_related {l : List α} {u : List β} (h : List.Forall₂ R l u) {a : α} (ha : a ∈ l) : ∃ b ∈ u, R a b := by
  induction h with
  | nil => cases ha
  | cons hr _ ih =>
    rcases List.mem_cons.mp ha with rfl | ha
    · exact ⟨_, List.mem_cons_self, hr⟩
    · obtain ⟨b, hb, hr⟩ := ih ha
      exact ⟨b, List.mem_cons_of_mem _ hb, hr⟩

lemma related_of_getElem? {l : List α} {u : List β} (h : List.Forall₂ R l u) {k : Nat} {a : α} {b : β}
    (ha : l[k]? = some a) (hb : u[k]? = some b) : R a b := by
  induction h generalizing k with
  | nil => cases ha
  | cons hr _ ih =>
    cases k with
    | zero =>
      obtain rfl := Option.some.inj ha
      obtain rfl := Option.some.inj hb
      exact hr
    | succ k => exact ih ha hb

end Related

lemma forall₂_spells_unique {segments texts texts' : List (List Char)} (h : List.Forall₂ Spells segments texts)
    (h' : List.Forall₂ Spells segments texts') : texts = texts' := by
  have hunique : Relator.RightUnique Spells := fun _ _ _ => Spells.unique
  exact List.right_unique_forall₂' hunique h h'

lemma normalizePath_eq_some_iff (path normal : List Char) : normalizePath path = some normal ↔
    ∃ texts, texts ≠ [] ∧ List.Forall₂ Spells (Pieces.cut '/' path) texts ∧ normal = pathOf texts := by
  constructor
  · intro h
    obtain ⟨texts, hne, hd, rfl⟩ := normalizePath_eq_some h
    exact ⟨texts, hne, hd.imp fun _ _ => (decode_eq_ok_iff _ _).mp, rfl⟩
  · rintro ⟨texts, -, hs, rfl⟩
    have hd := hs.imp fun _ _ => (decode_eq_ok_iff _ _).mpr
    rw [normalizePath_eq_map, (mapM_canonical_iff _ _).mpr ⟨texts, hd, rfl⟩]
    rfl

lemma exists_normalizePath_iff (path : List Char) :
    (∃ normal, normalizePath path = some normal) ↔ ∀ segment ∈ Pieces.cut '/' path, ∃ text, Spells segment text := by
  simp only [normalizePath_eq_some_iff]
  rw [← exists_related_iff]
  constructor
  · rintro ⟨_, texts, _, hs, _⟩
    exact ⟨texts, hs⟩
  · rintro ⟨texts, hs⟩
    refine ⟨_, texts, ?_, hs, rfl⟩
    rintro rfl
    exact Pieces.cut_ne_nil '/' path (List.forall₂_nil_right_iff.mp hs)

lemma not_exists_spells_iff (segment : List Char) : (¬ ∃ text, Spells segment text) ↔
    (∃ i, (Utf8.encode segment)[i]? = some 0x25 ∧ ¬ IsEscapeAt (Utf8.encode segment) i) ∨
      ∀ text, unescape (Utf8.encode segment) ≠ Utf8.encode text := by
  rw [exists_spells_iff, not_and_or, not_forall, not_exists]
  simp only [Classical.not_imp]

lemma normalizePath_eq_none_iff (path : List Char) : normalizePath path = none ↔
    ∃ segment ∈ Pieces.cut '/' path,
      (∃ i, (Utf8.encode segment)[i]? = some 0x25 ∧ ¬ IsEscapeAt (Utf8.encode segment) i) ∨
        ∀ text, unescape (Utf8.encode segment) ≠ Utf8.encode text := by
  simp only [← not_exists_spells_iff]
  rw [← Option.not_isSome_iff_eq_none, Option.isSome_iff_exists, exists_normalizePath_iff]
  simp only [not_forall, exists_prop]

lemma pathOf_inj {texts texts' : List (List Char)} (hne : texts ≠ []) (hne' : texts' ≠ []) :
    pathOf texts = pathOf texts' ↔ texts = texts' := by
  refine ⟨fun h => ?_, congrArg pathOf⟩
  have hcut := congrArg (Pieces.cut '/') h
  rw [cut_pathOf hne, cut_pathOf hne'] at hcut
  exact List.map_injective_iff.mpr encode_injective hcut

lemma normal_eq_iff {path path' normal normal' : List Char} (h : normalizePath path = some normal)
    (h' : normalizePath path' = some normal') : normal = normal' ↔
      List.Forall₂ (fun segment segment' => ∃ text, Spells segment text ∧ Spells segment' text)
        (Pieces.cut '/' path) (Pieces.cut '/' path') := by
  obtain ⟨texts, hne, hs, rfl⟩ := (normalizePath_eq_some_iff _ _).mp h
  obtain ⟨texts', hne', hs', rfl⟩ := (normalizePath_eq_some_iff _ _).mp h'
  rw [pathOf_inj hne hne', related_through_iff]
  constructor
  · rintro rfl
    exact ⟨texts, hs, hs'⟩
  · rintro ⟨both, hb, hb'⟩
    rw [forall₂_spells_unique hs hb, forall₂_spells_unique hs' hb']

lemma normalizePath_idempotent {path normal : List Char} (h : normalizePath path = some normal) :
    normalizePath normal = some normal := by
  obtain ⟨texts, hne, -, rfl⟩ := (normalizePath_eq_some_iff _ _).mp h
  exact normalizePath_pathOf hne

lemma exists_spells_of_getElem? {path normal segment spelling : List Char} (h : normalizePath path = some normal)
    {k : Nat} (hk : (Pieces.cut '/' path)[k]? = some segment) (hn : (Pieces.cut '/' normal)[k]? = some spelling) :
    ∃ text, Spells segment text ∧ spelling = encode text := by
  obtain ⟨texts, hne, hs, rfl⟩ := (normalizePath_eq_some_iff _ _).mp h
  rw [cut_pathOf hne, List.getElem?_map] at hn
  obtain ⟨text, ht, rfl⟩ := Option.map_eq_some_iff.mp hn
  exact ⟨text, related_of_getElem? hs hk ht, rfl⟩

end PathRouter.Percent
