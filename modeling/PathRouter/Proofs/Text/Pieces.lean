import Mathlib.Data.List.TakeWhile
import PathRouter.Text.Pieces

/-! Cutting and joining are inverse to each other on pieces without separators. -/

namespace PathRouter.Pieces

section Join

variable {α : Type}

@[simp] lemma join_cons_cons (separator : α) (piece next : List α) (rest : List (List α)) :
    join separator (piece :: next :: rest) = piece ++ separator :: join separator (next :: rest) := by
  simp [join, List.intercalate]

@[simp] lemma join_singleton (separator : α) (piece : List α) : join separator [piece] = piece := by
  simp [join, List.intercalate]

lemma join_consHead (separator a : α) (piece : List α) (pieces : List (List α)) :
    join separator (consHead a (piece :: pieces)) = a :: join separator (piece :: pieces) := by
  cases pieces with
  | nil => rw [consHead, join_singleton, join_singleton]
  | cons next rest => rw [consHead, join_cons_cons, join_cons_cons, List.cons_append]

lemma mem_join {separator a : α} {pieces : List (List α)} (h : a ∈ join separator pieces) :
    a = separator ∨ ∃ piece ∈ pieces, a ∈ piece := by
  induction pieces with
  | nil => cases h
  | cons piece rest ih =>
    cases rest with
    | nil =>
      rw [join_singleton] at h
      exact .inr ⟨piece, List.mem_cons_self, h⟩
    | cons next rest =>
      rw [join_cons_cons] at h
      rcases List.mem_append.mp h with h | h
      · exact .inr ⟨piece, List.mem_cons_self, h⟩
      · rcases List.mem_cons.mp h with rfl | h
        · exact .inl rfl
        · exact (ih h).imp_right fun ⟨other, ho, ha⟩ => ⟨other, List.mem_cons_of_mem _ ho, ha⟩

end Join

variable {α : Type} [DecidableEq α] {separator : α}

@[simp] lemma cut_cons_separator (text : List α) : cut separator (separator :: text) = [] :: cut separator text := by
  simp [cut]

lemma cut_cons_of_ne {a : α} (ha : a ≠ separator) (text : List α) :
    cut separator (a :: text) = consHead a (cut separator text) := by
  simp [cut, ha]

lemma exists_cut (separator : α) (text : List α) :
    ∃ piece pieces, cut separator text = piece :: pieces := by
  cases hc : cut separator text with
  | nil => exact absurd hc (cut_ne_nil separator text)
  | cons piece pieces => exact ⟨piece, pieces, rfl⟩

@[simp] lemma join_cut (separator : α) (text : List α) : join separator (cut separator text) = text := by
  induction text with
  | nil => exact join_singleton separator []
  | cons a rest ih =>
    obtain ⟨piece, pieces, hc⟩ := exists_cut separator rest
    by_cases ha : a = separator
    · subst ha
      rw [cut_cons_separator, hc, join_cons_cons, ← hc, ih, List.nil_append]
    · rw [cut_cons_of_ne ha, hc, join_consHead, ← hc, ih]

lemma cut_append {piece : List α} (hp : separator ∉ piece) (rest : List α) :
    cut separator (piece ++ separator :: rest) = piece :: cut separator rest := by
  induction piece with
  | nil => exact cut_cons_separator rest
  | cons a piece ih =>
    have ha : a ≠ separator := (List.ne_of_not_mem_cons hp).symm
    rw [List.cons_append, cut_cons_of_ne ha, ih (List.not_mem_of_not_mem_cons hp), consHead]

@[simp]
lemma cut_append_separator (text : List α) : cut separator (text ++ [separator]) = cut separator text ++ [[]] := by
  induction text with
  | nil => simp [cut]
  | cons a rest ih =>
    obtain ⟨piece, pieces, hc⟩ := exists_cut separator rest
    by_cases ha : a = separator
    · subst ha
      rw [List.cons_append, cut_cons_separator, cut_cons_separator, ih, List.cons_append]
    · rw [List.cons_append, cut_cons_of_ne ha, cut_cons_of_ne ha, ih, hc]
      rfl

lemma cut_of_not_mem {piece : List α} (hp : separator ∉ piece) : cut separator piece = [piece] := by
  induction piece with
  | nil => rfl
  | cons a piece ih =>
    have ha : a ≠ separator := (List.ne_of_not_mem_cons hp).symm
    rw [cut_cons_of_ne ha, ih (List.not_mem_of_not_mem_cons hp), consHead]

lemma cut_join {pieces : List (List α)} (hne : pieces ≠ []) (hp : ∀ piece ∈ pieces, separator ∉ piece) :
    cut separator (join separator pieces) = pieces := by
  induction pieces with
  | nil => exact absurd rfl hne
  | cons piece rest ih =>
    cases rest with
    | nil => rw [join_singleton, cut_of_not_mem (hp piece List.mem_cons_self)]
    | cons next rest =>
      rw [join_cons_cons, cut_append (hp piece List.mem_cons_self),
        ih (List.cons_ne_nil _ _) (fun x hx => hp x (List.mem_cons_of_mem _ hx))]

section First

variable {front rest : List α}

lemma takeWhile_append (h : separator ∉ front) : (front ++ separator :: rest).takeWhile (· ≠ separator) = front := by
  have hp : ∀ a ∈ front, decide (a ≠ separator) = true := fun a ha => decide_eq_true fun he => h (he ▸ ha)
  rw [List.takeWhile_append_of_pos hp, List.takeWhile_cons_of_neg (by simp), List.append_nil]

lemma dropWhile_append (h : separator ∉ front) :
    (front ++ separator :: rest).dropWhile (· ≠ separator) = separator :: rest := by
  have hp : ∀ a ∈ front, decide (a ≠ separator) = true := fun a ha => decide_eq_true fun he => h (he ▸ ha)
  rw [List.dropWhile_append_of_pos hp, List.dropWhile_cons_of_neg (by simp)]

end First

lemma head?_join {pieces : List (List α)} (hp : ∀ piece ∈ pieces, separator ∉ piece)
    (hne : ∀ piece ∈ pieces, piece ≠ []) : (join separator pieces).head? ≠ some separator := by
  intro h
  obtain ⟨body, hbody⟩ := List.head?_eq_some_iff.mp h
  have hpieces : pieces ≠ [] := by
    rintro rfl
    cases h
  have hcut := cut_join hpieces hp
  rw [hbody, cut_cons_separator] at hcut
  exact hne [] (hcut ▸ List.mem_cons_self) rfl

lemma mem_of_mem_cut {text piece : List α} {a : α} (h : piece ∈ cut separator text) (ha : a ∈ piece) :
    a ∈ text ∧ a ≠ separator := by
  induction text generalizing piece with
  | nil =>
    obtain rfl := List.mem_singleton.mp h
    cases ha
  | cons b rest ih =>
    obtain ⟨first, pieces, hc⟩ := exists_cut separator rest
    by_cases hb : b = separator
    · subst hb
      rw [cut_cons_separator] at h
      rcases List.mem_cons.mp h with rfl | h
      · cases ha
      · exact ⟨List.mem_cons_of_mem _ (ih h ha).1, (ih h ha).2⟩
    · rw [cut_cons_of_ne hb, hc, consHead] at h
      rw [hc] at ih
      rcases List.mem_cons.mp h with rfl | h
      · rcases List.mem_cons.mp ha with rfl | ha
        · exact ⟨List.mem_cons_self, hb⟩
        · exact ⟨List.mem_cons_of_mem _ (ih List.mem_cons_self ha).1, (ih List.mem_cons_self ha).2⟩
      · have hh := ih (List.mem_cons_of_mem _ h) ha
        exact ⟨List.mem_cons_of_mem _ hh.1, hh.2⟩

end PathRouter.Pieces
