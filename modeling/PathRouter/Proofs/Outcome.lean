import Mathlib.Logic.Basic

/-! Fallible steps whose result is passed through a function. -/

namespace PathRouter

variable {ε α β : Type} {x : Except ε α} {f : α → β}

lemma exists_of_map_eq_ok {b : β} (h : x.map f = .ok b) : ∃ a, x = .ok a ∧ f a = b := by
  cases x with
  | error e => cases h
  | ok a => exact ⟨a, rfl, Except.ok.inj h⟩

lemma map_eq_ok_iff (x : Except ε α) (f : α → β) (b : β) : x.map f = .ok b ↔ ∃ a, x = .ok a ∧ f a = b :=
  ⟨exists_of_map_eq_ok, fun ⟨_, ha, hb⟩ => by rw [ha, ← hb]; rfl⟩

lemma exists_map_eq_ok_iff : (∃ b, x.map f = .ok b) ↔ ∃ a, x = .ok a := by
  cases x with
  | error e => exact ⟨fun ⟨_, h⟩ => (by cases h), fun ⟨_, h⟩ => (by cases h)⟩
  | ok a => exact ⟨fun _ => ⟨a, rfl⟩, fun _ => ⟨f a, rfl⟩⟩

lemma eq_error_of_map_eq_error {e : ε} (h : x.map f = .error e) : x = .error e := by
  cases x with
  | error e' => rw [Except.error.inj h]
  | ok a => cases h

lemma eq_ok_of_mapError_eq_ok {ε' : Type} {f : ε → ε'} {a : α} (h : x.mapError f = .ok a) : x = .ok a := by
  cases x with
  | error e => cases h
  | ok a' => rw [Except.ok.inj h]

lemma map_eq_error_iff (x : Except ε α) (f : α → β) (e : ε) : x.map f = .error e ↔ x = .error e :=
  ⟨eq_error_of_map_eq_error, fun h => h ▸ rfl⟩

end PathRouter
