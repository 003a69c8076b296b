/-!
Cutting a list at a separator. There is one piece more than there are separators, and joining the
pieces again gives the list back.
-/

namespace PathRouter.Pieces

variable {α : Type} [DecidableEq α]

def consHead (a : α) : List (List α) → List (List α)
  | [] => [[a]]
  | piece :: pieces => (a :: piece) :: pieces

def cut (separator : α) : List α → List (List α)
  | [] => [[]]
  | a :: rest => if a = separator then [] :: cut separator rest else consHead a (cut separator rest)

def join (separator : α) (pieces : List (List α)) : List α :=
  [separator].intercalate pieces

@[simp] theorem cut_ne_nil (separator : α) (text : List α) : cut separator text ≠ [] := by
  cases text with
  | nil => simp [cut]
  | cons a rest =>
    simp only [cut]
    split
    · simp
    · cases cut separator rest <;> simp [consHead]

end PathRouter.Pieces
