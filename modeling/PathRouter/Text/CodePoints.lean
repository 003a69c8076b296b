import PathRouter.Text.Digits
import PathRouter.Text.Pieces

/-!
Tables of code points. A table is written in lines of words, with the code points in hexadecimal digits.
-/

namespace PathRouter.CodePoints

def words (lines : List String) : List (List Char) :=
  lines.flatMap fun line => Pieces.cut ' ' line.toList

def point (word : List Char) : Nat :=
  (Digits.numeral? 16 word).getD 0

structure Range where
  first : Nat
  last : Nat
  deriving Repr, DecidableEq

namespace Range

def contains (range : Range) (n : Nat) : Bool :=
  range.first ≤ n && n ≤ range.last

/-- A range is written as its ends with a hyphen between them, or as the only code point in it. -/
def ofWord (word : List Char) : Range :=
  let ends := (Pieces.cut '-' word).map point
  ⟨ends.headD 0, ends.getLastD 0⟩

end Range

def ranges (lines : List String) : List Range :=
  (words lines).map Range.ofWord

def anyContains (table : List Range) (n : Nat) : Bool :=
  table.any (·.contains n)

inductive Rule where
  /-- From the first to the last one, those that are a multiple of the step away from the first, by the code
  points that are as far from the target. -/
  | shift (first last step target : Nat)
  | spell (source : Nat) (targets : List Nat)
  deriving Repr, DecidableEq

namespace Rule

def target? (rule : Rule) (n : Nat) : Option (List Nat) :=
  match rule with
  | shift first last step target =>
    if first ≤ n && n ≤ last && (n - first) % step = 0 then some [target + (n - first)] else none
  | spell source targets => if n = source then some targets else none

/-- The rules of a word. It names its sources before a colon: a range, in which every code point counts, or
every second one if a stroke follows the hyphen, and then the first target; or the first of several sources
that follow one another, and then a sequence for each of them, with semicolons between the sequences and
commas inside. -/
def ofWord (word : List Char) : List Rule :=
  match Pieces.cut ':' word with
  | [sources, targets] =>
    match Pieces.cut '-' sources with
    | [first, '/' :: last] => [shift (point first) (point last) 2 (point targets)]
    | [first, last] => [shift (point first) (point last) 1 (point targets)]
    | _ =>
      (Pieces.cut ';' targets).zipIdx.map fun (sequence, i) =>
        spell (point sources + i) ((Pieces.cut ',' sequence).map point)
  | _ => []

end Rule

def rules (lines : List String) : List Rule :=
  (words lines).flatMap Rule.ofWord

def replacement? (table : List Rule) (n : Nat) : Option (List Nat) :=
  table.findSome? (·.target? n)

end PathRouter.CodePoints
