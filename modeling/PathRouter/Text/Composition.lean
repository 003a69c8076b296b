import PathRouter.Text.Composition.Pairs
import PathRouter.Text.Mark

/-!
Composing characters with the marks after them, so that texts that look the same are the same. Composed
characters are taken apart, marks are put in the order of their classes, and what belongs together is composed
again. Characters that only stand for other ones are left as they are.
-/

namespace PathRouter.Composition

def firstSyllable : Nat := 0xac00

def firstInitial : Nat := 0x1100

def firstVowel : Nat := 0x1161

def noFinal : Nat := 0x11a7

def initials : Nat := 19

def vowels : Nat := 21

def finals : Nat := 28

def split? (n : Nat) : Option (Nat × Nat) :=
  if firstSyllable ≤ n && n < firstSyllable + initials * vowels * finals then
    let i := n - firstSyllable
    if i % finals = 0 then some (firstInitial + i / finals / vowels, firstVowel + i / finals % vowels)
    else some (n - i % finals, noFinal + i % finals)
  else
    match CodePoints.replacement? pairs n with
    | some [first, second] => some (first, second)
    | _ => none

def composedBy? (first second : Nat) : CodePoints.Rule → Option Nat
  | .spell source targets => if targets = [first, second] then some source else none
  | .shift .. => none

def join? (first second : Nat) : Option Nat :=
  if firstInitial ≤ first && first < firstInitial + initials && firstVowel ≤ second &&
      second < firstVowel + vowels then
    some (firstSyllable + ((first - firstInitial) * vowels + (second - firstVowel)) * finals)
  else if firstSyllable ≤ first && first < firstSyllable + initials * vowels * finals &&
      (first - firstSyllable) % finals = 0 && noFinal < second && second < noFinal + finals then
    some (first + (second - noFinal))
  else pairs.findSome? (composedBy? first second)

/-- Composed characters are made of other ones at most this many times over. -/
def depth : Nat := 3

def parts : Nat → Nat → List Nat
  | 0, n => [n]
  | fuel + 1, n =>
    match split? n with
    | some (first, second) => parts fuel first ++ [second]
    | none => [n]

/-- Puts a character after those before it, the last one first. A mark goes before marks of higher classes. -/
def insert (c : Char) : List Char → List Char
  | [] => [c]
  | d :: before =>
    if Mark.combiningClass c ≠ 0 && Mark.combiningClass c < Mark.combiningClass d then d :: insert c before
    else c :: d :: before

/-- The characters of a text taken apart, with the marks in order. -/
def ordered (text : List Char) : List Char :=
  ((text.flatMap fun c => (parts depth c.toNat).map Char.ofNat).foldl (fun before c => insert c before)
    []).reverse

/-- Composes a base with the marks after it, as far as no other mark of the same or a higher class stands
between. `skipped` holds the marks that were not composed, the last one first, and `class` is the class of the
last one. -/
def compose (base : Char) (skipped : List Char) : List Char → List Char
  | [] => base :: skipped.reverse
  | c :: rest =>
    let number := Mark.combiningClass c
    let isNext := skipped.all fun d => Mark.combiningClass d < number
    match if isNext then join? base.toNat c.toNat else none with
    | some n => compose (Char.ofNat n) skipped rest
    | none =>
      if number = 0 then base :: skipped.reverse ++ compose c [] rest
      else compose base (c :: skipped) rest

/-- The text with its characters composed. Nothing below the first mark composes with what stands before. -/
def normalize (text : List Char) : List Char :=
  if text.all (·.toNat < Mark.least) then text
  else
    match ordered text with
    | [] => []
    | c :: rest => compose c [] rest

end PathRouter.Composition
