import PathRouter.Text.Composition
import PathRouter.Url.Domain.Direction
import PathRouter.Url.Domain.Folding
import PathRouter.Url.Domain.Joining
import PathRouter.Url.Punycode

/-!
Domain names as they stand in web addresses. A name counts as its folded and composed form, in which labels
that are spelled in ASCII are read, and every label must be one.
-/

namespace PathRouter.Url.Domain

def isForbidden (c : Char) : Bool :=
  c.toNat ≤ 0x20 || c = '\x7f' ||
    c ∈ ['%', '#', '/', ':', '<', '>', '?', '@', '[', '\\', ']', '^', '|']

def isAscii (c : Char) : Bool :=
  c.toNat < 0x80

def greatestSpelling : Nat := 2000

def greatestLabel : Nat := 1000

/-- The label that a folded text after the mark of a spelling stands for. It must be folded and composed
itself. -/
def ofSpelling? (text : List Char) : Option (List Char) :=
  if text.isEmpty || text.getLast? = some '-' || greatestSpelling < text.length then none
  else
    (Punycode.decode? text).filter fun label =>
      label.all isFolded && Composition.normalize label = label

def label? : List Char → Option (List Char)
  | 'x' :: 'n' :: '-' :: '-' :: text => ofSpelling? text
  | text => some text

/-- Whether a label may stand in a domain name: it does not begin with a mark, and joiners are where they
belong. -/
def isLabel (label : List Char) : Bool :=
  label.all (fun c => !isForbidden c) && !label.head?.any Mark.isMark && Joining.areInPlace [] label &&
    (label.all isAscii || label.length ≤ greatestLabel)

def fold (name : List Char) : Option (List Char) := do
  let folded := Composition.normalize (← name.mapM fold?).flatten
  let labels ← (Pieces.cut '.' folded).mapM label?
  if labels.all isLabel && Direction.areLabels labels then some (Pieces.join '.' labels) else none

end PathRouter.Url.Domain
