import PathRouter.Url.Domain.Folding.Refused
import PathRouter.Url.Domain.Folding.Replaced

/-!
What the characters of a domain name count as: letter case does not count, characters that only stand for
other ones count as those, and some are passed over or refused.
-/

namespace PathRouter.Url.Domain

def fold? (c : Char) : Option (List Char) :=
  if c.toNat < 0x80 then some [c.toLower]
  else
    match CodePoints.replacement? Folding.replaced c.toNat with
    | some points => some (points.map Char.ofNat)
    | none =>
      if CodePoints.anyContains Folding.ignored c.toNat then some []
      else if CodePoints.anyContains Folding.refused c.toNat then none
      else some [c]

def isFolded (c : Char) : Bool :=
  fold? c = some [c]

end PathRouter.Url.Domain
