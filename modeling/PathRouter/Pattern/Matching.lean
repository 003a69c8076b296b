import PathRouter.Pattern
import PathRouter.Text.Pieces

/-!
Which canonical paths a pattern matches. A path is cut at its slashes, and the segments of the pattern take
its parts one after the other. This says what a pattern means; compiled routers answer without cutting.
-/

namespace PathRouter

/-- Whether segments take all the given parts of a path: a literal the part that it spells, a variable a
part that is not empty, and a quantified variable at the end all the parts that are left. -/
def Segment.takeAll : List Segment → List (List Char) → Bool
  | [], parts => parts.isEmpty
  | .literal text :: rest, part :: parts => part = text.toList && takeAll rest parts
  | .var _ none :: rest, part :: parts => !part.isEmpty && takeAll rest parts
  | [.var _ (some .plus)], parts => !parts.isEmpty && parts.all fun part => !part.isEmpty
  | [.var _ (some .star)], parts => parts.all fun part => !part.isEmpty
  | _, _ => false

namespace Pattern

def parts? : List Char → Option (List (List Char))
  | ['/'] => some []
  | '/' :: body => some (Pieces.cut '/' body)
  | _ => none

/-- Whether a pattern matches a path. The pattern of the root matches the root only. -/
def matchesPath (p : Pattern) (path : List Char) : Bool :=
  if p.segments = [.literal ""] then path = ['/'] else (parts? path).any (Segment.takeAll p.segments)

end Pattern

end PathRouter
