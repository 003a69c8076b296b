import PathRouter.Pattern
import PathRouter.Percent

/-!
Reading the text of a pattern. The first fault from the left is reported, with the octet it stands at.
-/

namespace PathRouter.Pattern

def readQuantifier (start : Nat) : List Char → Except Fault (Option Quantifier)
  | [] => .ok none
  | ['+'] => .ok (some .plus)
  | ['*'] => .ok (some .star)
  | c :: rest =>
    match rest with
    | d :: _ =>
      if c = '+' || c = '*' then .error ⟨.illegalToken d, start + 1⟩
      else .error ⟨.illegalToken c, start⟩
    | [] => .error ⟨.illegalToken c, start⟩

def readVariable (text : List Char) : Except Fault Segment :=
  let name := text.takeWhile (· ≠ '}')
  match text.dropWhile (· ≠ '}') with
  | [] => .error ⟨.unclosedVariable, 0⟩
  | _ :: tail =>
    if name.isEmpty then .error ⟨.emptyVariableName, 0⟩
    else if '{' ∈ name then
      .error ⟨.illegalToken '{', 1 + Utf8.size (name.takeWhile (· ≠ '{'))⟩
    else (readQuantifier (Utf8.size name + 2) tail).map (.var (String.ofList name))

def readLiteral (text : List Char) : Except Fault Segment :=
  if '{' ∈ text then .error ⟨.illegalToken '{', Utf8.size (text.takeWhile (· ≠ '{'))⟩
  else
    match Percent.canonical text with
    | .ok canonical => .ok (.literal (String.ofList canonical))
    | .error (.malformed offset) => .error ⟨.malformedEscape, offset⟩
    | .error .notUtf8 => .error ⟨.malformedEscape, 0⟩

def readSegment : List Char → Except Fault Segment
  | '{' :: rest => readVariable rest
  | text => readLiteral text

/-- Checks a segment against its place: a quantifier stands only in the last segment, as its last
character, and no name is bound twice. -/
def place (names : List String) (isLast : Bool) (size : Nat) : Segment → Except Fault (List String)
  | .literal _ => .ok names
  | .var name quantifier =>
    if quantifier.isSome && !isLast then .error ⟨.misplacedQuantifier, size - 1⟩
    else if name ∈ names then .error ⟨.duplicateVariable name, 0⟩
    else .ok (name :: names)

def readSegments (mode : Mode) (start : Nat) (names : List String) :
    List (List Char) → Except Fault (List Segment)
  | [] => .ok []
  | text :: rest =>
    if text.isEmpty then .error ⟨.emptySegment, start - 1⟩
    else
      let next := start + Utf8.size text + 1
      match mode with
      | .verbatim =>
        (readSegments mode next names rest).map (.literal (String.ofList (Percent.encode text)) :: ·)
      | .template =>
        match readSegment text with
        | .error fault => .error (fault.shift start)
        | .ok segment =>
          match place names rest.isEmpty (Utf8.size text) segment with
          | .error fault => .error (fault.shift start)
          | .ok names => (readSegments mode next names rest).map (segment :: ·)

def readAll (mode : Mode) : List Char → Except Fault (List Segment)
  | ['/'] => .ok [.literal ""]
  | '/' :: body =>
    if body.getLast? = some '/' then .error ⟨.trailingSlash, Utf8.size body⟩
    else readSegments mode 1 [] (Pieces.cut '/' body)
  | _ => .error ⟨.missingLeadingSlash, 0⟩

def parse (mode : Mode) (source : String) : Except SyntaxError Pattern :=
  match readAll mode source.toList with
  | .ok segments => .ok ⟨segments, source⟩
  | .error fault => .error ⟨fault.cause, fault.offset, source⟩

end PathRouter.Pattern
