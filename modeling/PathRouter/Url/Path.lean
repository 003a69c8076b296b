import PathRouter.Percent
import PathRouter.Url.Kind

/-!
The paths of web addresses: dot segments are resolved, and octets that a path cannot hold are escaped.
-/

namespace PathRouter.Url.Path

def isEscaped (b : UInt8) : Bool :=
  b ≤ 0x20 || 0x7f ≤ b || b ∈ [0x22, 0x23, 0x3c, 0x3e, 0x3f, 0x60, 0x7b, 0x7d]

def escape (text : List Char) : List Char :=
  (Utf8.encode text).flatMap fun b =>
    if isEscaped b then ['%', Percent.hexDigit (b / 16), Percent.hexDigit (b % 16)]
    else [Char.ofUInt8 b]

def plainDots : List Char → List Char
  | '%' :: '2' :: 'e' :: rest => '.' :: plainDots rest
  | '%' :: '2' :: 'E' :: rest => '.' :: plainDots rest
  | c :: rest => c :: plainDots rest
  | [] => []

def isDot (segment : List Char) : Bool :=
  plainDots segment = ['.']

def isDoubleDot (segment : List Char) : Bool :=
  plainDots segment = ['.', '.']

def isDrive (segment : List Char) : Bool :=
  isDriveLetter (segment.take 2) && (segment.length = 2 || segment[2]? = some '\\')

/-- The place above one that is given by its segments, the last one first. A drive is kept. -/
def parent : List (List Char) → List (List Char)
  | [] => []
  | segment :: above => if isDrive segment then segment :: above else above

def descend (kind : Kind) (place : List (List Char)) (segment : List Char) : List (List Char) :=
  if isDoubleDot segment then parent place
  else if isDot segment then place
  else if kind = .file && place.isEmpty && isDriveLetter segment then (segment.take 1 ++ [':']) :: place
  else segment :: place

/-- A drive letter and what follows it in the same segment after a character that does not count. -/
def splitDrive? (text : List Char) : Option (List Char × List Char) := do
  let (letter, rest) ← next? text
  let (colon, rest) ← next? rest
  let after ← rest.head?
  if letter.isAlpha && colon = ':' && isBreak after && !(clean rest).isEmpty then
    some ([letter, colon], clean rest)
  else none

/-- The place after the last of several segments as they are written. A dot segment at the end leaves an
empty one. -/
def resolve (kind : Kind) (place : List (List Char)) : List (List Char) → List (List Char)
  | [] => place
  | text :: rest =>
    match if kind = .file && place.isEmpty then splitDrive? text else none with
    | some (drive, tail) => resolve kind (escape tail :: drive :: place) rest
    | none =>
      let segment := escape (clean text)
      let place := descend kind place segment
      if rest.isEmpty && (isDot segment || isDoubleDot segment) then [] :: place
      else resolve kind place rest

def written (text : List Char) : List Char :=
  text.takeWhile fun c => !endsPath c

/-- The path of the segments that a text writes up to its query or fragment. The path of a file has no empty
segments in front. -/
def ofSegments (kind : Kind) (text : List Char) : List Char :=
  let segments := Pieces.cut '/' ((written text).map fun c => if kind.isSlash c then '/' else c)
  let path := '/' :: Pieces.join '/' (resolve kind [] segments).reverse
  if kind = .file then '/' :: path.dropWhile (· = '/') else path

/-- The path that a text writes up to its query or fragment, where a slash in front is not needed. -/
def ofText (kind : Kind) (text : List Char) : List Char :=
  match next? text with
  | some (c, rest) => ofSegments kind (if kind.isSlash c then rest else text)
  | none => ofSegments kind []

end PathRouter.Url.Path
