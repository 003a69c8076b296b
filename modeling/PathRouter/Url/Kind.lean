/-!
The kinds of web addresses, told apart by their schemes, and the characters that their parts are cut at.
-/

namespace PathRouter.Url

inductive Kind where
  /-- A host is required, and backslashes count as slashes. -/
  | web
  /-- Files: a host is possible, and backslashes count as slashes. -/
  | file
  | other
  deriving Repr, DecidableEq

def Kind.ofScheme (scheme : List Char) : Kind :=
  if scheme ∈ ["http".toList, "https".toList, "ws".toList, "wss".toList, "ftp".toList] then .web
  else if scheme = "file".toList then .file
  else .other

/-- The characters that do not count wherever they stand. -/
def isBreak (c : Char) : Bool :=
  c = '\t' || c = '\n' || c = '\r'

def clean (text : List Char) : List Char :=
  text.filter fun c => !isBreak c

def next? : List Char → Option (Char × List Char)
  | [] => none
  | c :: rest => if isBreak c then next? rest else some (c, rest)

def Kind.isSlash (kind : Kind) (c : Char) : Bool :=
  c = '/' || (c = '\\' && kind ≠ .other)

def endsPath (c : Char) : Bool :=
  c = '?' || c = '#'

def Kind.endsAuthority (kind : Kind) (c : Char) : Bool :=
  kind.isSlash c || endsPath c

def leadingSlashes : List Char → Nat × List Char
  | [] => (0, [])
  | c :: rest =>
    if isBreak c then leadingSlashes rest
    else if c = '/' || c = '\\' then
      let (count, rest) := leadingSlashes rest
      (count + 1, rest)
    else (0, c :: rest)

def isDriveLetter : List Char → Bool
  | [c, d] => c.isAlpha && (d = ':' || d = '|')
  | _ => false

end PathRouter.Url
