import PathRouter.Text.Blank
import PathRouter.Url.Host
import PathRouter.Url.Path

/-!
Web addresses, as far as their paths go. Parts that do not bear on the path are only checked: an address
with a bad host or port has no path.
-/

namespace PathRouter

structure Url where
  path? : Option (List Char)
  deriving Repr, DecidableEq

namespace Url

def schemeTail? : List Char → Option (List Char × List Char)
  | [] => none
  | c :: rest =>
    if isBreak c then schemeTail? rest
    else if c = ':' then some ([], rest)
    else if c.isAlphanum || c = '+' || c = '-' || c = '.' then
      (schemeTail? rest).map fun (scheme, rest) => (c.toLower :: scheme, rest)
    else none

def scheme? (text : List Char) : Option (List Char × List Char) :=
  match next? text with
  | some (c, _) => if c.isAlpha then schemeTail? text else none
  | none => none

def afterUser? (kind : Kind) (text : List Char) : Option (Bool × List Char) :=
  let authority := text.takeWhile fun c => !kind.endsAuthority c
  if '@' ∈ authority then
    let tail := (authority.reverse.takeWhile (· ≠ '@')).reverse
    let user := clean (authority.take (authority.length - tail.length - 1))
    let rest := text.drop (authority.length - tail.length)
    if user.isEmpty && (clean tail).isEmpty && rest.length ≠ tail.length then none
    else some (!user.isEmpty && user ≠ [':'], rest)
  else some (false, text)

def hostText (kind : Kind) (inBrackets : Bool) : List Char → List Char
  | [] => []
  | c :: rest =>
    if kind.endsAuthority c || (c = ':' && !inBrackets) then []
    else c :: hostText kind (c = '[' || (inBrackets && c ≠ ']')) rest

def afterPort? (text : List Char) : Option (List Char) :=
  let digits := text.takeWhile fun c => c.isDigit || isBreak c
  let rest := text.drop digits.length
  if (Digits.numeral? 10 (clean digits)).any (· < 65536) &&
      (rest.isEmpty || rest.head?.any fun c => c = '/' || c = '\\' || endsPath c) then some rest
  else none

/-- The text after an authority, if it is one: a web address needs a host, and without a host there is
neither user nor port. -/
def afterAuthority? (kind : Kind) (text : List Char) : Option (List Char) := do
  let (hasUser, text) ← afterUser? kind text
  let written := hostText kind false text
  let host := clean written
  let rest := text.drop written.length
  if host.isEmpty then
    if kind ≠ .other || hasUser || rest.head? = some ':' then none else some rest
  else if Host.isHost kind host then
    match rest with
    | ':' :: rest => afterPort? rest
    | _ => some rest
  else none

/-- The address after two slashes. The path may be missing where the kind of address allows it. -/
def ofAuthority? (kind : Kind) (text : List Char) : Option Url := do
  let rest ← afterAuthority? kind text
  let isMissing :=
    match next? rest with
    | none => true
    | some (c, _) => endsPath c
  some ⟨some (if kind = .other && isMissing then [] else Path.ofText kind rest)⟩

/-- The address of a file after two slashes. A drive letter in the place of the host begins the path, and
without a host the slash after it counts as a separator. -/
def ofFileHost? (text : List Char) : Option Url :=
  let written := text.takeWhile fun c => !Kind.file.endsAuthority c
  let host := clean written
  let rest := text.drop written.length
  if isDriveLetter host then some ⟨some (Path.ofSegments .file text)⟩
  else if host.isEmpty then some ⟨some (Path.ofSegments .file rest)⟩
  else if Host.isHost .file host then
    some ⟨some (if Host.isLocal host then Path.ofSegments .file rest else Path.ofText .file rest)⟩
  else none

def ofFile? (text : List Char) : Option Url :=
  match next? text with
  | some (c, rest) =>
    match if c = '/' || c = '\\' then next? rest else none with
    | some (d, rest) =>
      if d = '/' || d = '\\' then ofFileHost? rest
      else some ⟨some (Path.ofText .file text)⟩
    | none => some ⟨some (Path.ofText .file text)⟩
  | none => some ⟨some (Path.ofText .file text)⟩

def ofReference? (text : List Char) : Option Url :=
  let (count, rest) := leadingSlashes text
  if 2 ≤ count then
    match next? text with
    | some ('/', tail) =>
      match next? tail with
      | some ('/', tail) => ofAuthority? .web tail
      | _ => ofAuthority? .web rest
    | _ => ofAuthority? .web rest
  else some ⟨some (Path.ofText .web text)⟩

def ofOther? (text : List Char) : Option Url :=
  match next? text with
  | some ('/', rest) =>
    match next? rest with
    | some ('/', rest) => ofAuthority? .other rest
    | _ => some ⟨some (Path.ofText .other text)⟩
  | _ => some ⟨none⟩

/-- Reads an address. A reference without a scheme needs a site to start from, which is given by its
scheme; a web address with this scheme and no authority starts there, too. -/
def parse? (site : Option (List Char)) (text : List Char) : Option Url :=
  let text := Blank.trimBy (· ≤ ' ') text
  match scheme? text with
  | none => if site.isSome then ofReference? text else none
  | some (scheme, rest) =>
    match Kind.ofScheme scheme with
    | .file => ofFile? rest
    | .other => ofOther? rest
    | .web =>
      let (count, tail) := leadingSlashes rest
      if count < 2 && site = some scheme then ofReference? rest else ofAuthority? .web tail

end Url

end PathRouter
