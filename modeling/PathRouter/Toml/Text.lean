import PathRouter.Text.Digits

/-!
The characters of TOML documents: blanks, line ends, comments and quoted strings. A reader takes a text and
gives what it has read together with the rest of the text, or nothing if the text does not fit.
-/

namespace PathRouter.Toml

def isBlank (c : Char) : Bool :=
  c = ' ' || c = '\t'

/-- The characters of a comment, and of literal strings apart from their quotes. -/
def isVisible (c : Char) : Bool :=
  c = '\t' || (0x20 ≤ c.toNat && c.toNat ≠ 0x7f)

def skipBlanks (text : List Char) : List Char :=
  text.dropWhile isBlank

def lineEnd? : List Char → Option (List Char)
  | '\n' :: rest => some rest
  | '\r' :: '\n' :: rest => some rest
  | _ => none

def skipComment (text : List Char) : List Char :=
  match skipBlanks text with
  | '#' :: rest => rest.dropWhile isVisible
  | text => text

def endOfLine? (text : List Char) : Option (List Char) :=
  match skipComment text with
  | [] => some []
  | text => lineEnd? text

def skipLines : Nat → List Char → List Char
  | 0, text => text
  | fuel + 1, text =>
    let text := skipBlanks text
    match lineEnd? (skipComment text) with
    | some rest => skipLines fuel rest
    | none => text

def codePoint? (digits : Nat) (text : List Char) : Option (Char × List Char) := do
  let n ← Digits.numeral? 16 (text.take digits)
  if digits ≤ text.length && (n < 0xd800 || (0xe000 ≤ n && n < 0x110000)) then
    some (Char.ofNat n, text.drop digits)
  else none

def escaped? : List Char → Option (Char × List Char)
  | 'b' :: rest => some ('\x08', rest)
  | 't' :: rest => some ('\t', rest)
  | 'n' :: rest => some ('\n', rest)
  | 'f' :: rest => some ('\x0c', rest)
  | 'r' :: rest => some ('\r', rest)
  | '"' :: rest => some ('"', rest)
  | '\\' :: rest => some ('\\', rest)
  | 'u' :: rest => codePoint? 4 rest
  | 'U' :: rest => codePoint? 8 rest
  | _ => none

/-- The rest of a string of one line, after the characters read so far in reverse. -/
def basic? : Nat → List Char → List Char → Option (String × List Char)
  | 0, _, _ => none
  | fuel + 1, read, text =>
    match text with
    | '"' :: rest => some (String.ofList read.reverse, rest)
    | '\\' :: rest =>
      match escaped? rest with
      | some (c, rest) => basic? fuel (c :: read) rest
      | none => none
    | c :: rest => if isVisible c then basic? fuel (c :: read) rest else none
    | [] => none

def literal? (text : List Char) : Option (String × List Char) :=
  let read := text.takeWhile fun c => isVisible c && c ≠ '\''
  match text.drop read.length with
  | '\'' :: rest => some (String.ofList read, rest)
  | _ => none

/-- The text after a backslash at the end of a line: blanks and line ends are passed over. -/
def lineContinuation? (text : List Char) : Option (List Char) :=
  (lineEnd? (skipBlanks text)).map fun rest =>
    rest.drop (spaceSize rest)
where
  spaceSize : List Char → Nat
    | '\r' :: '\n' :: rest => spaceSize rest + 2
    | c :: rest => if isBlank c || c = '\n' then spaceSize rest + 1 else 0
    | [] => 0

/-- The rest of a string of several lines, after the characters read so far in reverse. Up to two quotes may
stand anywhere, also right before the closing ones. -/
def multiline? (quote : Char) (escapes : Bool) : Nat → List Char → List Char →
    Option (String × List Char)
  | 0, _, _ => none
  | fuel + 1, read, text =>
    match text with
    | [] => none
    | '\r' :: '\n' :: rest => multiline? quote escapes fuel ('\n' :: read) rest
    | '\n' :: rest => multiline? quote escapes fuel ('\n' :: read) rest
    | c :: rest =>
      if c = quote then
        let quotes := (text.takeWhile (· = quote)).length
        if quotes < 3 then multiline? quote escapes fuel (c :: read) rest
        else
          let inside := min (quotes - 3) 2
          some (String.ofList (List.replicate inside quote ++ read).reverse, text.drop (inside + 3))
      else if c = '\\' && escapes then
        match lineContinuation? rest with
        | some rest => multiline? quote escapes fuel read rest
        | none =>
          match escaped? rest with
          | some (c, rest) => multiline? quote escapes fuel (c :: read) rest
          | none => none
      else if isVisible c then multiline? quote escapes fuel (c :: read) rest
      else none

def skipFirstLineEnd (text : List Char) : List Char :=
  (lineEnd? text).getD text

def string? : List Char → Option (String × List Char)
  | '"' :: '"' :: '"' :: rest => multiline? '"' true (rest.length + 1) [] (skipFirstLineEnd rest)
  | '\'' :: '\'' :: '\'' :: rest => multiline? '\'' false (rest.length + 1) [] (skipFirstLineEnd rest)
  | '"' :: rest => basic? (rest.length + 1) [] rest
  | '\'' :: rest => literal? rest
  | _ => none

end PathRouter.Toml
