import PathRouter.Config.Regex
import PathRouter.Text.Alphanumeric
import PathRouter.Text.Blank
import PathRouter.Text.Digits

/-!
Reading regular expressions. Counted repetitions, references back, sets of characters by property and looking
around are not read.
-/

namespace PathRouter.Regex

namespace Reader

def afterBlanks (inComment : Bool) : List Char → List Char
  | [] => []
  | c :: rest =>
    if inComment then afterBlanks (c ≠ '\n') rest
    else if Blank.isBlank c then afterBlanks false rest
    else if c = '#' then afterBlanks true rest
    else c :: rest

def skip (skipsBlanks : Bool) (text : List Char) : List Char :=
  if skipsBlanks then afterBlanks false text else text

/-- The character that is looked at after one. Of a comment, the first character that is not blank is. -/
def following? (skipsBlanks : Bool) (rest : List Char) : Option Char :=
  if skipsBlanks then
    match rest.dropWhile Blank.isBlank with
    | '#' :: rest => (rest.dropWhile Blank.isBlank).head?
    | rest => rest.head?
  else rest.head?

def hex? (skipsBlanks : Bool) : Nat → Nat → List Char → Option (Char × List Char)
  | 0, n, text =>
    if n < 0xd800 || (0xe000 ≤ n && n < 0x110000) then some (Char.ofNat n, text) else none
  | digits + 1, n, text =>
    match skip skipsBlanks text with
    | [] => none
    | c :: rest => (Digits.value? c).bind fun d => hex? skipsBlanks digits (16 * n + d) rest

def escape? (skipsBlanks : Bool) : List Char → Option (Regex × List Char)
  | [] => none
  | c :: rest =>
    match c with
    | 'x' => (hex? skipsBlanks 2 0 rest).map fun (c, rest) => (.char c true, rest)
    | 'u' => (hex? skipsBlanks 4 0 rest).map fun (c, rest) => (.char c false, rest)
    | 'U' => (hex? skipsBlanks 8 0 rest).map fun (c, rest) => (.char c false, rest)
    | 'd' | 's' | 'w' => some (.shorthand false, rest)
    | 'D' | 'S' | 'W' => some (.shorthand true, rest)
    | 'a' => some (.char '\x07' false, rest)
    | 'f' => some (.char '\x0c' false, rest)
    | 't' => some (.char '\t' false, rest)
    | 'n' => some (.char '\n' false, rest)
    | 'r' => some (.char '\r' false, rest)
    | 'v' => some (.char '\x0b' false, rest)
    | 'A' | 'z' => some (.edge false, rest)
    | 'B' | '<' | '>' => some (.edge true, rest)
    | 'b' => if rest.head? = some '{' then none else some (.edge true, rest)
    | c => if c.toNat < 0x80 && !c.isAlphanum then some (.char c false, rest) else none

def setNames : List String :=
  ["alnum", "alpha", "ascii", "blank", "cntrl", "digit", "graph", "lower", "print", "punct", "space", "upper",
    "word", "xdigit"]

def named? : List Char → Option (CharSet × List Char)
  | ':' :: text =>
    let negated := text.head? = some '^'
    let text := if negated then text.drop 1 else text
    match text.dropWhile (· ≠ ':') with
    | ':' :: ']' :: rest =>
      let name := String.ofList (text.takeWhile (· ≠ ':'))
      if setNames.contains name then some (.named negated, rest) else none
    | _ => none
  | _ => none

def setItem? (skipsBlanks : Bool) : List Char → Option (Regex × List Char)
  | [] => none
  | '\\' :: rest => escape? skipsBlanks rest
  | c :: rest => some (.char c false, rest)

/-- A range of a set, or one character or escape. A hyphen makes a range, unless the set ends behind it or
another hyphen follows. -/
def setRange? (skipsBlanks : Bool) (text : List Char) : Option (CharSet × List Char) := do
  let (item, rest) ← setItem? skipsBlanks text
  let isRange :=
    match skip skipsBlanks rest with
    | '-' :: rest => following? skipsBlanks rest ≠ some ']' && following? skipsBlanks rest ≠ some '-'
    | _ => false
  if isRange then
    let (last, rest) ← setItem? skipsBlanks (skip skipsBlanks ((skip skipsBlanks rest).drop 1))
    match item, last with
    | .char first _, .char last _ => if first ≤ last then some (.range first last, rest) else none
    | _, _ => none
  else
    match item with
    | .char c _ => some (.range c c, rest)
    | .shorthand negated => some (.shorthand negated, rest)
    | _ => none

def operand (left? : Option CharSet) (sets : List CharSet) : CharSet :=
  match left? with
  | none => .ofList sets.reverse
  | some left => .operation left (.ofList sets.reverse)

mutual

def set? : Nat → Bool → List Char → Option (CharSet × List Char)
  | 0, _, _ => none
  | fuel + 1, skipsBlanks, text =>
    match skip skipsBlanks text with
    | '^' :: rest => (sets? fuel skipsBlanks true none [] rest).map fun (s, rest) => (.bracketed true s, rest)
    | text => (sets? fuel skipsBlanks true none [] text).map fun (s, rest) => (.bracketed false s, rest)

/-- The sets up to the closing bracket, after those read so far. Where a set begins, hyphens stand for
themselves, and so does a closing bracket if it is the first character. -/
def sets? : Nat → Bool → Bool → Option CharSet → List CharSet → List Char → Option (CharSet × List Char)
  | 0, _, _, _, _, _ => none
  | fuel + 1, skipsBlanks, isStart, left?, sets, text =>
    match skip skipsBlanks text with
    | [] => none
    | c :: rest =>
      if isStart && c = '-' then sets? fuel skipsBlanks true left? (.range '-' '-' :: sets) rest
      else if c = ']' then
        if isStart && sets.isEmpty then sets? fuel skipsBlanks false left? [.range ']' ']'] rest
        else some (operand left? sets, rest)
      else if c = '[' then
        match (named? rest).or (set? fuel skipsBlanks rest) with
        | some (s, rest) => sets? fuel skipsBlanks false left? (s :: sets) rest
        | none => none
      else if (c = '&' || c = '-' || c = '~') && rest.head? = some c then
        sets? fuel skipsBlanks false (some (operand left? sets)) [] (rest.drop 1)
      else
        match setRange? skipsBlanks (c :: rest) with
        | some (s, rest) => sets? fuel skipsBlanks false left? (s :: sets) rest
        | none => none

end

def withOption (changes : Options) (letter : Char) (value : Bool) : Options :=
  match letter with
  | 'i' => { changes with foldsCase := some value }
  | 'u' => { changes with isUnicode := some value }
  | 'x' => { changes with skipsBlanks := some value }
  | _ => changes

/-- The options up to a colon or closing parenthesis, after the letters seen so far. A letter stands only
once, and so does the hyphen before those that are unset. -/
def options? (seen : List Char) (changes : Options) : List Char → Option (Options × List Char)
  | [] => none
  | c :: rest =>
    if c = ':' then if seen.head? = some '-' then none else some (changes, c :: rest)
    else if c = ')' then if seen.head? = some '-' || seen.isEmpty then none else some (changes, c :: rest)
    else if c ∈ ['-', 'i', 's', 'm', 'U', 'u', 'R', 'x'] && !seen.contains c then
      options? (c :: seen) (withOption changes c (!seen.contains '-')) rest
    else none

def isNameStart (c : Char) : Bool :=
  c = '_' || Alphanumeric.isAlphabetic c

def isNamePart (c : Char) : Bool :=
  c = '_' || c = '.' || c = '[' || c = ']' || Alphanumeric.isAlphanumeric c

def groupName? (text : List Char) : Option (List Char × List Char) :=
  match text.takeWhile (· ≠ '>'), text.dropWhile (· ≠ '>') with
  | c :: name, _ :: rest => if isNameStart c && name.all isNamePart then some (c :: name, rest) else none
  | _, _ => none

inductive Opening where
  | group (name? : Option (List Char)) (changes : Options)
  | options (changes : Options)

def opening? : List Char → Option (Opening × List Char)
  | '?' :: 'P' :: '<' :: text => (groupName? text).map fun (name, rest) => (.group (some name) { }, rest)
  | '?' :: '<' :: text => (groupName? text).map fun (name, rest) => (.group (some name) { }, rest)
  | '?' :: text =>
    match options? [] { } text with
    | some (changes, ':' :: rest) => some (.group none changes, rest)
    | some (changes, _ :: rest) => some (.options changes, rest)
    | _ => none
  | text => some (.group none { }, text)

def isRepeatable : List Regex → Bool
  | [] => false
  | .options _ :: _ => false
  | _ => true

/-- The expression up to a closing parenthesis or the end, after the branches and the parts of the last branch
that were read so far, the last ones first. -/
def choice? : Nat → Bool → List Regex → List Regex → List Char → Option (Regex × List Char)
  | 0, _, _, _, _ => none
  | fuel + 1, skipsBlanks, branches, parts, text =>
    let next (part : Regex) (rest : List Char) : Option (Regex × List Char) :=
      choice? fuel skipsBlanks branches (part :: parts) rest
    match skip skipsBlanks text with
    | [] => some (ofBranches (ofParts parts.reverse :: branches).reverse, [])
    | c :: rest =>
      match c with
      | ')' => some (ofBranches (ofParts parts.reverse :: branches).reverse, c :: rest)
      | '|' => choice? fuel skipsBlanks (ofParts parts.reverse :: branches) [] rest
      | '(' =>
        match opening? (skip skipsBlanks rest) with
        | none => none
        | some (.options changes, rest) =>
          choice? fuel (changes.skipsBlanks.getD skipsBlanks) branches (.options changes :: parts) rest
        | some (.group name? changes, rest) =>
          match choice? fuel (changes.skipsBlanks.getD skipsBlanks) [] [] rest with
          | some (inner, _ :: rest) => next (.group name? changes inner) rest
          | _ => none
      | '[' =>
        match set? fuel skipsBlanks rest with
        | some (s, rest) => next (.oneOf s) rest
        | none => none
      | '\\' =>
        match escape? skipsBlanks rest with
        | some (part, rest) => next part rest
        | none => none
      | '?' | '*' | '+' =>
        match parts with
        | part :: parts =>
          if isRepeatable (part :: parts) then
            choice? fuel skipsBlanks branches (.repeated part :: parts)
              (if rest.head? = some '?' then rest.drop 1 else rest)
          else none
        | [] => none
      | '{' => none
      | '.' => next .anyChar rest
      | '^' | '$' => next (.edge false) rest
      | c => next (.char c false) rest

end Reader

/-- The expression that a text writes. Each step into a set or group and each part takes at least one
character, so the length of the text bounds the depth. -/
def parse? (text : List Char) : Option Regex :=
  match Reader.choice? (2 * text.length + 2) false [] [] text with
  | some (r, []) => some r
  | _ => none

end PathRouter.Regex
