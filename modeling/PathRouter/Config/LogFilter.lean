import PathRouter.Config.Regex.Support
import PathRouter.Text.Pieces
import PathRouter.Text.Utf8

/-!
Log filters: directives with commas between them, each a level, a target, a target or span with a level,
or a span with conditions on its fields. A condition may ask for a value, which is a number or matches a
regular expression.
-/

namespace PathRouter.LogFilter

def levelNames : List String :=
  ["off", "error", "warn", "info", "debug", "trace"]

def isLevelNumber (text : List Char) : Bool :=
  let digits :=
    match text with
    | '+' :: digits => digits
    | digits => digits
  !digits.isEmpty && (Digits.numeral? 10 digits).any (· ≤ 5)

def isLevel (text : List Char) : Bool :=
  text.isEmpty || isLevelNumber text || levelNames.contains (String.ofList (text.map Char.toLower))

def startsTarget (c : Char) : Bool :=
  c = '-' || c = ':' || c = '_' || Alphanumeric.isAlphanumeric c

def isSpanEnd (level : List Char → Bool) : List Char → Bool
  | [] => true
  | '=' :: rest => level rest
  | _ => false

def isExponent : List Char → Bool
  | [] => true
  | e :: rest =>
    let digits := if rest.head? = some '-' || rest.head? = some '+' then rest.drop 1 else rest
    (e = 'e' || e = 'E') && !digits.isEmpty && digits.all Char.isDigit

def isUnsigned (text : List Char) : Bool :=
  let whole := text.takeWhile Char.isDigit
  let (fraction, rest) : List Char × List Char :=
    match text.dropWhile Char.isDigit with
    | '.' :: rest => (rest.takeWhile Char.isDigit, rest.dropWhile Char.isDigit)
    | rest => ([], rest)
  (!(whole.isEmpty && fraction.isEmpty) && isExponent rest) ||
    ["inf", "infinity", "nan"].contains (String.ofList (text.map Char.toLower))

def isNumber (text : List Char) : Bool :=
  isUnsigned (if text.head? = some '-' || text.head? = some '+' then text.drop 1 else text)

/-- Whether a text is a condition on a field: a name, and after a sign of equality possibly a value. What
follows a second sign of equality does not count. -/
def isCondition (text : List Char) : Bool :=
  match Pieces.cut '=' text with
  | _ :: value :: _ => isNumber value || Regex.isUsable value
  | _ => true

def excerpt? (text : List Char) (start size : Nat) : Option (List Char) :=
  Utf8.decode? (((Utf8.encode text).drop start).take size)

/-- Whether a text is the rest of a span after its opening bracket. Conditions on fields stand in braces and
must not be empty. -/
def isSpan (level : List Char → Bool) (condition : List Char → List Char → Bool) (text : List Char) : Bool :=
  match text.dropWhile fun c => c ≠ ']' && c ≠ '\x7b' with
  | [] => false
  | ']' :: rest => isSpanEnd level rest
  | _ :: fields =>
    let written := fields.takeWhile (· ≠ '\x7d')
    match fields.drop written.length with
    | _ :: ']' :: rest => !written.isEmpty && condition fields written && isSpanEnd level rest
    | _ => false

/-- Whether a text is a directive. Blanks around it are allowed only without a level. Places are counted in
octets without the blanks in front, but the condition is read in the text with them. -/
def isDirective (text : List Char) : Bool :=
  let trimmed := Blank.trim text
  let level (rest : List Char) : Bool :=
    trimmed.length = text.length && isLevel rest
  let condition (rest written : List Char) : Bool :=
    let start := (Utf8.encode trimmed).length - (Utf8.encode rest).length
    (excerpt? text start (Utf8.encode written).length).any isCondition
  match trimmed with
  | [] => false
  | '[' :: rest => isSpan level condition rest
  | c :: _ =>
    startsTarget c &&
      match trimmed.dropWhile fun c => c ≠ '=' && c ≠ '[' with
      | '=' :: rest => level rest
      | '[' :: rest => isSpan level condition rest
      | _ => true

/-- Whether a text is a filter. Empty directives do not count. -/
def isFilter (text : List Char) : Bool :=
  (Pieces.cut ',' text).all fun directive => directive.isEmpty || isDirective directive

end PathRouter.LogFilter
