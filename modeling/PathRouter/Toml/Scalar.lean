import PathRouter.Json.Reader
import PathRouter.Toml.Table

/-!
Numbers, dates and times of TOML documents.
-/

namespace PathRouter.Toml

/-- Digits with single underscores between them, without the underscores. The first character must be a
digit and each underscore must stand before one. -/
def digitRun? (isDigit : Char → Bool) : List Char → Option (List Char × List Char)
  | [] => none
  | c :: rest => if isDigit c then (more rest).map fun (ds, rest) => (c :: ds, rest) else none
where
  more : List Char → Option (List Char × List Char)
    | '_' :: c :: rest => if isDigit c then (more rest).map fun (ds, rest) => (c :: ds, rest) else none
    | '_' :: [] => none
    | c :: rest =>
      if isDigit c then (more rest).map fun (ds, rest) => (c :: ds, rest) else some ([], c :: rest)
    | [] => some ([], [])

def sign : List Char → Bool × List Char
  | '-' :: rest => (true, rest)
  | '+' :: rest => (false, rest)
  | text => (false, text)

def wholeDigits? (text : List Char) : Option (List Char × List Char) :=
  match text with
  | '0' :: rest => some (['0'], rest)
  | text => digitRun? Char.isDigit text

def isInt64 (n : Int) : Bool :=
  -0x8000000000000000 ≤ n && n < 0x8000000000000000

def basedInteger? (base : Nat) (text : List Char) : Option (Node × List Char) := do
  let (ds, rest) ← digitRun? (Digits.isDigit base) text
  let n ← Digits.numeral? base ds
  if isInt64 n then some (.num (.int n), rest) else none

def exponent? (text : List Char) : Option (Int × List Char) :=
  let (negative, text) := sign text
  (digitRun? Char.isDigit text).map fun (ds, rest) =>
    let n : Int := Digits.natural ds
    (if negative then -n else n, rest)

/-- A decimal number. One too large is refused, unless it is negative. -/
def decimal? (text : List Char) : Option (Node × List Char) := do
  let (negative, unsigned) := sign text
  let (whole, rest) ← wholeDigits? unsigned
  let (fraction, rest, hasFraction) ←
    match rest with
    | '.' :: rest => (digitRun? Char.isDigit rest).map fun (ds, rest) => (ds, rest, true)
    | _ => some ([], rest, false)
  let (exponent, rest, isFloat) ←
    match rest with
    | 'e' :: rest => (exponent? rest).map fun (e, rest) => (e, rest, true)
    | 'E' :: rest => (exponent? rest).map fun (e, rest) => (e, rest, true)
    | _ => some (0, rest, hasFraction)
  let digits := Digits.natural (whole ++ fraction)
  if isFloat then
    match Decimal.Binary64.nearest? ⟨digits, exponent - fraction.length⟩ with
    | some number => some (.num (.ofBinary negative number), rest)
    | none => if negative then some (.notFinite, rest) else none
  else
    let n : Int := if negative then -(digits : Int) else digits
    if isInt64 n then some (.num (.int n), rest) else none

def number? (text : List Char) : Option (Node × List Char) :=
  match text with
  | '0' :: 'x' :: rest => basedInteger? 16 rest
  | '0' :: 'o' :: rest => basedInteger? 8 rest
  | '0' :: 'b' :: rest => basedInteger? 2 rest
  | _ =>
    match (sign text).2 with
    | 'i' :: 'n' :: 'f' :: rest => some (.notFinite, rest)
    | 'n' :: 'a' :: 'n' :: rest => some (.notFinite, rest)
    | _ => decimal? text

def fixedDigits? (count : Nat) (text : List Char) : Option (Nat × List Char) :=
  let ds := text.take count
  if ds.length = count && ds.all Char.isDigit then some (Digits.natural ds, text.drop count)
  else none

def isLeapYear (year : Nat) : Bool :=
  year % 4 = 0 && (year % 100 ≠ 0 || year % 400 = 0)

def daysOfMonth (year month : Nat) : Nat :=
  if month = 2 then (if isLeapYear year then 29 else 28)
  else if month = 4 || month = 6 || month = 9 || month = 11 then 30
  else 31

def date? (text : List Char) : Option (List Char) := do
  let (year, rest) ← fixedDigits? 4 text
  match rest with
  | '-' :: rest =>
    let (month, rest) ← fixedDigits? 2 rest
    match rest with
    | '-' :: rest =>
      let (day, rest) ← fixedDigits? 2 rest
      if 1 ≤ month && month ≤ 12 && 1 ≤ day && day ≤ daysOfMonth year month then some rest else none
    | _ => none
  | _ => none

def hourMinute? (text : List Char) : Option (List Char) := do
  let (hour, rest) ← fixedDigits? 2 text
  match rest with
  | ':' :: rest =>
    let (minute, rest) ← fixedDigits? 2 rest
    if hour ≤ 23 && minute ≤ 59 then some rest else none
  | _ => none

/-- The text after a time of day; a minute may have a leap second. -/
def time? (text : List Char) : Option (List Char) := do
  match ← hourMinute? text with
  | ':' :: rest =>
    let (second, rest) ← fixedDigits? 2 rest
    if 60 < second then none
    else
      match rest with
      | '.' :: rest =>
        let tail := rest.dropWhile Char.isDigit
        if tail.length = rest.length then none else some tail
      | _ => some rest
  | _ => none

def offset? : List Char → Option (List Char)
  | 'Z' :: rest => some rest
  | 'z' :: rest => some rest
  | '+' :: rest => hourMinute? rest
  | '-' :: rest => hourMinute? rest
  | text => some text

def startsTime (text : List Char) : Bool :=
  match text with
  | a :: b :: ':' :: _ => a.isDigit && b.isDigit
  | _ => false

def startsDate (text : List Char) : Bool :=
  match text with
  | a :: b :: c :: d :: '-' :: _ => a.isDigit && b.isDigit && c.isDigit && d.isDigit
  | _ => false

def datetime? (text : List Char) : Option (Node × List Char) := do
  let rest ←
    if startsDate text then do
      let rest ← date? text
      match rest with
      | c :: after =>
        if (c = 'T' || c = 't' || c = ' ') && startsTime after then offset? (← time? after)
        else some rest
      | [] => some rest
    else time? text
  some (.datetime (String.ofList (text.take (text.length - rest.length))), rest)

end PathRouter.Toml
