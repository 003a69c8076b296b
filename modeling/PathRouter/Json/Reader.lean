import PathRouter.Decimal.Binary64
import PathRouter.Json
import PathRouter.Text.Digits

/-!
Reading JSON text. Objects come out sorted by name with one member for each; a number with a point or an
exponent, or out of the range of 64-bit integers, becomes a 64-bit binary one and is kept as the shortest
decimal of that. The digits are read as a 64-bit integer first, which is then scaled, so that the result is
not always the nearest one.
-/

namespace PathRouter.Json

def Number.ofBinary (negative : Bool) (x : Decimal.Binary64) : Number :=
  let s := x.shortest
  .real negative s.digits s.exponent

def Number.ofDecimal? (negative : Bool) (digits : Nat) (exponent : Int) : Option Number :=
  (Decimal.Binary64.stepwise? ⟨digits, exponent⟩).map (ofBinary negative)

/-- The integer, if it fits into 64 bits with or without a sign; minus zero is no integer. -/
def Number.ofInteger? (negative : Bool) (digits : Nat) : Option Number :=
  if negative && 0 < digits && digits ≤ 0x8000000000000000 then some (.int (-(digits : Int)))
  else if !negative && digits < 0x10000000000000000 then some (.int digits)
  else Number.ofDecimal? negative digits 0

namespace Reader

def isBlank (c : Char) : Bool :=
  c = ' ' || c = '\t' || c = '\n' || c = '\r'

def skipBlanks (text : List Char) : List Char :=
  text.dropWhile isBlank

def hex4? : List Char → Option (Nat × List Char)
  | a :: b :: c :: d :: rest => (Digits.numeral? 16 [a, b, c, d]).map fun n => (n, rest)
  | _ => none

/-- What a backslash stands for together with the characters after it; two halves of a surrogate pair
make one character, and a half alone is refused. -/
def escaped? : List Char → Option (Char × List Char)
  | '"' :: rest => some ('"', rest)
  | '\\' :: rest => some ('\\', rest)
  | '/' :: rest => some ('/', rest)
  | 'b' :: rest => some ('\x08', rest)
  | 'f' :: rest => some ('\x0c', rest)
  | 'n' :: rest => some ('\n', rest)
  | 'r' :: rest => some ('\r', rest)
  | 't' :: rest => some ('\t', rest)
  | 'u' :: rest => do
    let (unit, rest) ← hex4? rest
    if 0xd800 ≤ unit && unit < 0xdc00 then
      match rest with
      | '\\' :: 'u' :: rest =>
        let (low, rest) ← hex4? rest
        if 0xdc00 ≤ low && low < 0xe000 then
          some (Char.ofNat (0x10000 + (unit - 0xd800) * 0x400 + (low - 0xdc00)), rest)
        else none
      | _ => none
    else if 0xdc00 ≤ unit && unit < 0xe000 then none
    else some (Char.ofNat unit, rest)
  | _ => none

def string? : Nat → List Char → List Char → Option (String × List Char)
  | 0, _, _ => none
  | fuel + 1, read, text =>
    match text with
    | [] => none
    | '"' :: rest => some (String.ofList read.reverse, rest)
    | '\\' :: rest =>
      match escaped? rest with
      | some (c, rest) => string? fuel (c :: read) rest
      | none => none
    | c :: rest => if c.toNat < 0x20 then none else string? fuel (c :: read) rest

def exponent? (text : List Char) : Option (Int × List Char) :=
  let (negative, text) : Bool × List Char :=
    match text with
    | '-' :: rest => (true, rest)
    | '+' :: rest => (false, rest)
    | _ => (false, text)
  let ds := text.takeWhile Char.isDigit
  if ds.isEmpty then none
  else some (if negative then -(Digits.natural ds : Int) else Digits.natural ds, text.dropWhile Char.isDigit)

def appendDigits (n : Nat) : List Char → Nat × List Char
  | [] => (n, [])
  | c :: rest =>
    let longer := 10 * n + (c.toNat - 0x30)
    if longer < 0x10000000000000000 then appendDigits longer rest else (n, c :: rest)

/-- A number without its sign. Whole digits that no longer fit count only for the exponent, and digits of the
fraction that no longer fit do not count. -/
def magnitude? (negative : Bool) (text : List Char) : Option (Number × List Char) := do
  let whole := text.takeWhile Char.isDigit
  let rest := text.dropWhile Char.isDigit
  if whole.isEmpty || (whole.head? = some '0' && 1 < whole.length) then none
  let (fraction, rest, isReal) ←
    match rest with
    | '.' :: rest =>
      let fraction := rest.takeWhile Char.isDigit
      if fraction.isEmpty then none else some (fraction, rest.dropWhile Char.isDigit, true)
    | _ => some ([], rest, false)
  let (exponent, rest, isReal) ←
    match rest with
    | 'e' :: rest => (exponent? rest).map fun (e, rest) => (e, rest, true)
    | 'E' :: rest => (exponent? rest).map fun (e, rest) => (e, rest, true)
    | _ => some (0, rest, isReal)
  let (digits, wholeLeft) := appendDigits 0 whole
  let (digits, fractionLeft) := appendDigits digits fraction
  let shift : Int := wholeLeft.length - (fraction.length - fractionLeft.length)
  let number ←
    if isReal || !wholeLeft.isEmpty then Number.ofDecimal? negative digits (exponent + shift)
    else Number.ofInteger? negative digits
  some (number, rest)

mutual

def value? : Nat → List Char → Option (Json × List Char)
  | 0, _ => none
  | fuel + 1, text =>
    match skipBlanks text with
    | 'n' :: 'u' :: 'l' :: 'l' :: rest => some (.null, rest)
    | 't' :: 'r' :: 'u' :: 'e' :: rest => some (.bool true, rest)
    | 'f' :: 'a' :: 'l' :: 's' :: 'e' :: rest => some (.bool false, rest)
    | '"' :: rest => (string? (rest.length + 1) [] rest).map fun (s, rest) => (.str s, rest)
    | '[' :: rest =>
      match skipBlanks rest with
      | ']' :: rest => some (.arr [], rest)
      | _ => items? fuel [] rest
    | '{' :: rest =>
      match skipBlanks rest with
      | '}' :: rest => some (.obj [], rest)
      | _ => members? fuel [] rest
    | '-' :: rest => (magnitude? true rest).map fun (n, rest) => (.num n, rest)
    | text => (magnitude? false text).map fun (n, rest) => (.num n, rest)

def items? : Nat → List Json → List Char → Option (Json × List Char)
  | 0, _, _ => none
  | fuel + 1, read, text =>
    match value? fuel text with
    | none => none
    | some (item, rest) =>
      match skipBlanks rest with
      | ',' :: rest => items? fuel (item :: read) rest
      | ']' :: rest => some (.arr (item :: read).reverse, rest)
      | _ => none

def members? : Nat → List (String × Json) → List Char → Option (Json × List Char)
  | 0, _, _ => none
  | fuel + 1, read, text =>
    match skipBlanks text with
    | '"' :: rest =>
      match string? (rest.length + 1) [] rest with
      | none => none
      | some (name, rest) =>
        match skipBlanks rest with
        | ':' :: rest =>
          match value? fuel rest with
          | none => none
          | some (value, rest) =>
            match skipBlanks rest with
            | ',' :: rest => members? fuel ((name, value) :: read) rest
            | '}' :: rest => some (sortedObject ((name, value) :: read).reverse, rest)
            | _ => none
        | _ => none
    | _ => none

end

end Reader

/-- The value that a text writes, with nothing but blanks around it. Each step into a value, an item or a
member takes at least one character, so the length of the text bounds the depth. -/
def parse? (text : String) : Option Json :=
  match Reader.value? (2 * text.length + 2) text.toList with
  | some (value, rest) => if (Reader.skipBlanks rest).isEmpty then some value else none
  | none => none

end PathRouter.Json
