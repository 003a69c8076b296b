import PathRouter.Text.Digits
import PathRouter.Text.Pieces

/-!
IPv4 addresses: the strict dotted form, and the lenient form of web addresses, in which the last number
fills all octets that are left and numbers may be octal or hexadecimal.
-/

namespace PathRouter.Address.Ipv4

def isOctet (text : List Char) : Bool :=
  !text.isEmpty && text.length ≤ 3 && (text.length = 1 || text.head? ≠ some '0') &&
    (Digits.numeral? 10 text).any (· < 256)

def isDotted (text : List Char) : Bool :=
  let parts := Pieces.cut '.' text
  parts.length = 4 && parts.all isOctet

/-- A number in the lenient form: octal after `0`, hexadecimal after `0x`, which alone is zero. -/
def lenientNumber? (text : List Char) : Option Nat :=
  match text with
  | [] => none
  | '0' :: 'x' :: digits => Digits.numeral? 16 digits
  | '0' :: 'X' :: digits => Digits.numeral? 16 digits
  | ['0'] => some 0
  | '0' :: digits => Digits.numeral? 8 digits
  | digits => Digits.numeral? 10 digits

def lenientParts (name : List Char) : List (List Char) :=
  let parts := Pieces.cut '.' name
  if parts.getLast? = some [] then parts.dropLast else parts

/-- Whether a name is meant for an address: its last part is a number. -/
def endsInNumber (name : List Char) : Bool :=
  match (lenientParts name).getLast? with
  | none => false
  | some last => (!last.isEmpty && last.all Char.isDigit) || (lenientNumber? last).isSome

def isLenient (name : List Char) : Bool :=
  let parts := lenientParts name
  match parts.mapM lenientNumber? with
  | none => false
  | some numbers =>
    match numbers.getLast? with
    | none => false
    | some last =>
      parts.length ≤ 4 && last < Nat.pow 256 (5 - numbers.length) && numbers.dropLast.all (· < 256)

end PathRouter.Address.Ipv4
