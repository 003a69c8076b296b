import PathRouter.Text.Pieces
import PathRouter.Text.Utf8

/-!
Percent-encoding of path segments. A segment has many spellings, since any octet may be escaped; its
canonical spelling leaves exactly the safe octets raw and escapes the others with upper-case digits.
-/

namespace PathRouter.Percent

/-- The octets that canonical spelling leaves raw: ASCII letters and digits and `-_.!~*'()`. -/
def isSafe (b : UInt8) : Bool :=
  (0x30 ≤ b && b ≤ 0x39) || (0x41 ≤ b && b ≤ 0x5a) || (0x61 ≤ b && b ≤ 0x7a) ||
    b = 0x2d || b = 0x5f || b = 0x2e || b = 0x21 || b = 0x7e || b = 0x2a ||
    (0x27 ≤ b && b ≤ 0x29)

def hexDigit (n : UInt8) : Char :=
  if n < 10 then Char.ofUInt8 (0x30 + n) else Char.ofUInt8 (0x37 + n)

def hexValue? (b : UInt8) : Option UInt8 :=
  if 0x30 ≤ b && b ≤ 0x39 then some (b - 0x30)
  else if 0x41 ≤ b && b ≤ 0x46 then some (b - 0x37)
  else if 0x61 ≤ b && b ≤ 0x66 then some (b - 0x57)
  else none

def encodeOctet (b : UInt8) : List Char :=
  if isSafe b then [Char.ofUInt8 b] else ['%', hexDigit (b / 16), hexDigit (b % 16)]

def encode (data : List Char) : List Char :=
  (Utf8.encode data).flatMap encodeOctet

def unescape : List UInt8 → List UInt8
  | [] => []
  | 0x25 :: high :: low :: rest =>
    match hexValue? high, hexValue? low with
    | some h, some l => (16 * h + l) :: unescape rest
    | _, _ => 0x25 :: unescape (high :: low :: rest)
  | b :: rest => b :: unescape rest

def malformedAt? : List UInt8 → Option Nat
  | [] => none
  | 0x25 :: high :: low :: rest =>
    if (hexValue? high).isSome && (hexValue? low).isSome then (malformedAt? rest).map (· + 3)
    else some 0
  | b :: rest => if b = 0x25 then some 0 else (malformedAt? rest).map (· + 1)

inductive DecodeFault where
  | malformed (offset : Nat)
  | notUtf8
  deriving Repr, DecidableEq

def decode (segment : List Char) : Except DecodeFault (List Char) :=
  match malformedAt? (Utf8.encode segment) with
  | some offset => .error (.malformed offset)
  | none =>
    match Utf8.decode? (unescape (Utf8.encode segment)) with
    | some text => .ok text
    | none => .error .notUtf8

def canonical (segment : List Char) : Except DecodeFault (List Char) :=
  (decode segment).map encode

/-- The text that a segment spells, read leniently: malformed escapes stay as they are, and ill-formed
octets are replaced. -/
def decodeLenient (segment : List Char) : List Char :=
  Utf8.decodeLossy (unescape (Utf8.encode segment))

def isCanonicalAsIs (path : List Char) : Bool :=
  (Utf8.encode path).all fun b => b = 0x2f || isSafe b

def normalizePath (path : List Char) : Option (List Char) :=
  if isCanonicalAsIs path then some path
  else ((Pieces.cut '/' path).mapM fun segment => (canonical segment).toOption).map (Pieces.join '/')

end PathRouter.Percent
