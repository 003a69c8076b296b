/-!
Text as UTF-8 octets, and the way back: strictly, where ill-formed octets are refused, and leniently,
where each maximal ill-formed run is read as the replacement character.
-/

namespace PathRouter.Utf8

def encode (text : List Char) : List UInt8 :=
  text.flatMap String.utf8EncodeChar

def size : List Char → Nat
  | [] => 0
  | c :: rest => c.utf8Size + size rest

def head? (octets : List UInt8) : Option Char :=
  (octets.take 4).toByteArray.utf8DecodeChar? 0

/-- Reads octets strictly: every one of them must belong to the encoding of a character. -/
def decode? : List UInt8 → Option (List Char)
  | [] => some []
  | b :: rest =>
    match head? (b :: rest) with
    | none => none
    | some c => (decode? ((b :: rest).drop c.utf8Size)).map (c :: ·)
termination_by octets => octets.length
decreasing_by
  have := c.utf8Size_pos
  simp only [List.length_drop, List.length_cons]
  omega

def replacement : Char := '\ufffd'

def isContinuation (b : UInt8) : Bool :=
  0x80 ≤ b && b ≤ 0xbf

/-- Whether `b` may follow the first octet `lead` of a longer encoding: overlong forms, surrogates and
values above the last code point are told apart by the second octet. -/
def isSecond (lead b : UInt8) : Bool :=
  if lead = 0xe0 then 0xa0 ≤ b && b ≤ 0xbf
  else if lead = 0xed then 0x80 ≤ b && b ≤ 0x9f
  else if lead = 0xf0 then 0x90 ≤ b && b ≤ 0xbf
  else if lead = 0xf4 then 0x80 ≤ b && b ≤ 0x8f
  else isContinuation b

/-- How many octets of an ill-formed sequence are replaced together: the longest beginning that some
character's encoding also has, and one octet where there is none. -/
def illFormedSize : List UInt8 → Nat
  | lead :: second :: rest =>
    if 0xe0 ≤ lead && lead ≤ 0xf4 && isSecond lead second then
      match rest with
      | third :: _ => if 0xf0 ≤ lead && isContinuation third then 3 else 2
      | [] => 2
    else 1
  | _ => 1

theorem illFormedSize_pos (octets : List UInt8) : 0 < illFormedSize octets := by
  unfold illFormedSize
  split
  · split
    · split
      · split <;> decide
      · decide
    · decide
  · decide

/-- Reads octets leniently: an ill-formed sequence becomes one replacement character. -/
def decodeLossy : List UInt8 → List Char
  | [] => []
  | b :: rest =>
    match head? (b :: rest) with
    | some c => c :: decodeLossy ((b :: rest).drop c.utf8Size)
    | none => replacement :: decodeLossy ((b :: rest).drop (illFormedSize (b :: rest)))
termination_by octets => octets.length
decreasing_by
  · have := c.utf8Size_pos
    simp only [List.length_drop, List.length_cons]
    omega
  · have := illFormedSize_pos (b :: rest)
    simp only [List.length_drop, List.length_cons]
    omega

@[simp] theorem length_encode (text : List Char) : (encode text).length = size text := by
  induction text with
  | nil => rfl
  | cons c rest ih =>
    simp only [encode, size, List.flatMap_cons, List.length_append, String.length_utf8EncodeChar]
    exact congrArg (c.utf8Size + ·) ih

end PathRouter.Utf8
