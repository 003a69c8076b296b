import PathRouter.Json
import PathRouter.Text.Digits

/-!
JSON text: compact, and pretty with two spaces of indentation.
-/

namespace PathRouter.Json

def signed (n : Int) : List Char :=
  (if n < 0 then '-' else '+') :: (toString n.natAbs).toList

/-- How a number is written: positionally while its leading digit stands less than five places right and
at most sixteen places left of the point, and otherwise with an exponent. -/
def Number.text : Number → String
  | .int value => toString value
  | .real negative digits exponent =>
    let ds := (toString digits).toList
    let point : Int := ds.length + exponent
    let body : List Char :=
      if digits = 0 then ['0', '.', '0']
      else if 0 ≤ exponent && point ≤ 16 then
        ds ++ List.replicate exponent.toNat '0' ++ ['.', '0']
      else if 0 < point && point ≤ 16 then
        ds.take point.toNat ++ '.' :: ds.drop point.toNat
      else if -5 < point && point ≤ 0 then
        '0' :: '.' :: List.replicate (-point).toNat '0' ++ ds
      else
        (match ds with
          | [] => []
          | [d] => [d]
          | d :: rest => d :: '.' :: rest) ++ 'e' :: signed (point - 1)
    (if negative then "-" else "") ++ String.ofList body

def escape (c : Char) : List Char :=
  match c with
  | '"' => ['\\', '"']
  | '\\' => ['\\', '\\']
  | '\x08' => ['\\', 'b']
  | '\x0c' => ['\\', 'f']
  | '\n' => ['\\', 'n']
  | '\r' => ['\\', 'r']
  | '\t' => ['\\', 't']
  | c =>
    if c.toNat < 0x20 then ['\\', 'u', '0', '0', Digits.lower (c.toNat / 16), Digits.lower (c.toNat % 16)]
    else [c]

def quote (text : String) : String :=
  String.ofList ('"' :: text.toList.flatMap escape ++ ['"'])

mutual

def write (out : String) : Json → String
  | .null => out ++ "null"
  | .bool value => out ++ (if value then "true" else "false")
  | .num value => out ++ value.text
  | .str text => out ++ quote text
  | .arr [] => out ++ "[]"
  | .arr (item :: items) => writeItems (write (out.push '[') item) items
  | .obj [] => out ++ "\x7b\x7d"
  | .obj ((name, value) :: members) =>
    writeMembers (write (out.push '{' ++ quote name ++ ":") value) members

def writeItems (out : String) : List Json → String
  | [] => out.push ']'
  | item :: items => writeItems (write (out.push ',') item) items

def writeMembers (out : String) : List (String × Json) → String
  | [] => out.push '}'
  | (name, value) :: members => writeMembers (write (out.push ',' ++ quote name ++ ":") value) members

end

def compact (value : Json) : String :=
  write "" value

def indent (depth : Nat) : String :=
  String.ofList ('\n' :: List.replicate (2 * depth) ' ')

mutual

def writePretty (depth : Nat) (out : String) : Json → String
  | .null => out ++ "null"
  | .bool value => out ++ (if value then "true" else "false")
  | .num value => out ++ value.text
  | .str text => out ++ quote text
  | .arr [] => out ++ "[]"
  | .arr (item :: items) =>
    writePrettyItems depth (writePretty (depth + 1) (out.push '[' ++ indent (depth + 1)) item) items
  | .obj [] => out ++ "\x7b\x7d"
  | .obj ((name, value) :: members) =>
    writePrettyMembers depth
      (writePretty (depth + 1) (out.push '{' ++ indent (depth + 1) ++ quote name ++ ": ") value) members

def writePrettyItems (depth : Nat) (out : String) : List Json → String
  | [] => (out ++ indent depth).push ']'
  | item :: items =>
    writePrettyItems depth (writePretty (depth + 1) (out.push ',' ++ indent (depth + 1)) item) items

def writePrettyMembers (depth : Nat) (out : String) : List (String × Json) → String
  | [] => (out ++ indent depth).push '}'
  | (name, value) :: members =>
    writePrettyMembers depth
      (writePretty (depth + 1) (out.push ',' ++ indent (depth + 1) ++ quote name ++ ": ") value) members

end

def pretty (value : Json) : String :=
  writePretty 0 "" value

end PathRouter.Json
