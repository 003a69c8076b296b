import PathRouter.Address.Ipv4

/-!
IPv6 addresses: eight groups of hexadecimal digits, where one run of groups may be left out and a dotted
address may take the place of the last two.
-/

namespace PathRouter.Address.Ipv6

def isGroup (text : List Char) : Bool :=
  !text.isEmpty && text.length ≤ 4 && text.all (Digits.isDigit 16)

/-- How many groups a list of written ones stands for; a dotted address may come last. -/
def groupCount? : List (List Char) → Option Nat
  | [] => some 0
  | [last] => if isGroup last then some 1 else if Ipv4.isDotted last then some 2 else none
  | group :: rest => if isGroup group then (groupCount? rest).map (· + 1) else none

/-- The groups between the colons, where two colons at either end leave only one empty text. -/
def written (text : List Char) : List (List Char) :=
  let groups := Pieces.cut ':' text
  let groups :=
    match groups with
    | [] :: [] :: rest => [] :: rest
    | _ => groups
  match groups.reverse with
  | [] :: [] :: rest => ([] :: rest).reverse
  | _ => groups

def isAddress (text : List Char) : Bool :=
  if text = [':', ':'] then true
  else
    let groups := written text
    let before := groups.takeWhile fun group => !group.isEmpty
    match groups.dropWhile fun group => !group.isEmpty with
    | [] => groupCount? groups = some 8
    | _ :: after =>
      (text.take 2 = [':', ':'] || !before.isEmpty) &&
        (text.reverse.take 2 = [':', ':'] || !after.isEmpty) &&
        before.all isGroup &&
        (match groupCount? after with
          | some n => before.length + n ≤ 7
          | none => false)

end PathRouter.Address.Ipv6
