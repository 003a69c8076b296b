/-!
Punycode, the spelling of labels with characters beyond ASCII in ASCII: the ASCII characters come first,
and after the last hyphen the others are given by the steps between their places, in increasing order.
-/

namespace PathRouter.Url.Punycode

def digit? (c : Char) : Option Nat :=
  if 'a' ≤ c && c ≤ 'z' then some (c.toNat - 0x61)
  else if 'A' ≤ c && c ≤ 'Z' then some (c.toNat - 0x41)
  else if '0' ≤ c && c ≤ '9' then some (c.toNat - 0x30 + 26)
  else none

def threshold (k bias : Nat) : Nat :=
  if k ≤ bias then 1 else min 26 (k - bias)

/-- Scales a step down until it is small; gives it and 36 for each division. -/
def reduce (delta k : Nat) : Nat × Nat :=
  if 455 < delta then reduce (delta / 35) (k + 36) else (delta, k)
termination_by delta
decreasing_by exact Nat.div_lt_self (by omega) (by omega)

def adapt (delta count : Nat) (isFirst : Bool) : Nat :=
  let delta := if isFirst then delta / 700 else delta / 2
  let (delta, k) := reduce (delta + delta / count) 0
  k + 36 * delta / (delta + 38)

def bound : Nat := 0x100000000

/-- A number at the front, whose digits have increasing weights, added to a value. -/
def number? (bias : Nat) : List Char → Nat → Nat → Nat → Option (Nat × List Char)
  | [], _, _, _ => none
  | c :: rest, k, weight, value => do
    let d ← digit? c
    let value := value + d * weight
    let t := threshold k bias
    if bound ≤ value then none
    else if d < t then some (value, rest)
    else if bound ≤ weight * (36 - t) then none
    else number? bias rest (k + 36) (weight * (36 - t)) value

/-- Inserts characters as long as there are numbers; each takes a digit, so `fuel` is the digits' count. -/
def extend? : Nat → List Char → (point place bias : Nat) → List Char → Option (List Char)
  | _, [], _, _, _, output => some output
  | 0, _ :: _, _, _, _, _ => none
  | fuel + 1, digits, point, place, bias, output => do
    let (target, rest) ← number? bias digits 36 1 place
    let count := output.length + 1
    let bias := adapt (target - place) count (place = 0)
    let point := point + target / count
    let place := target % count
    if 0x110000 ≤ point || (0xd800 ≤ point && point < 0xe000) then none
    else
      let output := output.take place ++ Char.ofNat point :: output.drop place
      extend? fuel rest point (place + 1) bias output

def decode? (text : List Char) : Option (List Char) :=
  let digits := (text.reverse.takeWhile (· ≠ '-')).reverse
  let basic := text.take (text.length - digits.length - 1)
  if text.head? = some '-' && digits.length + 1 = text.length then none
  else if basic.all (·.toNat < 0x80) then extend? digits.length digits 0x80 0 72 basic
  else none

end PathRouter.Url.Punycode
