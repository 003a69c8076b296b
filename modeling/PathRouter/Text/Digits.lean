/-!
Digits of bases up to sixteen, and the numbers that they write.
-/

namespace PathRouter.Digits

def value? (c : Char) : Option Nat :=
  if '0' ≤ c && c ≤ '9' then some (c.toNat - 0x30)
  else if 'a' ≤ c && c ≤ 'f' then some (c.toNat - 0x57)
  else if 'A' ≤ c && c ≤ 'F' then some (c.toNat - 0x37)
  else none

def isDigit (base : Nat) (c : Char) : Bool :=
  (value? c).any (· < base)

/-- The number that characters write in a base, if all of them are digits of that base. No characters at
all write zero. -/
def numeral? (base : Nat) (text : List Char) : Option Nat :=
  text.foldlM (fun n c => ((value? c).filter (· < base)).map (base * n + ·)) 0

def natural (digits : List Char) : Nat :=
  digits.foldl (fun n c => 10 * n + (c.toNat - 0x30)) 0

def lower (n : Nat) : Char :=
  if n < 10 then Char.ofNat (0x30 + n) else Char.ofNat (0x57 + n)

end PathRouter.Digits
