/-!
Binary floating-point numbers of 64 bits, in exact arithmetic: the one nearest to a decimal, products and
quotients, and the shortest decimal that is nearest to no other.
-/

namespace PathRouter.Decimal

/-- The number `significand * 2 ^ exponent`. -/
structure Binary64 where
  significand : Nat
  exponent : Int
  deriving Repr, DecidableEq

/-- The number `digits * 10 ^ exponent`. -/
structure Scaled where
  digits : Nat
  exponent : Int
  deriving Repr, DecidableEq

def scale (base : Nat) (exponent : Int) (n d : Nat) : Nat × Nat :=
  if 0 ≤ exponent then (n * base.pow exponent.toNat, d) else (n, d * base.pow (-exponent).toNat)

def roundHalfEven (n d : Nat) : Nat :=
  let q := n / d
  let r := n % d
  if 2 * r < d then q else if d < 2 * r then q + 1 else q + q % 2

namespace Binary64

def fullSignificand : Nat := 0x20000000000000

def leastExponent : Int := -1074

def greatestExponent : Int := 971

def ofFraction? (n d : Nat) : Option Binary64 :=
  let quotient (q : Int) : Nat × Nat := scale 2 (-q) n d
  let guess : Int := max ((n.log2 : Int) - d.log2 - 53) leastExponent
  let fits := (quotient guess).1 / (quotient guess).2 < fullSignificand
  let exponent := if fits then guess else guess + 1
  let significand := roundHalfEven (quotient exponent).1 (quotient exponent).2
  let rounded : Binary64 :=
    if significand = fullSignificand then ⟨fullSignificand / 2, exponent + 1⟩
    else ⟨significand, exponent⟩
  if rounded.exponent ≤ greatestExponent then some rounded else none

/-- The finite number nearest to a decimal, unless the decimal is too large for one. Very large and very
small decimals are told by their exponents alone. -/
def nearest? (x : Scaled) : Option Binary64 :=
  if x.digits = 0 || x.exponent + (Nat.toDigits 10 x.digits).length < -400 then some ⟨0, leastExponent⟩
  else if 400 < x.exponent then none
  else
    let (n, d) := scale 10 x.exponent x.digits 1
    ofFraction? n d

def fraction (x : Binary64) : Nat × Nat :=
  scale 2 x.exponent x.significand 1

def product? (x y : Binary64) : Option Binary64 :=
  ofFraction? (x.fraction.1 * y.fraction.1) (x.fraction.2 * y.fraction.2)

def quotient? (x y : Binary64) : Option Binary64 :=
  ofFraction? (x.fraction.1 * y.fraction.2) (x.fraction.2 * y.fraction.1)

def greatestPower : Nat := 308

/-- Division by a power of ten, by the greatest one first as often as it takes. After three such steps no
number below `2 ^ 64` leaves anything, so further ones are not taken. -/
def dividedByPower? (x : Binary64) (power : Nat) : Option Binary64 :=
  let steps := (power - 1) / greatestPower
  let powers := List.replicate (min steps 3) greatestPower ++ [power - steps * greatestPower]
  powers.foldlM (fun x (p : Nat) => (nearest? ⟨1, p⟩).bind x.quotient?) x

/-- A decimal from its rounded digits by one rounded step for its power of ten, or a few for a very small
power. This is near the decimal, but need not be the nearest number. -/
def stepwise? (x : Scaled) : Option Binary64 := do
  let digits ← nearest? ⟨x.digits, 0⟩
  if x.exponent < 0 then digits.dividedByPower? (-x.exponent).toNat
  else if x.exponent ≤ greatestPower then (nearest? ⟨1, x.exponent⟩).bind digits.product?
  else if digits.significand = 0 then some digits
  else none

def decimalExponent (n d : Nat) : Int :=
  if d ≤ n then ((Nat.toDigits 10 (n / d)).length : Int) - 1
  else -(((List.range 400).find? fun j => d ≤ n * Nat.pow 10 j).getD 0 : Int)

/-- The ends of the interval of fractions that round to a number, each over `2 ^ 2` of its last place,
and whether they round to it themselves. -/
def interval (x : Binary64) : (Nat × Nat) × (Nat × Nat) × Bool :=
  let below := if 2 * x.significand = fullSignificand && leastExponent < x.exponent then 1 else 2
  (scale 2 (x.exponent - 2) (4 * x.significand - below) 1,
    scale 2 (x.exponent - 2) (4 * x.significand + 2) 1,
    x.significand % 2 = 0)

def readsBack (x : Binary64) (s : Scaled) : Bool :=
  let (low, high, closed) := interval x
  let (n, d) := scale 10 s.exponent s.digits 1
  let above := if closed then low.1 * d ≤ n * low.2 else low.1 * d < n * low.2
  let below := if closed then n * high.2 ≤ high.1 * d else n * high.2 < high.1 * d
  above && below

/-- The neighbour of a number on the decimal grid of the given step that reads back. If both do, it is the
nearer one, or the even one if they are equally near. -/
def onGrid? (x : Binary64) (step : Int) : Option Scaled :=
  let (n, d) := x.fraction
  let (gn, gd) := scale 10 (-step) n d
  match [⟨gn / gd, step⟩, ⟨gn / gd + 1, step⟩].filter (readsBack x) with
  | [_, _] => some ⟨roundHalfEven gn gd, step⟩
  | [only] => some only
  | _ => none

/-- The shortest decimal that reads back as the number: on the coarsest grid that has one, the nearest. The
first grid is that of the power of ten above the number, which may itself be the answer. -/
def shortest (x : Binary64) : Scaled :=
  if x.significand = 0 then ⟨0, 0⟩
  else
    let (n, d) := x.fraction
    let top := decimalExponent n d
    ((List.range 18).findSome? fun (digits : Nat) => onGrid? x (top + 1 - digits)).getD ⟨0, 0⟩

end Binary64

end PathRouter.Decimal
