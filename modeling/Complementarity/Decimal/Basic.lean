import Complementarity.Decimal.Binary64

/-!
Decimal numbers, and the binary64 number nearest to each of them.
-/

namespace Complementarity

/-- The number `digits · 10 ^ exponent`. -/
structure Decimal where
  digits : Nat
  exponent : Int
  deriving DecidableEq

namespace Decimal

/-- The numerator of the number as a fraction. -/
def numerator (d : Decimal) : Nat :=
  d.digits * Nat.pow 10 d.exponent.toNat

/-- The denominator of the number as a fraction. -/
def denominator (d : Decimal) : Nat :=
  Nat.pow 10 (-d.exponent).toNat

/-- Beyond this many powers of ten a number is too large for binary64, or too small. -/
def exponentLimit : Nat := 400

/-- The units of the binary64 number nearest to a decimal one. Exponents far outside of the range
are settled without computing the power. -/
def nearestUnits (d : Decimal) : Nat :=
  if d.digits = 0 then 0
  else if exponentLimit < d.exponent then Binary64.unitsBound
  else if d.exponent + d.digits.log2 + 1 < -exponentLimit then 0
  else Binary64.nearestUnits (d.numerator * Binary64.unitsPerOne) d.denominator

/-- The binary64 number nearest to a decimal one with a sign. -/
def toFloat (negative : Bool) (d : Decimal) : Float :=
  (Binary64.finite negative d.nearestUnits).toFloat

/-- The decimal number that has exactly the value of so many units. -/
def ofUnits (units : Nat) : Decimal :=
  ⟨units * Nat.pow 5 1074, -1074⟩

/-- The same number without the trailing zeros of its digits, as far as the fuel lasts. -/
def stripFrom : Nat → Decimal → Decimal
  | 0, d => d
  | fuel + 1, d =>
    if d.digits % 10 = 0 ∧ d.digits ≠ 0 then stripFrom fuel ⟨d.digits / 10, d.exponent + 1⟩ else d

/-- The same number without the trailing zeros of its digits. -/
def strip (d : Decimal) : Decimal :=
  stripFrom d.digits.log2 d

end Decimal

end Complementarity
