/-!
The numbers the library computes with.

Every algorithm is written once over `Scalar`. Programs run it at `Float`, that is, at binary64 with
its rounding, infinities and NaN. Nothing in the class promises a law of arithmetic, so a statement
proved over an arbitrary scalar also holds where `x ≤ y` and `y < x` are both false.
-/

namespace Complementarity

/-- A number type with the operations the solvers use and decidable comparisons. -/
class Scalar (R : Type) extends Zero R, One R, Add R, Sub R, Mul R, Div R, Neg R, LT R, LE R,
    OfScientific R where
  /-- The square root. -/
  sqrt : R → R
  /-- A count as a number. -/
  ofNat : Nat → R
  /-- Neither infinite nor undefined. -/
  isFinite : R → Bool
  /-- Strict comparisons are decidable. -/
  decideLT : (x y : R) → Decidable (x < y)
  /-- Comparisons are decidable. -/
  decideLE : (x y : R) → Decidable (x ≤ y)

namespace Scalar

variable {R : Type} [Scalar R]

instance (x y : R) : Decidable (x < y) := decideLT x y

instance (x y : R) : Decidable (x ≤ y) := decideLE x y

/-- The smaller of two numbers, and the other one if one of them is undefined. -/
@[specialize] def lesser (x y : R) : R :=
  if y < x ∨ ¬x ≤ x then y else x

/-- The larger of two numbers, and the other one if one of them is undefined. -/
@[specialize] def greater (x y : R) : R :=
  if x < y ∨ ¬x ≤ x then y else x

/-- The magnitude of a number. -/
@[specialize] def abs (x : R) : R :=
  if x < 0 then -x else x

/-- Equal to zero, of either sign. -/
def IsZero (x : R) : Prop :=
  x ≤ 0 ∧ 0 ≤ x

instance (x : R) : Decidable (IsZero x) :=
  inferInstanceAs (Decidable (_ ∧ _))

/-- Positive infinity. -/
def IsTop (x : R) : Prop :=
  isFinite x = false ∧ 0 < x

instance (x : R) : Decidable (IsTop x) :=
  inferInstanceAs (Decidable (_ ∧ _))

/-- Less than positive infinity; false of an undefined number. -/
def BelowTop (x : R) : Prop :=
  isFinite x = true ∨ x < 0

instance (x : R) : Decidable (BelowTop x) :=
  inferInstanceAs (Decidable (_ ∨ _))

/-- The distance from one to the next larger binary64 number, `2⁻⁵²`. -/
def epsilon : R := 2.220446049250313080847263336181640625e-16

/-- Diagonal entries up to this size count as zero. -/
def diagonalThreshold : R := 1e-16

end Scalar

instance : Scalar Float where
  zero := 0.0
  one := 1.0
  sqrt := Float.sqrt
  ofNat := Float.ofNat
  isFinite := Float.isFinite
  decideLT x y := inferInstanceAs (Decidable (x < y))
  decideLE x y := inferInstanceAs (Decidable (x ≤ y))

end Complementarity
