import Complementarity.Decimal.Basic

/-!
The shortest decimal number that reads back.

Decimals with one, two, … seventeen digits form finer and finer grids. On each grid only the two
neighbours of a binary64 number can read back to it. The first grid with such a neighbour wins, and
of two the nearer one; a tie goes to the larger.
-/

namespace Complementarity.Decimal

/-- The power of ten is at most the number. -/
def powerFits (units : Nat) (p : Int) : Bool :=
  Nat.pow 10 p.toNat * Binary64.unitsPerOne ≤ units * Nat.pow 10 (-p).toNat

/-- The largest power of ten up to the number, sought upwards from a start while the fuel lasts. -/
def leadingFrom (units : Nat) : Nat → Int → Int
  | 0, p => p
  | fuel + 1, p => if powerFits units (p + 1) then leadingFrom units fuel (p + 1) else p

/-- The exponent of the leading digit. It is sought near an estimate from the binary logarithm. -/
def leadingExponent (units : Nat) : Int :=
  leadingFrom units 4 (((units.log2 : Int) - 1074) * 30103 / 100000 - 2)

/-- The whole part and the rest of the number counted in steps of the grid, as a quotient with its
remainder and divisor. -/
def onGrid (units : Nat) (grid : Int) : Nat × Nat × Nat :=
  let num := units * Nat.pow 10 (-grid).toNat
  let den := Binary64.unitsPerOne * Nat.pow 10 grid.toNat
  (num / den, num % den, den)

/-- The neighbours of the number on a grid, the preferred one first. -/
def neighbours (units : Nat) (grid : Int) : List Decimal :=
  let (below, rest, den) := onGrid units grid
  if 2 * rest < den then [⟨below, grid⟩, ⟨below + 1, grid⟩] else [⟨below + 1, grid⟩, ⟨below, grid⟩]

/-- The decimal number stands for this binary64 number. -/
def ReadsBack (units : Nat) (d : Decimal) : Prop :=
  d.nearestUnits = units

instance (units : Nat) (d : Decimal) : Decidable (ReadsBack units d) :=
  inferInstanceAs (Decidable (_ = _))

/-- The grids that can hold a decimal of one to seventeen digits, the coarsest first. -/
def grids (units : Nat) : List Int :=
  let leading := leadingExponent units
  (List.range 17).map fun k => leading - (k : Nat)

/-- The shortest decimal number that reads back; the exact value should none of the grids have one. -/
def shortest (units : Nat) : Decimal :=
  if units = 0 then ⟨0, 0⟩
  else
    let found? := (grids units).findSome? fun grid =>
      (neighbours units grid).find? fun d => ReadsBack units d
    (found?.getD (ofUnits units)).strip

end Complementarity.Decimal
