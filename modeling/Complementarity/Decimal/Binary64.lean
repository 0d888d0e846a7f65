/-!
Binary64 numbers, exactly.

A finite binary64 number is a whole multiple of the smallest positive one, `2⁻¹⁰⁷⁴`, so reading,
writing and rounding are arithmetic of naturals. Powers are `Nat.pow`, which is the same function
whatever else is imported. `packed_unitsOfPacked` says that the multiple determines the bits.
-/

namespace Complementarity

/-- What a binary64 number stands for; a finite one is `±units · 2⁻¹⁰⁷⁴`. -/
inductive Binary64 where
  | undefined
  | infinite (negative : Bool)
  | finite (negative : Bool) (units : Nat)
  deriving DecidableEq

/-- The quotient `num / den` rounded to the nearest natural; a tie goes to the even one. -/
def roundDiv (num den : Nat) : Nat :=
  let q := num / den
  let r := num % den
  if 2 * r < den ∨ (2 * r = den ∧ q % 2 = 0) then q else q + 1

namespace Binary64

/-- One is this many units. -/
def unitsPerOne : Nat := Nat.pow 2 1074

/-- Finite numbers are below this many units. -/
def unitsBound : Nat := Nat.pow 2 2098

/-- The bits that tell a sign. -/
def signBit : Nat := Nat.pow 2 63

/-- The bits of positive infinity. -/
def infinityBits : Nat := 2047 * Nat.pow 2 52

/-- The units that the bits of a number that is finite and not negative stand for. -/
def unitsOfPacked (bits : Nat) : Nat :=
  if bits < Nat.pow 2 53 then bits
  else (Nat.pow 2 52 + bits % Nat.pow 2 52) * Nat.pow 2 (bits / Nat.pow 2 52 - 1)

/-- The bits of a number of units, a whole multiple of the distance between numbers of its size. -/
def packed (units : Nat) : Nat :=
  if units < Nat.pow 2 53 then units
  else (units.log2 - 52) * Nat.pow 2 52 + units / Nat.pow 2 (units.log2 - 52)

/-- The units of the number nearest to `num / den` units; a tie goes to the even one. -/
def nearestUnits (num den : Nat) : Nat :=
  let spacing := Nat.pow 2 ((num / den).log2 - 52)
  roundDiv num (den * spacing) * spacing

/-- What the bits of a number say. -/
def ofFloat (x : Float) : Binary64 :=
  let bits := x.toBits.toNat
  let magnitude := bits % signBit
  let negative : Bool := signBit ≤ bits
  if infinityBits < magnitude then undefined
  else if magnitude = infinityBits then infinite negative
  else finite negative (unitsOfPacked magnitude)

/-- The bits with a sign. -/
def signed (negative : Bool) (bits : Nat) : Float :=
  Float.ofBits (UInt64.ofNat (bits + if negative then signBit else 0))

/-- The number itself; too many units make it infinite. -/
def toFloat : Binary64 → Float
  | undefined => Float.ofBits 0x7ff8000000000000
  | infinite negative => signed negative infinityBits
  | finite negative units =>
    signed negative (if units < unitsBound then packed units else infinityBits)

/-- Reading bits and writing them again changes nothing. -/
theorem packed_unitsOfPacked (bits : Nat) : packed (unitsOfPacked bits) = bits := by
  simp only [unitsOfPacked, packed, Nat.pow_eq]
  split
  · simp only [*]
  · next h =>
    have hdiv := Nat.div_add_mod bits (2 ^ 52)
    have hmod : bits % 2 ^ 52 < 2 ^ 52 := Nat.mod_lt _ (by decide)
    generalize hq : bits / 2 ^ 52 = q at *
    generalize hr : bits % 2 ^ 52 = r at *
    obtain ⟨s, rfl⟩ : ∃ s, q = s + 1 := ⟨q - 1, by omega⟩
    have hpos : 0 < 2 ^ s := Nat.two_pow_pos s
    have hlog : ((2 ^ 52 + r) * 2 ^ s).log2 = s + 52 := by
      rw [Nat.log2_eq_iff (Nat.ne_of_gt (Nat.mul_pos (by omega) hpos))]
      constructor
      · rw [Nat.add_comm s, Nat.pow_add]
        exact Nat.mul_le_mul_right _ (by omega)
      · rw [show s + 52 + 1 = 53 + s by omega, Nat.pow_add]
        exact Nat.mul_lt_mul_of_pos_right (by omega) hpos
    have hbig : ¬(2 ^ 52 + r) * 2 ^ s < 2 ^ 53 ∨ s = 0 := by
      rcases Nat.eq_zero_or_pos s with hs | hs
      · exact .inr hs
      · left
        have : 2 ^ 1 ≤ 2 ^ s := Nat.pow_le_pow_right (by decide) hs
        have := Nat.mul_le_mul (show 2 ^ 52 ≤ 2 ^ 52 + r by omega) this
        omega
    rcases hbig with hbig | hs
    · simp only [Nat.add_sub_cancel, hbig, ↓reduceIte, hlog, Nat.mul_div_cancel _ hpos]
      omega
    · subst hs
      omega

end Binary64

end Complementarity
