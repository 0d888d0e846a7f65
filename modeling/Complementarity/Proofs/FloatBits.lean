import Mathlib
import Complementarity.Proofs.DecimalValues

/-!
Floating-point numbers and what their bits say.

`Binary64.ofFloat` loses nothing (`toFloat_ofFloat`): the sign and the units of a finite number
determine its bits, and all undefined numbers are the same one.
-/

namespace Complementarity.Binary64

/-- The exponent and the rest of the bits of a number that is not among the smallest. -/
theorem exists_fields {bits : Nat} (h : ¬bits < Nat.pow 2 53) :
    ∃ s r, r < 2 ^ 52 ∧ bits = (s + 1) * 2 ^ 52 + r ∧
      unitsOfPacked bits = (2 ^ 52 + r) * 2 ^ s := by
  have hdivision := Nat.div_add_mod bits (2 ^ 52)
  refine ⟨bits / 2 ^ 52 - 1, bits % 2 ^ 52, Nat.mod_lt _ (by decide), ?_, ?_⟩
  · simp only [Nat.pow_eq] at h
    omega
  · simp only [unitsOfPacked, h, ↓reduceIte, Nat.pow_eq]

/-- Such a number of units has as many binary digits as its exponent says. -/
theorem units_lt {r : Nat} (hr : r < 2 ^ 52) (s : Nat) : (2 ^ 52 + r) * 2 ^ s < 2 ^ (s + 53) := by
  rw [Nat.add_comm s, Nat.pow_add]
  exact Nat.mul_lt_mul_of_pos_right (by omega) (Nat.two_pow_pos s)

/-- Bits stand for a multiple of the distance between numbers of their size. -/
theorem isSpaced_unitsOfPacked (bits : Nat) : IsSpaced (unitsOfPacked bits) := by
  by_cases h : bits < Nat.pow 2 53
  · have hlog : bits.log2 - 52 = 0 := by
      rcases Nat.eq_zero_or_pos bits with rfl | hpos
      · rfl
      · have := (Nat.log2_lt hpos.ne').mpr h
        omega
    rw [unitsOfPacked, if_pos h, IsSpaced, hlog]
    exact Nat.one_dvd _
  · obtain ⟨s, r, hr, -, hunits⟩ := exists_fields h
    have hpos : 0 < (2 ^ 52 + r) * 2 ^ s := Nat.mul_pos (by omega) (Nat.two_pow_pos s)
    have hlog := (Nat.log2_lt hpos.ne').mpr (units_lt hr s)
    rw [hunits, IsSpaced]
    exact (Nat.pow_dvd_pow 2 (by omega)).trans (Nat.dvd_mul_left _ _)

/-- Bits below those of infinity stand for a finite number. -/
theorem unitsOfPacked_lt {bits : Nat} (h : bits < infinityBits) :
    unitsOfPacked bits < unitsBound := by
  obtain ⟨k, hk, -, hbound⟩ := exists_unit_powers
  rw [hbound, Nat.pow_eq]
  by_cases hsmall : bits < Nat.pow 2 53
  · rw [unitsOfPacked, if_pos hsmall]
    exact hsmall.trans_le (Nat.pow_le_pow_right (by decide) (by omega))
  · obtain ⟨s, r, hr, hbits, hunits⟩ := exists_fields hsmall
    have hs : s + 53 ≤ 1024 + k := by
      simp only [infinityBits, Nat.pow_eq] at h
      omega
    rw [hunits]
    exact (units_lt hr s).trans_le (Nat.pow_le_pow_right (by decide) hs)

/-- Bits are made up of the sign and the remaining ones. -/
theorem add_signBit {bits : Nat} (h : bits < 2 ^ 64) :
    (bits % signBit + if signBit ≤ bits then signBit else 0) = bits := by
  have hbit : signBit = 2 ^ 63 := rfl
  rw [hbit]
  by_cases hsign : 2 ^ 63 ≤ bits
  · rw [if_pos hsign]; omega
  · rw [if_neg hsign]; omega

theorem signed_toBits (x : Float) :
    signed (signBit ≤ x.toBits.toNat) (x.toBits.toNat % signBit) = x := by
  simp only [signed, decide_eq_true_eq]
  rw [add_signBit x.toBits.toNat_lt, UInt64.ofNat_toNat, Float.ofBits_toBits]

/-- There is only one undefined number. -/
theorem toBits_eq_of_undefined {x : Float} (h : infinityBits < x.toBits.toNat % signBit) :
    x.toBits = 0x7ff8000000000000 := by
  have hvalid := x.toModel.valid.eq_packedNaN
  simp only [Float.Model.UnpackedFloat.unpackExponent_def,
    Float.Model.UnpackedFloat.unpackMantissa_def] at hvalid
  have hbits : 2047 * 2 ^ 52 < x.toModel.toBits.toNat % 2 ^ 63 := h
  refine UInt64.toBitVec_inj.mp (hvalid ?_ ?_)
  · refine BitVec.eq_of_toNat_eq ?_
    rw [BitVec.extractLsb'_toNat, UInt64.toNat_toBitVec, Nat.shiftRight_eq_div_pow]
    change x.toModel.toBits.toNat / 2 ^ 52 % 2 ^ 11 = 2047
    omega
  · intro hzero
    have hfraction := congrArg BitVec.toNat hzero
    rw [BitVec.extractLsb'_toNat, UInt64.toNat_toBitVec, Nat.shiftRight_zero] at hfraction
    change x.toModel.toBits.toNat % 2 ^ 52 = 0 at hfraction
    omega

/-- A number is determined by what its bits say. -/
theorem toFloat_ofFloat (x : Float) : (ofFloat x).toFloat = x := by
  unfold ofFloat
  dsimp only
  split
  · next hundefined => rw [toFloat, ← toBits_eq_of_undefined hundefined, Float.ofBits_toBits]
  · split
    · next hinfinite => rw [toFloat, ← hinfinite, signed_toBits]
    · next hle hne =>
      have hfinite : x.toBits.toNat % signBit < infinityBits := by omega
      rw [toFloat, if_pos (unitsOfPacked_lt hfinite), packed_unitsOfPacked, signed_toBits]

/-- The units of a number fit into the range, and are a multiple of the distance there. -/
theorem units_of_ofFloat {x : Float} {negative : Bool} {units : Nat}
    (h : ofFloat x = finite negative units) : IsSpaced units ∧ units < unitsBound := by
  unfold ofFloat at h
  dsimp only at h
  split at h
  · cases h
  · split at h
    · cases h
    · next hle hne =>
      cases h
      exact ⟨isSpaced_unitsOfPacked _, unitsOfPacked_lt (by omega)⟩

end Complementarity.Binary64
