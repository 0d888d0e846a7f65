import Mathlib
import Complementarity.Proofs.ComparisonLaws

/-!
The sign of a square root at binary64.

A square root is rounded with a plus sign, and packing keeps the sign whatever it does to the number.
So a square root may be infinite or undefined, but it is never less than zero (`not_sqrt_neg`).
-/

namespace Complementarity.Binary64

open Float.Model (UnpackedFloat)
open Float.Model.UnpackedFloat (Accuracy Sign roundWithAccuracy unpackSign)

/-- Not below zero: with a plus sign, zero, or undefined. -/
def IsUnsigned : UnpackedFloat → Prop
  | .infinity sign | .finite sign .. => sign = .positive
  | .zero _ | .notANumber => True

theorem isUnsigned_roundWithAccuracy (spec : Float.Model.Format) (mantissa : Nat) (exponent : Int)
    (accuracy : Accuracy) :
    IsUnsigned (roundWithAccuracy spec .positive mantissa exponent accuracy) := by
  unfold roundWithAccuracy
  dsimp only
  split
  · trivial
  · rfl

theorem isUnsigned_sqrt (spec : Float.Model.Format) (v : UnpackedFloat) :
    IsUnsigned (UnpackedFloat.sqrt spec v) := by
  rcases v with (_ | _) | _ | _ | ⟨_ | _, m, e, _⟩
  case finite.positive => exact isUnsigned_roundWithAccuracy _ _ _ _
  all_goals trivial

/-- The exponent and the mantissa decide the kind of number; its sign is that of the bits. -/
theorem isUnsigned_unpack {bits : BitVec Float.Model.Format.binary64.numBits}
    (h : Sign.ofBitVec (unpackSign bits) = .positive) :
    IsUnsigned (UnpackedFloat.unpack .binary64 bits) := by
  unfold UnpackedFloat.unpack
  dsimp only
  repeat' split
  all_goals first | exact h | trivial

/-- Packing does not lose the sign, not even of a number that overflows. -/
theorem isUnsigned_unpack_pack {v : UnpackedFloat} (h : IsUnsigned v) :
    IsUnsigned (UnpackedFloat.unpack .binary64 (UnpackedFloat.pack .binary64 v)) := by
  cases v with
  | infinity sign =>
    obtain rfl : sign = .positive := h
    exact isUnsigned_unpack (by simp [UnpackedFloat.pack, UnpackedFloat.packedInfinity])
  | notANumber => exact isUnsigned_unpack (by simp [UnpackedFloat.pack, UnpackedFloat.packedNaN])
  | zero sign => cases sign <;> trivial
  | finite sign mantissa exponent _ =>
    obtain rfl : sign = .positive := h
    refine isUnsigned_unpack ?_
    unfold UnpackedFloat.pack
    dsimp only
    repeat' split
    all_goals simp [UnpackedFloat.packedInfinity]

theorem not_neg_of_isUnsigned {x : Float} (h : IsUnsigned x.toModel.unpack) : ¬x < 0.0 := by
  rw [neg_iff, rankOf?]
  revert h
  rcases x.toModel.unpack with (_ | _) | _ | _ | ⟨_ | _, m, e, _⟩ <;>
    · dsimp only [IsUnsigned, rank?]
      simp [Prod.Lex.toLex_lt_toLex]

/-- A square root is not negative, whatever the number. -/
theorem not_sqrt_neg (x : Float) : ¬Float.sqrt x < 0.0 :=
  not_neg_of_isUnsigned (isUnsigned_unpack_pack (isUnsigned_sqrt _ _))

end Complementarity.Binary64
