import Mathlib.Analysis.Real.Sqrt
import Mathlib.Tactic.NormNum.OfScientific
import Complementarity.Proofs.DefaultFilling

/-!
Exact arithmetic.

The real numbers are scalars like any others: all of them are finite and defined, and the root is
the exact one. With them the default configurations can be seen to pass the check.
-/

namespace Complementarity

noncomputable instance : Scalar ℝ where
  sqrt := Real.sqrt
  ofNat n := n
  isFinite _ := true
  decideLT := Real.decidableLT
  decideLE := Real.decidableLE

/-- The default parameters of every algorithm are usable. -/
theorem complete_isUsable (solver : SolverId) : (Node.complete solver : Node ℝ).IsUsable where
  integers_length := by cases solver <;> rfl
  reals_length := by cases solver <;> rfl
  cap_nonneg := by cases solver <;> exact ⟨_, rfl, by decide⟩
  tolerance_nonneg := by cases solver <;> exact ⟨_, rfl, by norm_num⟩
  step_pos _ := by cases solver <;> exact ⟨_, rfl, by norm_num⟩
  shrink_mem _ := by cases solver <;> exact ⟨_, rfl, by norm_num, by norm_num⟩

/-- Every default configuration passes the check, but for that of a projection onto the cylinder,
which is not used alone. -/
theorem ConfigTree.validate_ofSolver {solver : SolverId} (hne : solver ≠ .cylinderProjection) :
    (ofSolver solver : ConfigTree ℝ).validate = .ok () :=
  validate_ofSolver_of_isUsable complete_isUsable hne

end Complementarity
