import Mathlib.Data.List.TFAE
import Complementarity.Friction.Law
import Complementarity.Proofs.ConeGeometry

/-!
The friction law of a whole problem, in exact arithmetic.

The error of a reaction is zero just if the reaction and its velocity obey the law at every contact,
and just if a projection step leaves the reaction where it is. The steps may have any positive size,
so one of them decides for all.
-/

namespace Complementarity.FrictionProblem

variable (problem : FrictionProblem ℝ)

/-- A reaction that obeys the law at every contact, with the velocity it leads to. -/
def IsSolution (r : Stack ℝ problem.contacts problem.tangents) : Prop :=
  ∀ c, ObeysLaw (problem.friction.get c) (r.block c) ((problem.velocity r).block c)

variable {problem} {r : Stack ℝ problem.contacts problem.tangents}

/-! ### Steps -/

theorem isStep_axpy {t : Nat} (mu rho : ℝ) (r u : Block ℝ t) :
    IsStep mu rho r u (Vec.axpy (-rho) (deSaxce mu u) r) := by
  intro i
  rw [Vec.get_axpy]
  ring

/-- The block of a contact after a projection step. -/
theorem block_projectedStep (r : Stack ℝ problem.contacts problem.tangents) (rho : ℝ)
    (c : Fin problem.contacts) :
    (problem.projectedStep r rho (problem.correctedVelocity r)).block c =
      (projectOnCone (problem.friction.get c)
        (Vec.axpy (-rho) (deSaxce (problem.friction.get c) ((problem.velocity r).block c))
          (r.block c))).2 := by
  rw [projectedStep, project, Stack.block_mapBlocks, Vec.axpy, Stack.block_zipWith,
    correctedVelocity, Stack.block_mapBlocks, Vec.axpy]

/-- The reactions that a projection step leaves where they are. -/
theorem projectedStep_eq_self_iff {rho : ℝ} (hrho : 0 < rho) :
    problem.projectedStep r rho (problem.correctedVelocity r) = r ↔ problem.IsSolution r := by
  have hcontact (c : Fin problem.contacts) :
      (problem.projectedStep r rho (problem.correctedVelocity r)).block c = r.block c ↔
        ObeysLaw (problem.friction.get c) (r.block c) ((problem.velocity r).block c) := by
    rw [block_projectedStep]
    exact projectOnCone_step_eq_iff (problem.friction_nonneg c) hrho (isStep_axpy _ _ _ _)
  constructor
  · intro heq c
    rw [← hcontact, heq]
  · intro hlaw
    exact Stack.ext_blocks fun c => (hcontact c).mpr (hlaw c)

/-! ### Errors -/

theorem isStep_sub {t : Nat} (mu : ℝ) (r u : Block ℝ t) :
    IsStep mu 1 r u (Vec.sub r (deSaxce mu u)) := by
  intro i
  rw [Vec.get_sub, one_mul]

theorem contactErrorSq_nonneg {t : Nat} (mu : ℝ) (r u : Block ℝ t) : 0 ≤ contactErrorSq mu r u :=
  Vec.distSq_nonneg _ _

theorem contactErrorSq_eq_zero {t : Nat} {mu : ℝ} (hmu : 0 ≤ mu) {r u : Block ℝ t} :
    contactErrorSq mu r u = 0 ↔ ObeysLaw mu r u := by
  rw [contactErrorSq, coneResidualSq, Vec.distSq_eq_zero, eq_comm]
  exact projectOnCone_step_eq_iff hmu one_pos (isStep_sub mu r u)

variable (problem) in
/-- What the error of a reaction is relative to. -/
noncomputable def dataSize : ℝ :=
  if Scalar.epsilon < Vec.norm problem.offset then Vec.norm problem.offset else 1

theorem dataSize_pos (problem : FrictionProblem ℝ) : 0 < problem.dataSize := by
  unfold dataSize
  split_ifs with hnorm
  · exact Scalar.epsilon_pos.trans hnorm
  · exact one_pos

theorem relative_mul_dataSize (problem : FrictionProblem ℝ) (x : ℝ) :
    problem.relative x * problem.dataSize = x := by
  unfold relative dataSize
  dsimp only
  split_ifs with hnorm
  · exact div_mul_cancel₀ x (Scalar.epsilon_pos.trans hnorm).ne'
  · exact mul_one x

theorem relative_eq_zero {x : ℝ} : problem.relative x = 0 ↔ x = 0 := by
  rw [← mul_eq_zero_iff_right problem.dataSize_pos.ne', relative_mul_dataSize]

theorem sumOver_eq {nc : Nat} (f : Fin nc → ℝ) : Stack.sumOver f = ∑ c, f c := by
  rw [Stack.sumOver, Vec.sum_eq]
  exact Finset.sum_congr rfl fun c _ => Vec.get_ofFn f c

/-- An error that is made up of non-negative parts vanishes just if all of them do. -/
theorem relative_sqrt_sumOver_eq_zero {f : Fin problem.contacts → ℝ} (hf : ∀ c, 0 ≤ f c) :
    problem.relative (Scalar.sqrt (Stack.sumOver f)) = 0 ↔ ∀ c, f c = 0 := by
  rw [relative_eq_zero, sumOver_eq, Scalar.sqrt_eq,
    Real.sqrt_eq_zero (Finset.sum_nonneg fun c _ => hf c),
    Finset.sum_eq_zero_iff_of_nonneg fun c _ => hf c]
  simp only [Finset.mem_univ, true_imp_iff]

theorem error_eq_zero_iff : problem.error r = 0 ↔ problem.IsSolution r := by
  rw [error, errorOf, relative_sqrt_sumOver_eq_zero fun c => contactErrorSq_nonneg _ _ _]
  exact forall_congr' fun c => contactErrorSq_eq_zero (problem.friction_nonneg c)

/-- The error vanishes exactly at the solutions, and these are the reactions that one projection
step, equivalently every one, leaves where they are. -/
theorem error_zero_tfae (problem : FrictionProblem ℝ)
    (r : Stack ℝ problem.contacts problem.tangents) :
    List.TFAE [
      problem.error r = 0,
      ∀ c, ObeysLaw (problem.friction.get c) (r.block c) ((problem.velocity r).block c),
      ∃ rho > 0, problem.projectedStep r rho (problem.correctedVelocity r) = r,
      ∀ rho > 0, problem.projectedStep r rho (problem.correctedVelocity r) = r] := by
  tfae_have 1 ↔ 2 := error_eq_zero_iff
  tfae_have 2 → 4 := fun hlaw _ hrho => (projectedStep_eq_self_iff hrho).mpr hlaw
  tfae_have 4 → 3 := fun hall => ⟨1, one_pos, hall 1 one_pos⟩
  tfae_have 3 → 2 := fun ⟨_, hrho, heq⟩ => (projectedStep_eq_self_iff hrho).mp heq
  tfae_finish

end Complementarity.FrictionProblem
