import Complementarity.Proofs.AdaptedSteps

/-!
Steps towards a separating hyperplane, in exact arithmetic.

A predictor is accepted when the corrected velocity moves little against the reaction. The direction
of the hyperplane then differs little from the way back from the predictor: it makes an angle with
that way which stays away from a right one, and it is about as long (`le_inner_sub`,
`norm_sub_le_of_shift`). So the hyperplane keeps its distance from the reaction, and the coefficient
of the step has a positive lower bound that depends on the limit of the test alone
(`BelongTogether.stepsTowards`).
-/

namespace Complementarity

/-! ### A vector and one that differs little from it -/

section Perturbed

variable {E : Type} [NormedAddCommGroup E] [InnerProductSpace ℝ E] {bound : ℝ} {x shift : E}

theorem le_inner_sub (hshift : ‖shift‖ ≤ bound * ‖x‖) :
    (1 - bound) * ‖x‖ ^ 2 ≤ inner ℝ x (x - shift) := by
  have hinner : inner ℝ x shift ≤ bound * ‖x‖ ^ 2 :=
    calc inner ℝ x shift ≤ ‖x‖ * ‖shift‖ := real_inner_le_norm x shift
      _ ≤ ‖x‖ * (bound * ‖x‖) := mul_le_mul_of_nonneg_left hshift (norm_nonneg x)
      _ = bound * ‖x‖ ^ 2 := by ring
  rw [inner_sub_right, real_inner_self_eq_norm_sq]
  linarith

omit [InnerProductSpace ℝ E] in
theorem norm_sub_le_of_shift (hshift : ‖shift‖ ≤ bound * ‖x‖) :
    ‖x - shift‖ ≤ (1 + bound) * ‖x‖ :=
  calc ‖x - shift‖ ≤ ‖x‖ + ‖shift‖ := norm_sub_le x shift
    _ ≤ ‖x‖ + bound * ‖x‖ := add_le_add_right hshift ‖x‖
    _ = (1 + bound) * ‖x‖ := by ring

/-- What is left is not zero: it makes an acute angle with the vector. -/
theorem norm_sub_pos (hx : x ≠ 0) (hlt : bound < 1) (hshift : ‖shift‖ ≤ bound * ‖x‖) :
    0 < ‖x - shift‖ := by
  have hpos : 0 < (1 - bound) * ‖x‖ ^ 2 :=
    mul_pos (sub_pos.mpr hlt) (pow_pos (norm_pos_iff.mpr hx) 2)
  refine norm_pos_iff.mpr fun hzero => ?_
  have hinner := le_inner_sub hshift
  rw [hzero, inner_zero_right] at hinner
  exact absurd hpos hinner.not_gt

theorem le_inner_div_normSq (hx : x ≠ 0) (hnonneg : 0 ≤ bound) (hlt : bound < 1)
    (hshift : ‖shift‖ ≤ bound * ‖x‖) :
    (1 - bound) / (1 + bound) ^ 2 ≤ inner ℝ x (x - shift) / ‖x - shift‖ ^ 2 := by
  have hgap : 0 ≤ 1 - bound := sub_nonneg.mpr hlt.le
  have hfactor : 0 < (1 + bound) ^ 2 := pow_pos (by linarith) 2
  have hlength : ‖x - shift‖ ^ 2 ≤ (1 + bound) ^ 2 * ‖x‖ ^ 2 := by
    rw [← mul_pow]
    exact pow_le_pow_left₀ (norm_nonneg _) (norm_sub_le_of_shift hshift) 2
  rw [div_le_div_iff₀ hfactor (pow_pos (norm_sub_pos hx hlt hshift) 2)]
  calc (1 - bound) * ‖x - shift‖ ^ 2 ≤ (1 - bound) * ((1 + bound) ^ 2 * ‖x‖ ^ 2) :=
        mul_le_mul_of_nonneg_left hlength hgap
    _ = (1 - bound) * ‖x‖ ^ 2 * (1 + bound) ^ 2 := by ring
    _ ≤ inner ℝ x (x - shift) * (1 + bound) ^ 2 :=
        mul_le_mul_of_nonneg_right (le_inner_sub hshift) hfactor.le

end Perturbed

namespace FrictionProblem

/-! ### Predictors -/

/-- The direction towards the hyperplane that a predictor defines at a reaction. -/
def directionOf {R : Type} [Scalar R] (problem : FrictionProblem R) (r : Vec R problem.size)
    (rho : R) (predictor : Predictor R problem.size) : Vec R problem.size :=
  separatingDirection (Vec.sub r predictor.reaction) rho (problem.correctedVelocity r)
    predictor.velocity

/-- The coefficient of the step towards the hyperplane. -/
def coefficientOf {R : Type} [Scalar R] (problem : FrictionProblem R) (r : Vec R problem.size)
    (rho : R) (predictor : Predictor R problem.size) : R :=
  Vec.dot (Vec.sub r predictor.reaction) (problem.directionOf r rho predictor) /
    Vec.normSq (problem.directionOf r rho predictor)

theorem IsAdapted.belongTogether_of_accepted {R : Type} [Scalar R] {problem : FrictionProblem R}
    {params : ProjectionParams R} {r : Vec R problem.size} {step rho : R}
    {trial : Trial R (Predictor R problem.size)} (h : problem.IsAdapted params r step rho trial)
    (haccepted : trial.ratio ≤ params.coefficient) : problem.BelongTogether r rho trial := by
  cases h with
  | accepted _ _ hbelong => exact hbelong
  | exhausted _ hrejected _ => exact absurd haccepted hrejected

section Exact

variable {problem : FrictionProblem ℝ} {params : ProjectionParams ℝ} {r : Vec ℝ problem.size}
  {rho bound : ℝ} {trial : Trial ℝ (Predictor ℝ problem.size)}

theorem IsAdapted.pos {step : ℝ} (h : problem.IsAdapted params r step rho trial)
    (hstep : 0 < step) (hshrink : 0 < params.shrink) : 0 < rho := by
  cases h with
  | accepted htried =>
    obtain ⟨times, -, rfl⟩ := htried
    exact shortened_pos hshrink hstep times
  | exhausted htried =>
    exact mul_pos (htried ▸ shortened_pos hshrink hstep params.retries) hshrink

/-- How far the direction is from the way back from the predictor. -/
noncomputable def shiftOf (problem : FrictionProblem ℝ) (r : Vec ℝ problem.size) (rho : ℝ)
    (predictor : Predictor ℝ problem.size) : EuclideanSpace ℝ (Fin problem.size) :=
  rho • ((problem.correctedVelocity r).coords - predictor.velocity.coords)

theorem coords_directionOf (r : Vec ℝ problem.size) (rho : ℝ)
    (predictor : Predictor ℝ problem.size) :
    (problem.directionOf r rho predictor).coords =
      (Vec.sub r predictor.reaction).coords - problem.shiftOf r rho predictor := by
  have hshift : Vec.coords (Vector.zipWith (fun a b => rho * (a - b)) (problem.correctedVelocity r)
      predictor.velocity) = problem.shiftOf r rho predictor := by
    ext i
    exact Vec.get_zipWith _ _ _ i
  rw [directionOf, separatingDirection, Vec.coords_sub, hshift]

/-- The test of the search bounds the shift by the distance to the predictor. -/
theorem BelongTogether.norm_shiftOf_le (h : problem.BelongTogether r rho trial) (hrho : 0 < rho)
    (hmoved : trial.point.reaction ≠ r) (haccepted : trial.ratio ≤ bound) :
    ‖problem.shiftOf r rho trial.point‖ ≤
      bound * ‖(Vec.sub r trial.point.reaction).coords‖ := by
  have hdistance : 0 < ‖(Vec.sub r trial.point.reaction).coords‖ := by
    rw [Vec.coords_sub, norm_sub_pos_iff, Vec.coords_injective.ne_iff]
    exact hmoved.symm
  have hratio := haccepted
  rw [h.ratio_eq_norms, Vec.norm_eq, Vec.norm_eq, div_le_iff₀ hdistance] at hratio
  rw [shiftOf, norm_smul, Real.norm_of_nonneg hrho.le, h.velocity_eq, ← Vec.coords_sub]
  exact hratio

/-! ### Steps -/

/-- A step from a reaction: the direction makes an acute angle with the way back from the predictor
and is not much longer, so that the coefficient of the step has a lower bound. The step is taken
unless the direction is tiny; then the predictor is the next reaction. -/
structure StepsTowards (problem : FrictionProblem ℝ) (bound relaxation : ℝ)
    (r : Vec ℝ problem.size) (rho : ℝ) (predictor : Predictor ℝ problem.size)
    (next : Vec ℝ problem.size) : Prop where
  gap_pos : 0 < (1 - bound) * Vec.normSq (Vec.sub r predictor.reaction)
  gap_le_dot : (1 - bound) * Vec.normSq (Vec.sub r predictor.reaction) ≤
    Vec.dot (Vec.sub r predictor.reaction) (problem.directionOf r rho predictor)
  norm_le : Vec.norm (problem.directionOf r rho predictor) ≤
    (1 + bound) * Vec.norm (Vec.sub r predictor.reaction)
  normSq_ne_zero : Vec.normSq (problem.directionOf r rho predictor) ≠ 0
  le_coefficient : (1 - bound) / (1 + bound) ^ 2 ≤ problem.coefficientOf r rho predictor
  next_eq : next =
    if Vec.normSq (problem.directionOf r rho predictor) ≤ Scalar.epsilon * Scalar.epsilon then
      predictor.reaction
    else
      problem.projectedStep r (relaxation * problem.coefficientOf r rho predictor * rho)
        predictor.velocity

/-- The update of a predictor that has moved. -/
theorem hyperplaneUpdate_of_moved {relaxation : ℝ} {predictor : Predictor ℝ problem.size}
    (hmoved : predictor.reaction ≠ r) :
    problem.hyperplaneUpdate relaxation r (problem.correctedVelocity r) rho predictor =
      if Vec.normSq (problem.directionOf r rho predictor) ≤ Scalar.epsilon * Scalar.epsilon then
        predictor.reaction
      else
        problem.projectedStep r (relaxation * problem.coefficientOf r rho predictor * rho)
          predictor.velocity := by
  have hnorm : ¬Scalar.IsZero (Vec.norm (Vec.sub r predictor.reaction)) := by
    rw [Scalar.isZero_iff, Vec.norm_eq_zero_iff, Vec.sub_eq_zero_iff]
    exact hmoved.symm
  refine if_congr ?_ rfl rfl
  rw [or_iff_right hnorm]
  rfl

theorem BelongTogether.stepsTowards (h : problem.BelongTogether r rho trial) (hrho : 0 < rho)
    (hnonneg : 0 ≤ bound) (hlt : bound < 1) (haccepted : trial.ratio ≤ bound)
    (hmoved : trial.point.reaction ≠ r) (relaxation : ℝ) :
    problem.StepsTowards bound relaxation r rho trial.point
      (problem.hyperplaneUpdate relaxation r (problem.correctedVelocity r) rho trial.point) := by
  have hshift := h.norm_shiftOf_le hrho hmoved haccepted
  have hback : (Vec.sub r trial.point.reaction).coords ≠ 0 := by
    rw [Vec.coords_sub, sub_ne_zero, Vec.coords_injective.ne_iff]
    exact hmoved.symm
  exact
    { gap_pos := by
        rw [Vec.normSq_eq]
        exact mul_pos (sub_pos.mpr hlt) (pow_pos (norm_pos_iff.mpr hback) 2)
      gap_le_dot := by
        rw [Vec.normSq_eq, Vec.dot_eq_inner, coords_directionOf]
        exact le_inner_sub hshift
      norm_le := by
        rw [Vec.norm_eq, Vec.norm_eq, coords_directionOf]
        exact norm_sub_le_of_shift hshift
      normSq_ne_zero := by
        rw [Vec.normSq_eq, coords_directionOf]
        exact (pow_pos (norm_sub_pos hback hlt hshift) 2).ne'
      le_coefficient := by
        rw [coefficientOf, Vec.dot_eq_inner, Vec.normSq_eq, coords_directionOf]
        exact le_inner_div_normSq hback hnonneg hlt hshift
      next_eq := hyperplaneUpdate_of_moved hmoved }

/-- Steps from accepted predictors that have moved are well defined and do not vanish. They go along
with the step size that the search has accepted, which is positive if the first one is and if the
factor that shortens it is. -/
theorem accepted_steps_separate (problem : FrictionProblem ℝ) (params : ProjectionParams ℝ)
    (relaxation : ℝ) (progress : Progress (Residual ℝ) (HyperplaneState ℝ problem.size))
    {rho : ℝ} {trial : Trial ℝ (Predictor ℝ problem.size)}
    (hfound : problem.adaptedPredictor params progress.state.candidate.reaction
      progress.state.step = (rho, trial))
    (hnonneg : 0 ≤ params.coefficient) (hlt : params.coefficient < 1)
    (haccepted : trial.ratio ≤ params.coefficient)
    (hmoved : trial.point.reaction ≠ progress.state.candidate.reaction) :
    (0 < progress.state.step → 0 < params.shrink → 0 < rho) ∧
    (0 < rho → ∃ outcome, (problem.hyperplaneStep params relaxation progress).value = .ok outcome ∧
      problem.StepsTowards params.coefficient relaxation progress.state.candidate.reaction rho
        trial.point outcome.2.candidate.reaction) := by
  have hadapted := adaptedPredictor_isAdapted problem params progress.state.candidate.reaction
    progress.state.step
  rw [hfound] at hadapted
  refine ⟨hadapted.pos, fun hrho => ?_⟩
  obtain ⟨outcome, hok⟩ :
      ∃ outcome, (problem.hyperplaneStep params relaxation progress).value = .ok outcome := ⟨_, rfl⟩
  have hnext := (hyperplaneStep_goesOn hok).reaction_eq
  rw [hfound] at hnext
  refine ⟨outcome, hok, ?_⟩
  rw [hnext]
  exact (hadapted.belongTogether_of_accepted haccepted).stepsTowards hrho hnonneg hlt haccepted
    hmoved relaxation

end Exact

/-- The first step for a contact that is pushed together. Its predictor halves the pull, and the
direction is half as long as the way back. -/
theorem pushedContact_separates :
    (0 : ℝ) < 0.5 ∧ (0 : ℝ) ≤ 0.9 ∧ (0.9 : ℝ) < 1 ∧
    ∃ trial, pushedContact.adaptedPredictor (singleTrial 0.9) #v[0, 0, 0] 0.5 = (0.5, trial) ∧
      trial.ratio ≤ 0.9 ∧ trial.point.reaction ≠ #v[0, 0, 0] ∧
      ∃ outcome, (pushedContact.hyperplaneStep (singleTrial 0.9) 1
          ⟨0, .unmeasured, ⟨⟨#v[0, 0, 0], #v[-1, 0, 0]⟩, 0.5⟩⟩).value = .ok outcome ∧
        pushedContact.StepsTowards 0.9 1 #v[0, 0, 0] 0.5 trial.point
          outcome.2.candidate.reaction := by
  have hpos : (0 : ℝ) < 0.5 := by norm_num
  have hnonneg : (0 : ℝ) ≤ 0.9 := by norm_num
  have hlt : (0.9 : ℝ) < 1 := by norm_num
  have haccepted : (0.5 : ℝ) ≤ 0.9 := by norm_num
  have hmoved : (#v[0.5, 0, 0] : Vec ℝ 3) ≠ #v[0, 0, 0] := fun hsame => by
    have hnormal : (0.5 : ℝ) = 0 := congrArg (Vector.get · 0) hsame
    norm_num at hnormal
  have hfound := pushedContact_adapted 0.9
  rw [if_pos haccepted] at hfound
  have hsteps := accepted_steps_separate pushedContact (singleTrial 0.9) 1
    ⟨0, .unmeasured, ⟨⟨#v[0, 0, 0], #v[-1, 0, 0]⟩, 0.5⟩⟩ hfound hnonneg hlt haccepted hmoved
  exact ⟨hpos, hnonneg, hlt, _, hfound, haccepted, hmoved, hsteps.2 hpos⟩

end FrictionProblem

end Complementarity
