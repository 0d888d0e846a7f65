import Complementarity.Proofs.StalledIterations

/-!
The equation of Newton's method and the friction law of a contact, in exact arithmetic.

The equation projects a step onto half-line times disk, the error projects a corrected step onto the
friction cone. Both projections go back to the start of the step at the reactions that obey the law
and nowhere else, as the two tangential step sizes agree. A run carries the equation at its own
reaction along, so a run that reports no error returns a reaction that obeys the law.
-/

namespace Complementarity

namespace ContactProblem

variable {problem : ContactProblem ℝ} {r : Block ℝ 2}

theorem error_eq_zero_iff (hmu : 0 ≤ problem.friction) :
    problem.error r = 0 ↔ ObeysLaw problem.friction r (problem.velocity r) := by
  rw [error, Scalar.sqrt_eq, Real.sqrt_eq_zero (FrictionProblem.contactErrorSq_nonneg _ _ _)]
  exact FrictionProblem.contactErrorSq_eq_zero hmu

/-! ### Runs -/

/-- The equation that is carried along belongs to the reaction, and so does the error. -/
structure IsLinearized (problem : ContactProblem ℝ) (rho : Vec ℝ 3)
    (progress : Progress ℝ (NewtonState ℝ)) : Prop where
  equation_eq : progress.state.equation = problem.linearize rho progress.state.reaction
  error_eq : progress.error = Vec.norm progress.state.equation.value

theorem isLinearized_of_reaches {params : NewtonParams ℝ} {rho : Vec ℝ 3} {due : ℝ → Prop}
    {start ended : Progress ℝ (NewtonState ℝ)} (hstart : problem.IsLinearized rho start)
    (reached : Progress.Reaches due (problem.newtonStep params rho) start ended) :
    problem.IsLinearized rho ended :=
  reached.preserves (problem.IsLinearized rho) hstart fun _ _ _ _ hok => by
    obtain rfl := Except.ok.inj hok
    exact ⟨rfl, rfl⟩

/-- A run reports the residual of the equation at the reaction it returns. -/
theorem error_newton (hflat : ¬problem.IsFlat) (params : NewtonParams ℝ) (r : Block ℝ 2) :
    (problem.newton params r).value.1.error = Vec.norm
      (problem.linearize problem.newtonScaling (problem.newton params r).value.2).value := by
  obtain ⟨ended, hfinal, heq⟩ := exists_newton_eq hflat params r
  have hended := isLinearized_of_reaches ⟨rfl, rfl⟩ (Progress.ends_of_final hfinal).reached
  rw [heq]
  exact hended.error_eq.trans (by rw [hended.equation_eq])

/-- What the equation of Newton's method says about reactions and about runs. -/
structure EncodesLaw (problem : ContactProblem ℝ) : Prop where
  value_eq_zero_iff (r : Block ℝ 2) :
    (problem.linearize problem.newtonScaling r).value = Vec.zero 3 ↔ problem.error r = 0
  run_isComplementary (params : NewtonParams ℝ) (r : Block ℝ 2) :
    (problem.newton params r).value.1.error = 0 →
      problem.error (problem.newton params r).value.2 = 0 ∧
        IsComplementary problem.friction (problem.newton params r).value.2
          (problem.velocity (problem.newton params r).value.2)

/-- Where friction is not negative and no diagonal entry vanishes, the equation holds exactly at the
reactions without an error, and runs that report no error return such a reaction, which obeys the law
with its velocity. -/
theorem newton_encodes_law (problem : ContactProblem ℝ) (hmu : 0 ≤ problem.friction)
    (hdiagonal : ∀ i, Scalar.diagonalThreshold < problem.matrix.diagonal i) :
    problem.EncodesLaw where
  value_eq_zero_iff r :=
    (linearize_eq_zero_iff hmu hdiagonal).trans (error_eq_zero_iff hmu).symm
  run_isComplementary params r herror := by
    rw [error_newton (not_isFlat hdiagonal), Vec.norm_eq_zero_iff,
      linearize_eq_zero_iff hmu hdiagonal] at herror
    exact ⟨(error_eq_zero_iff hmu).mpr herror, obeysLaw_iff.mp herror⟩

end ContactProblem

/-! ### Unit matrices

On a unit matrix the projected step does not depend on the reaction, so the equation is linear and
Newton's method solves it in one step.
-/

namespace Elimination

theorem pivotRow_identity (n : Nat) :
    pivotRow (Mat.identity (n + 1) : Mat ℝ (n + 1) (n + 1)) = 0 := by
  set a : Mat ℝ (n + 1) (n + 1) := Mat.identity (n + 1) with ha
  have hkeep (i : Fin (n + 1)) : ¬Scalar.abs (a.entry 0 0) < Scalar.abs (a.entry i 0) := by
    rw [Scalar.abs_eq, Scalar.abs_eq, ha, Mat.entry_identity, Mat.entry_identity, if_pos rfl,
      abs_one, not_lt]
    split
    · rw [abs_one]
    · rw [abs_zero]
      exact zero_le_one
  rw [pivotRow, ← Vector.foldl_toList]
  exact List.foldl_fixed' (fun i => if_neg (hkeep i)) _

theorem swapFirst_zero {α : Type} {n : Nat} (x : Vector α (n + 1)) : swapFirst 0 x = x := by
  refine Vec.ext_get fun j => ?_
  rw [swapFirst, Vec.get_ofFn]
  split
  · next h => rw [h]
  · rfl

/-- Elimination solves the unit system, by the right-hand side. -/
theorem solve?_identity {n : Nat} (b : Vec ℝ n) : solve? (Mat.identity n) b = some b := by
  induction n with
  | zero => rfl
  | succ n ih =>
    set a : Mat ℝ (n + 1) (n + 1) := Mat.identity (n + 1) with ha
    have hcorner : a.entry 0 0 = 1 := by
      rw [ha, Mat.entry_identity, if_pos rfl]
    have hrow (j : Fin n) : (Vec.rest (a.get 0)).get j = 0 := by
      rw [Vec.get_rest]
      exact (Mat.entry_identity 0 j.succ).trans (if_neg (Fin.succ_ne_zero j).symm)
    have hmultiplier (i : Fin n) : (Vector.ofFn fun i : Fin n =>
        a.entry i.succ 0 * (1 / a.entry 0 0)).get i = 0 := by
      rw [Vec.get_ofFn, ha, Mat.entry_identity, if_neg (Fin.succ_ne_zero i), zero_mul]
    have hreduced : (Mat.ofFn fun i j => -(Vec.rest (a.get 0)).get j *
        (Vector.ofFn fun i : Fin n => a.entry i.succ 0 * (1 / a.entry 0 0)).get i +
          a.entry i.succ j.succ) = (Mat.identity n : Mat ℝ n n) := by
      refine congrArg Mat.ofFn (funext fun i => funext fun j => ?_)
      rw [hmultiplier, mul_zero, zero_add, ha, Mat.entry_identity]
      exact if_congr Fin.succ_inj rfl rfl
    have hright : (Vector.ofFn fun i => -b.get 0 *
        (Vector.ofFn fun i : Fin n => a.entry i.succ 0 * (1 / a.entry 0 0)).get i +
          b.get i.succ) = Vec.rest b := by
      refine Vec.ext_get fun i => ?_
      rw [Vec.get_ofFn, hmultiplier, mul_zero, zero_add, Vec.get_rest]
    have hfront : frontUnknown (a.entry 0 0) (Vec.rest (a.get 0)) (Vec.rest b) (b.get 0) =
        b.get 0 := by
      rw [frontUnknown_eq, Finset.sum_eq_zero fun j _ => by rw [hrow, zero_mul], sub_zero, hcorner,
        div_one]
    have hpivot : ¬Scalar.IsZero (a.entry 0 0) := by
      rw [hcorner, Scalar.isZero_iff]
      exact one_ne_zero
    rw [solve?_succ, pivotRow_identity, swapFirst_zero, swapFirst_zero]
    dsimp only
    rw [hreduced, hright, ih, if_neg hpivot, Option.map_some, hfront]
    refine congrArg some (Vec.ext_get fun i => ?_)
    cases i using Fin.cases with
    | zero => rw [Vec.get_cons_zero]
    | succ i => rw [Vec.get_cons_succ, Vec.get_rest]

end Elimination

/-- A search whose first trial passes takes full steps. -/
theorem Backtracking.search_eq_one {search : Backtracking ℝ} {merit : ℝ}
    {trialMerit : Nat → ℝ → ℝ} (h : search.Accepts merit 1 (trialMerit 0 1)) :
    (search.search merit trialMerit).2 = 1 := by
  rw [Backtracking.search]
  cases search.trials with
  | zero => rfl
  | succ left => rw [Backtracking.searchFrom, if_pos h]

namespace ContactProblem

/-- A contact with the unit matrix. -/
noncomputable def onUnit (offset : Block ℝ 2) (friction : ℝ) : ContactProblem ℝ where
  matrix := Mat.identity 3
  offset := offset
  friction := friction
  threshold? := none

section OnUnit

variable {offset : Block ℝ 2} {friction : ℝ} {params : NewtonParams ℝ}

theorem onUnit_diagonal (offset : Block ℝ 2) (friction : ℝ) (i : Fin 3) :
    (onUnit offset friction).matrix.diagonal i = 1 :=
  (Mat.entry_identity i i).trans (if_pos rfl)

theorem onUnit_usable (offset : Block ℝ 2) (friction : ℝ) (i : Fin 3) :
    Scalar.diagonalThreshold < (onUnit offset friction).matrix.diagonal i := by
  rw [onUnit_diagonal]
  norm_num [Scalar.diagonalThreshold]

theorem newtonScaling_onUnit (offset : Block ℝ 2) (friction : ℝ) :
    (onUnit offset friction).newtonScaling = Vector.replicate 3 1 := by
  have hnormal : (onUnit offset friction).newtonScaling.get 0 = 1 := by
    change 1 / (onUnit offset friction).matrix.diagonal 0 = 1
    rw [onUnit_diagonal, div_one]
  have htangential : (onUnit offset friction).newtonScaling.get 1 = 1 := by
    change 2.0 / ((onUnit offset friction).matrix.diagonal 1 +
      (onUnit offset friction).matrix.diagonal 2) = 1
    rw [onUnit_diagonal, onUnit_diagonal]
    norm_num
  refine Vec.ext_get fun i => ?_
  rw [Vec.get_replicate]
  match i with
  | 0 => exact hnormal
  | 1 => exact htangential
  | 2 => exact htangential

/-- The reaction that solves the equation on a unit matrix. -/
noncomputable def unitReaction (offset : Block ℝ 2) (friction : ℝ) : Block ℝ 2 :=
  (normalDiskProjection friction (Vec.neg offset)).1

theorem linearize_onUnit (offset : Block ℝ 2) (friction : ℝ) (r : Block ℝ 2) :
    (onUnit offset friction).linearize (Vector.replicate 3 1) r =
      ⟨Vec.sub r (unitReaction offset friction), Mat.identity 3⟩ := by
  have hstep : Vec.sub r (Vector.zipWith (fun a b => a * b) (Vector.replicate 3 1)
      ((onUnit offset friction).velocity r)) = Vec.neg offset := by
    refine Vec.ext_get fun i => ?_
    rw [Vec.get_sub, Vec.get_zipWith, Vec.get_replicate, one_mul, Vec.get_neg, velocity, onUnit,
      Mat.mulVec_identity, Vec.get_add]
    ring
  have hderivative (i j : Fin 3) : (Mat.sub (Mat.identity 3)
      (Mat.mul (Mat.ofDiagonal (Vector.replicate 3 1)) (Mat.identity 3)) : Mat ℝ 3 3).entry i j =
        0 := by
    simp only [Mat.entry_sub, Mat.entry_mul, Mat.entry_ofDiagonal, Vec.get_replicate,
      Mat.entry_identity, ite_mul, one_mul, zero_mul, Finset.sum_ite_eq, Finset.mem_univ, if_true,
      sub_self]
  have hjacobian (dp : Mat ℝ 3 3) : Mat.sub (Mat.identity 3) (Mat.mul dp (Mat.sub (Mat.identity 3)
      (Mat.mul (Mat.ofDiagonal (Vector.replicate 3 1)) (Mat.identity 3)))) = Mat.identity 3 := by
    refine Mat.ext_entry fun i j => ?_
    rw [Mat.entry_sub, Mat.entry_mul, Finset.sum_eq_zero fun l _ => by rw [hderivative, mul_zero],
      sub_zero]
  simp only [linearize, hstep]
  exact congrArg₂ Linearization.mk rfl (hjacobian _)

theorem value_onUnit_eq_zero_iff {r : Block ℝ 2} :
    ((onUnit offset friction).linearize (Vector.replicate 3 1) r).value = Vec.zero 3 ↔
      r = unitReaction offset friction := by
  rw [linearize_onUnit, Vec.sub_eq_zero_iff]

/-- The full step leads to the reaction that solves the equation. -/
theorem add_newtonDirection_onUnit (offset : Block ℝ 2) (friction : ℝ) (r : Block ℝ 2) :
    Vec.add r (Vec.scale 1 (newtonDirection
      ((onUnit offset friction).linearize (Vector.replicate 3 1) r)).value) =
        unitReaction offset friction := by
  have hdirection : (newtonDirection ((onUnit offset friction).linearize (Vector.replicate 3 1)
      r)).value = Vec.neg (Vec.sub r (unitReaction offset friction)) := by
    rw [linearize_onUnit, newtonDirection]
    simp only [Elimination.solve?_identity, Traced.value_pure]
  refine Vec.ext_get fun i => ?_
  rw [hdirection, Vec.get_add, Vec.get_scale, Vec.get_neg, Vec.get_sub]
  ring

/-- The full step is accepted, as nothing is left of the equation after it. -/
theorem newtonStep_onUnit (harmijo : params.lineSearch.armijo ≤ 1 / 2)
    {progress : Progress ℝ (NewtonState ℝ)}
    (h : (onUnit offset friction).IsLinearized (Vector.replicate 3 1) progress) :
    ∃ equation, ((onUnit offset friction).newtonStep params (Vector.replicate 3 1) progress).value =
      .ok (0, ⟨unitReaction offset friction, equation⟩) := by
  set r := progress.state.reaction with hr
  set target := unitReaction offset friction
  have hvalue := value_onUnit_eq_zero_iff.mpr (rfl : target = unitReaction offset friction)
  set direction := (newtonDirection progress.state.equation).value with hdirection
  have hfull : Vec.add r (Vec.scale 1 direction) = target := by
    rw [hdirection, h.equation_eq]
    exact add_newtonDirection_onUnit offset friction r
  have hlength : (onUnit offset friction).newtonLength params (Vector.replicate 3 1) progress.error r
      direction = 1 := by
    refine Backtracking.search_eq_one ?_
    have hmerit : (onUnit offset friction).merit (Vector.replicate 3 1) target = 0 := by
      rw [merit, hvalue, Vec.normSq_eq, Vec.coords_zero, norm_zero]
      ring
    have hshare : 0 ≤ 1 - 2.0 * params.lineSearch.armijo * 1 := by linarith
    have hsquare : 0 ≤ 0.5 * progress.error * progress.error := by
      rw [mul_assoc]
      exact mul_nonneg (by norm_num) (mul_self_nonneg _)
    rw [hfull, hmerit, Backtracking.Accepts]
    exact mul_nonneg hsquare hshare
  have hstep : ((onUnit offset friction).newtonStep params (Vector.replicate 3 1) progress).value =
      .ok (Vec.norm ((onUnit offset friction).linearize (Vector.replicate 3 1) target).value,
        ⟨target, (onUnit offset friction).linearize (Vector.replicate 3 1) target⟩) := by
    simp only [newtonStep, Traced.value_bind, Traced.value_pure, ← hdirection, ← hr, hlength, hfull]
  rw [hstep, Vec.norm_eq_zero_iff.mpr hvalue]
  exact ⟨_, rfl⟩

/-- A run with tolerance zero solves the equation from everywhere. -/
theorem newton_onUnit (hcap : 0 < params.iterationCap) (htolerance : params.tolerance = 0)
    (harmijo : params.lineSearch.armijo ≤ 1 / 2) (r : Block ℝ 2) :
    ((onUnit offset friction).newton params r).value.1.error = 0 ∧
      ((onUnit offset friction).newton params r).value.2 = unitReaction offset friction := by
  obtain ⟨ended, hfinal, heq⟩ :=
    exists_newton_eq (not_isFlat (onUnit_usable offset friction)) params r
  rw [newtonScaling_onUnit, htolerance] at hfinal
  rw [heq]
  set equation := (onUnit offset friction).linearize (Vector.replicate 3 1) r with hequation
  by_cases hdue : 0 < Vec.norm equation.value
  · obtain ⟨next, hstep⟩ := newtonStep_onUnit harmijo
      (⟨rfl, rfl⟩ : (onUnit offset friction).IsLinearized _ ⟨0, Vec.norm equation.value, r, equation⟩)
    have hnext := Progress.final_eq_next hcap hdue hstep (lt_irrefl 0)
    obtain rfl := Except.ok.inj (hnext.symm.trans hfinal)
    exact ⟨rfl, rfl⟩
  · obtain rfl := Except.ok.inj ((Progress.final_eq_start hdue).symm.trans hfinal)
    have hzero : Vec.norm equation.value = 0 :=
      le_antisymm (not_lt.mp hdue) (Real.sqrt_nonneg _)
    exact ⟨hzero, value_onUnit_eq_zero_iff.mp (Vec.norm_eq_zero_iff.mp hzero)⟩

end OnUnit

theorem unitReaction_sliding : unitReaction #v[-1, 0.5, 0] 0.3 = #v[1, -0.3, 0] := by
  have hneg : (Vec.neg #v[-1, 0.5, 0] : Block ℝ 2) = #v[1, -0.5, 0] := by
    refine Vec.ext_get fun i => ?_
    rw [Vec.get_neg]
    fin_cases i <;> norm_num [Vector.get]
  have hnorm : Block.tangentNorm (#v[1, -0.5, 0] : Block ℝ 2) = 0.5 := by
    rw [FrictionProblem.tangentNorm_of_straight]
    norm_num [abs_of_nonpos]
  have hnormal : Block.normal (#v[1, -0.5, 0] : Block ℝ 2) = 1 := rfl
  have hfirst : Block.first (#v[1, -0.5, 0] : Block ℝ 2) = -0.5 := rfl
  have hsecond : Block.second (#v[1, -0.5, 0] : Block ℝ 2) = 0 := rfl
  have hslides : ¬(0.5 : ℝ) ≤ 0.3 * 1 := by norm_num
  have hslip : (0.3 : ℝ) * 1 * (-0.5 / 0.5) = -0.3 := by norm_num
  have hrest : (0.3 : ℝ) * 1 * (0 / 0.5) = 0 := by norm_num
  rw [unitReaction, hneg, normalDiskProjection, hnormal, if_pos one_pos, hnorm]
  dsimp only
  rw [if_neg hslides, hfirst, hsecond, hslip, hrest]

/-- A run from zero finds the reaction of a sliding contact, and it obeys the law. -/
theorem onUnit_slides :
    (0 : ℝ) ≤ 0.3 ∧
    (∀ i, Scalar.diagonalThreshold < (onUnit #v[-1, 0.5, 0] 0.3).matrix.diagonal i) ∧
    ∃ report, ((onUnit #v[-1, 0.5, 0] 0.3).newton ⟨10, 0, ⟨1e-4, 0.5, 20⟩⟩ (Vec.zero 3)).value =
        (report, #v[1, -0.3, 0]) ∧
      report.error = 0 ∧
      (onUnit #v[-1, 0.5, 0] 0.3).error #v[1, -0.3, 0] = 0 ∧
      IsComplementary 0.3 #v[1, -0.3, 0] ((onUnit #v[-1, 0.5, 0] 0.3).velocity #v[1, -0.3, 0]) := by
  have hmu : (0 : ℝ) ≤ 0.3 := by norm_num
  have hdiagonal := onUnit_usable #v[-1, 0.5, 0] 0.3
  set params : NewtonParams ℝ := ⟨10, 0, ⟨1e-4, 0.5, 20⟩⟩ with hparams
  have harmijo : params.lineSearch.armijo ≤ 1 / 2 := by
    rw [hparams]
    norm_num
  have hcap : 0 < params.iterationCap := Nat.succ_pos 9
  obtain ⟨hzero, hreaction⟩ : ((onUnit #v[-1, 0.5, 0] 0.3).newton params (Vec.zero 3)).value.1.error =
      0 ∧ _ := newton_onUnit hcap rfl harmijo (Vec.zero 3)
  rw [unitReaction_sliding] at hreaction
  have hsolves := (newton_encodes_law (onUnit #v[-1, 0.5, 0] 0.3) hmu
    hdiagonal).run_isComplementary params (Vec.zero 3) hzero
  rw [hreaction] at hsolves
  exact ⟨hmu, hdiagonal, _, Prod.ext rfl hreaction, hzero, hsolves⟩

end ContactProblem

end Complementarity
