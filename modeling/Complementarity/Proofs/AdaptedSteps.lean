import Complementarity.Proofs.StalledIterations

/-!
What a search for a step size leaves behind.

A search ends with its first accepted trial, whose step is the one for what follows. When every
trial has been rejected it ends with the last one, and then the step for what follows is shorter
than the one that was tried (`searchStep_isFound`). The predictors of the extra-gradient method and
of the hyperplane projection method come from such a search (`adaptedPredictor_isAdapted`), and their
correctors go along with the step size it leaves behind, whether or not it belongs to the predictor.
-/

namespace Complementarity

variable {R : Type} [Scalar R]

/-! ### Searches -/

/-- A step that has been shortened a number of times. -/
def shortened (shrink step : R) (times : Nat) : R :=
  (· * shrink)^[times] step

/-- How a search ends: with the step of its first accepted trial, or with one more shortening after
its last trial. -/
inductive IsFound {A : Type} (trial : R → Trial R A) (bound shrink : R) (retries : Nat) (step : R) :
    R × Trial R A → Prop
  | accepted {times : Nat} (hle : times ≤ retries)
      (hrejected : ∀ k < times, ¬(trial (shortened shrink step k)).ratio ≤ bound)
      (haccepted : (trial (shortened shrink step times)).ratio ≤ bound) :
      IsFound trial bound shrink retries step
        (shortened shrink step times, trial (shortened shrink step times))
  | exhausted (hrejected : ∀ k ≤ retries, ¬(trial (shortened shrink step k)).ratio ≤ bound) :
      IsFound trial bound shrink retries step
        (shortened shrink step retries * shrink, trial (shortened shrink step retries))

section Search

variable {A : Type} {trial : R → Trial R A} {bound shrink : R}

/-- The first trial is accepted. -/
theorem IsFound.first (retries : Nat) {step : R} (haccepted : (trial step).ratio ≤ bound) :
    IsFound trial bound shrink retries step (step, trial step) :=
  have hfirst : IsFound trial bound shrink retries step
      (shortened shrink step 0, trial (shortened shrink step 0)) :=
    .accepted (Nat.zero_le _) nofun haccepted
  hfirst

/-- A rejected trial in front. -/
theorem IsFound.cons {retries : Nat} {step : R} {found : R × Trial R A}
    (hfirst : ¬(trial step).ratio ≤ bound)
    (h : IsFound trial bound shrink retries (step * shrink) found) :
    IsFound trial bound shrink (retries + 1) step found := by
  cases h with
  | accepted hle hrejected haccepted =>
    refine .accepted (Nat.succ_le_succ hle) (fun k hk => ?_) haccepted
    cases k with
    | zero => exact hfirst
    | succ k => exact hrejected k (Nat.lt_of_succ_lt_succ hk)
  | exhausted hrejected =>
    refine .exhausted fun k hk => ?_
    cases k with
    | zero => exact hfirst
    | succ k => exact hrejected k (Nat.le_of_succ_le_succ hk)

theorem searchStep_isFound (trial : R → Trial R A) (bound shrink : R) (retries : Nat) (step : R) :
    IsFound trial bound shrink retries step (searchStep trial bound shrink retries step) := by
  induction retries generalizing step with
  | zero =>
    rw [searchStep]
    by_cases haccepted : (trial step).ratio ≤ bound
    · rw [if_pos haccepted]
      exact .first 0 haccepted
    · rw [if_neg haccepted]
      refine .exhausted fun k hk => ?_
      obtain rfl := Nat.le_zero.mp hk
      exact haccepted
  | succ retries ih =>
    rw [searchStep]
    by_cases haccepted : (trial step).ratio ≤ bound
    · rw [if_pos haccepted]
      exact .first _ haccepted
    · rw [if_neg haccepted]
      exact (ih _).cons haccepted

end Search

namespace FrictionProblem

/-! ### Predictors -/

section Predictors

variable {problem : FrictionProblem R} {params : ProjectionParams R} {r : Vec R problem.size}

/-- The predictor and the ratio are those of the step size. -/
structure BelongTogether (problem : FrictionProblem R) (r : Vec R problem.size) (rho : R)
    (trial : Trial R (Predictor R problem.size)) : Prop where
  reaction_eq :
    trial.point.reaction = problem.projectedStep r rho (problem.correctedVelocity r)
  velocity_eq : trial.point.velocity = problem.correctedVelocity trial.point.reaction
  ratio_eq : trial.ratio =
    moveRatio rho (Scalar.sqrt (Vec.distSq (problem.correctedVelocity r) trial.point.velocity))
      (Scalar.sqrt (Vec.distSq r trial.point.reaction))

/-- What the search for a predictor leaves behind: the step size of an accepted predictor, or a
shortened step size and the last predictor, which has been rejected. -/
inductive IsAdapted (problem : FrictionProblem R) (params : ProjectionParams R)
    (r : Vec R problem.size) (step : R) : R → Trial R (Predictor R problem.size) → Prop
  | accepted {rho : R} {trial : Trial R (Predictor R problem.size)}
      (htried : ∃ times ≤ params.retries, rho = shortened params.shrink step times)
      (haccepted : trial.ratio ≤ params.coefficient)
      (hbelong : problem.BelongTogether r rho trial) : IsAdapted problem params r step rho trial
  | exhausted {tried : R} {trial : Trial R (Predictor R problem.size)}
      (htried : tried = shortened params.shrink step params.retries)
      (hrejected : ¬trial.ratio ≤ params.coefficient)
      (hbelong : problem.BelongTogether r tried trial) :
      IsAdapted problem params r step (tried * params.shrink) trial

/-- What the search for a predictor leaves behind at a reaction: a step size and the last trial. -/
def adaptedPredictor (problem : FrictionProblem R) (params : ProjectionParams R)
    (r : Vec R problem.size) (step : R) : R × Trial R (Predictor R problem.size) :=
  problem.predict params r (problem.correctedVelocity r) step

theorem belongTogether_predictorTrial (problem : FrictionProblem R) (r : Vec R problem.size)
    (rho : R) :
    problem.BelongTogether r rho
      (problem.predictorTrial r (problem.correctedVelocity r) rho) :=
  ⟨rfl, rfl, rfl⟩

theorem IsFound.isAdapted {step : R} {found : R × Trial R (Predictor R problem.size)}
    (h : IsFound (problem.predictorTrial r (problem.correctedVelocity r)) params.coefficient
      params.shrink params.retries step found) :
    problem.IsAdapted params r step found.1 found.2 := by
  cases h with
  | accepted hle _ haccepted =>
    exact .accepted ⟨_, hle, rfl⟩ haccepted (belongTogether_predictorTrial _ _ _)
  | exhausted hrejected =>
    exact .exhausted rfl (hrejected _ le_rfl) (belongTogether_predictorTrial _ _ _)

theorem adaptedPredictor_isAdapted (problem : FrictionProblem R) (params : ProjectionParams R)
    (r : Vec R problem.size) (step : R) :
    problem.IsAdapted params r step (problem.adaptedPredictor params r step).1
      (problem.adaptedPredictor params r step).2 :=
  IsFound.isAdapted (searchStep_isFound _ _ _ _ _)

/-! ### Correctors -/

/-- The corrected velocity that the extra-gradient method carries along is the one of its
reaction. -/
theorem extraGradient_corrected_eq {due : Residual R → Prop} {start : Candidate R problem.size}
    {progress : Progress (Residual R) (Stepping R problem.size)}
    (reached : Progress.Reaches due (problem.extraGradientStep params)
      ⟨0, .unmeasured, problem.firstStepping params start⟩ progress) :
    progress.state.corrected = problem.correctedVelocity progress.state.candidate.reaction :=
  reached.preserves
    (fun progress => progress.state.corrected =
      problem.correctedVelocity progress.state.candidate.reaction) rfl
    fun _ _ _ _ hok => by cases hok; rfl

/-- How a method goes on from a reaction: its corrector takes the step size and the predictor that
the search has left behind, and the next search starts from that step size, lengthened if the ratio
is small. -/
structure GoesOn (problem : FrictionProblem R) (params : ProjectionParams R)
    (corrector : R → Predictor R problem.size → Vec R problem.size) (r : Vec R problem.size)
    (step : R) (next : Vec R problem.size) (nextStep : R) : Prop where
  reaction_eq : next = corrector (problem.adaptedPredictor params r step).1
    (problem.adaptedPredictor params r step).2.point
  step_eq : nextStep = grow (problem.adaptedPredictor params r step).2.ratio params.shrink
    (problem.adaptedPredictor params r step).1

theorem extraGradientStep_goesOn {progress : Progress (Residual R) (Stepping R problem.size)}
    (hcurrent : progress.state.corrected =
      problem.correctedVelocity progress.state.candidate.reaction)
    {outcome : Residual R × Stepping R problem.size}
    (hok : (problem.extraGradientStep params progress).value = .ok outcome) :
    problem.GoesOn params
      (fun rho predictor =>
        problem.projectedStep progress.state.candidate.reaction rho predictor.velocity)
      progress.state.candidate.reaction progress.state.step outcome.2.candidate.reaction
      outcome.2.step := by
  cases hok
  constructor
  · rw [adaptedPredictor, ← hcurrent]
    rfl
  · rw [adaptedPredictor, ← hcurrent]
    rfl

theorem hyperplaneStep_goesOn {relaxation : R}
    {progress : Progress (Residual R) (HyperplaneState R problem.size)}
    {outcome : Residual R × HyperplaneState R problem.size}
    (hok : (problem.hyperplaneStep params relaxation progress).value = .ok outcome) :
    problem.GoesOn params
      (problem.hyperplaneUpdate relaxation progress.state.candidate.reaction
        (problem.correctedVelocity progress.state.candidate.reaction))
      progress.state.candidate.reaction progress.state.step outcome.2.candidate.reaction
      outcome.2.step := by
  cases hok
  exact ⟨rfl, rfl⟩

end Predictors

/-! ### Exact arithmetic -/

section Exact

variable {problem : FrictionProblem ℝ} {params : ProjectionParams ℝ} {r : Vec ℝ problem.size}
  {rho : ℝ} {trial : Trial ℝ (Predictor ℝ problem.size)}

/-- The ratio in terms of norms. -/
theorem BelongTogether.ratio_eq_norms (h : problem.BelongTogether r rho trial) :
    trial.ratio =
      rho * Vec.norm (Vec.sub (problem.correctedVelocity r)
          (problem.correctedVelocity trial.point.reaction)) /
        Vec.norm (Vec.sub r trial.point.reaction) := by
  have hroot {n : Nat} (x y : Vec ℝ n) :
      Scalar.sqrt (Vec.distSq x y) = Vec.norm (Vec.sub x y) := by
    rw [Scalar.sqrt_eq, Vec.distSq_eq, Real.sqrt_sq (norm_nonneg _), Vec.norm_eq, Vec.coords_sub]
  rw [h.ratio_eq, hroot, hroot, h.velocity_eq, moveRatio]
  by_cases hmoved : 0 < Vec.norm (Vec.sub r trial.point.reaction)
  · rw [if_pos hmoved]
  · have hzero : Vec.norm (Vec.sub r trial.point.reaction) = 0 :=
      le_antisymm (not_lt.mp hmoved) (Real.sqrt_nonneg _)
    rw [if_neg hmoved, hzero, div_zero]

theorem BelongTogether.ratio_eq_zero (h : problem.BelongTogether r rho trial)
    (hsame : trial.point.reaction = r) : trial.ratio = 0 := by
  rw [h.ratio_eq_norms, Vec.norm_eq_zero_iff.mpr (Vec.sub_eq_zero_iff.mpr hsame.symm), div_zero]

/-- A predictor that makes the corrected velocity move belongs to one step size only. -/
theorem BelongTogether.unique {tried : ℝ} (h : problem.BelongTogether r rho trial)
    (htried : problem.BelongTogether r tried trial) (hratio : trial.ratio ≠ 0) : rho = tried := by
  have heq := h.ratio_eq_norms.symm.trans htried.ratio_eq_norms
  rw [mul_div_assoc, mul_div_assoc] at heq
  refine mul_right_cancel₀ (fun hfactor => hratio ?_) heq
  rw [h.ratio_eq_norms, mul_div_assoc, hfactor, mul_zero]

theorem shortened_pos {shrink step : ℝ} (hshrink : 0 < shrink) (hstep : 0 < step) (times : Nat) :
    0 < shortened shrink step times := by
  induction times generalizing step with
  | zero => exact hstep
  | succ times ih => exact ih (mul_pos hstep hshrink)

/-- The step size that is left behind is the one of the predictor exactly if the predictor has been
accepted. -/
theorem IsAdapted.belongTogether_iff {step : ℝ} (h : problem.IsAdapted params r step rho trial)
    (hstep : 0 < step) (hpos : 0 < params.shrink) (hlt : params.shrink < 1)
    (hratio : trial.ratio ≠ 0) :
    problem.BelongTogether r rho trial ↔ trial.ratio ≤ params.coefficient := by
  cases h with
  | accepted _ haccepted hbelong => exact iff_of_true hbelong haccepted
  | exhausted htried hrejected hbelong =>
    refine iff_of_false (fun hshort => ?_) hrejected
    have htriedPos := htried.symm ▸ shortened_pos hpos hstep params.retries
    have hsame := hshort.unique hbelong hratio
    exact (mul_lt_of_lt_one_right htriedPos hlt).ne hsame

/-- What the ratio that is left behind says: how fast the corrected velocity changes, if it belongs
to the step size that is left behind, and by its size whether it does. -/
structure RatioTells (problem : FrictionProblem ℝ) (params : ProjectionParams ℝ)
    (r : Vec ℝ problem.size) (rho : ℝ) (trial : Trial ℝ (Predictor ℝ problem.size)) : Prop where
  eq_norms : problem.BelongTogether r rho trial →
    trial.ratio =
      rho * Vec.norm (Vec.sub (problem.correctedVelocity r)
          (problem.correctedVelocity trial.point.reaction)) /
        Vec.norm (Vec.sub r trial.point.reaction)
  eq_zero : trial.point.reaction = r → trial.ratio = 0
  belongTogether_iff : trial.ratio ≠ 0 →
    (problem.BelongTogether r rho trial ↔ trial.ratio ≤ params.coefficient)

theorem IsAdapted.ratioTells {step : ℝ} (h : problem.IsAdapted params r step rho trial)
    (hstep : 0 < step) (hpos : 0 < params.shrink) (hlt : params.shrink < 1) :
    problem.RatioTells params r rho trial where
  eq_norms := BelongTogether.ratio_eq_norms
  eq_zero hsame := by
    cases h with
    | accepted _ _ hbelong => exact hbelong.ratio_eq_zero hsame
    | exhausted _ _ hbelong => exact hbelong.ratio_eq_zero hsame
  belongTogether_iff := h.belongTogether_iff hstep hpos hlt

end Exact

/-- What a search leaves behind is adapted, and the extra-gradient method and the hyperplane
projection method go on with it wherever their runs come. -/
structure AdaptsSteps (problem : FrictionProblem R) (params : ProjectionParams R) : Prop where
  isAdapted (r : Vec R problem.size) (step : R) :
    problem.IsAdapted params r step (problem.adaptedPredictor params r step).1
      (problem.adaptedPredictor params r step).2
  extraGradient (due : Residual R → Prop) (start : Candidate R problem.size)
      (progress : Progress (Residual R) (Stepping R problem.size))
      (outcome : Residual R × Stepping R problem.size) :
    Progress.Reaches due (problem.extraGradientStep params)
      ⟨0, .unmeasured, problem.firstStepping params start⟩ progress →
    (problem.extraGradientStep params progress).value = .ok outcome →
    problem.GoesOn params
      (fun rho predictor =>
        problem.projectedStep progress.state.candidate.reaction rho predictor.velocity)
      progress.state.candidate.reaction progress.state.step outcome.2.candidate.reaction
      outcome.2.step
  hyperplane (relaxation : R) (progress : Progress (Residual R) (HyperplaneState R problem.size))
      (outcome : Residual R × HyperplaneState R problem.size) :
    (problem.hyperplaneStep params relaxation progress).value = .ok outcome →
    problem.GoesOn params
      (problem.hyperplaneUpdate relaxation progress.state.candidate.reaction
        (problem.correctedVelocity progress.state.candidate.reaction))
      progress.state.candidate.reaction progress.state.step outcome.2.candidate.reaction
      outcome.2.step

/-- The step size, the predictor and the ratio that a search leaves behind belong together if the
predictor has been accepted. Otherwise predictor and ratio belong to the last step size tried, which
has been shortened once more, so in exact arithmetic they belong to the one left behind only if the
ratio is zero. -/
theorem adapted_steps {R : Type} [Scalar R] (problem : FrictionProblem R)
    (params : ProjectionParams R) :
    problem.AdaptsSteps params ∧
    ∀ (real : FrictionProblem ℝ) (reals : ProjectionParams ℝ) (r : Vec ℝ real.size) (step : ℝ),
      0 < step → 0 < reals.shrink → reals.shrink < 1 →
      real.RatioTells reals r (real.adaptedPredictor reals r step).1
        (real.adaptedPredictor reals r step).2 where
  left :=
    { isAdapted := adaptedPredictor_isAdapted problem params
      extraGradient := fun _ _ _ _ reached hok =>
        extraGradientStep_goesOn (extraGradient_corrected_eq reached) hok
      hyperplane := fun _ _ _ hok => hyperplaneStep_goesOn hok }
  right real reals r step hstep hpos hlt :=
    (adaptedPredictor_isAdapted real reals r step).ratioTells hstep hpos hlt

/-! ### A search that gives up -/

/-- A contact on the unit matrix that is pushed together without slip. -/
noncomputable def pushedContact : FrictionProblem ℝ where
  contacts := 1
  tangents := 2
  matrix := Mat.identity 3
  offset := #v[-1, 0, 0]
  friction := #v[0.5]
  tangents_mem := spatial_tangents
  friction_nonneg c := by
    obtain rfl : c = 0 := Subsingleton.elim _ _
    change (0 : ℝ) ≤ 0.5
    norm_num

theorem pushedContact_velocity (normal : ℝ) :
    pushedContact.velocity #v[normal, 0, 0] = #v[normal - 1, 0, 0] := by
  change Mat.gemv 1 (Mat.identity 3) #v[normal, 0, 0] 1 #v[-1, 0, 0] = _
  refine Vec.ext_get fun i => ?_
  rw [Mat.get_gemv, ← Mat.get_mulVec, Mat.mulVec_identity]
  fin_cases i
  · change -1 + normal = normal - 1
    ring
  · exact add_zero 0
  · exact add_zero 0

theorem deSaxce_of_normal (mu normal : ℝ) :
    deSaxce mu (#v[normal, 0, 0] : Block ℝ 2) = #v[normal, 0, 0] := by
  rw [deSaxce, tangentNorm_of_straight, abs_zero, mul_zero, add_zero]
  rfl

theorem projectOnCone_of_normal {mu normal : ℝ} (hmu : 0 ≤ mu) (hpos : 0 < normal) :
    (projectOnCone mu (#v[normal, 0, 0] : Block ℝ 2)).2 = #v[normal, 0, 0] := by
  have hnormal : Block.normal (#v[normal, 0, 0] : Block ℝ 2) = normal := rfl
  have hpolar : ¬mu * 0 ≤ -normal := by linarith
  have hinside : 0 ≤ mu * normal := mul_nonneg hmu hpos.le
  rw [projectOnCone, tangentNorm_of_straight, abs_zero, hnormal]
  dsimp only
  rw [if_neg hpolar, if_pos hinside]

theorem pushedContact_corrected (normal : ℝ) :
    pushedContact.correctedVelocity #v[normal, 0, 0] = #v[normal - 1, 0, 0] := by
  refine Stack.ext_blocks fun c => (Stack.block_mapBlocks _ _ c).trans ?_
  rw [pushedContact_velocity]
  obtain rfl : c = (0 : Fin 1) := Subsingleton.elim (α := Fin 1) _ _
  exact deSaxce_of_normal _ _

theorem pushedContact_project {normal : ℝ} (hpos : 0 < normal) :
    pushedContact.project #v[normal, 0, 0] = #v[normal, 0, 0] := by
  have hmu : (0 : ℝ) ≤ 0.5 := by norm_num
  refine Stack.ext_blocks fun c => (Stack.block_mapBlocks _ _ c).trans ?_
  obtain rfl : c = (0 : Fin 1) := Subsingleton.elim (α := Fin 1) _ _
  exact projectOnCone_of_normal hmu hpos

theorem pushedContact_step {normal rho pull : ℝ} (hpos : 0 < normal - rho * pull) :
    pushedContact.projectedStep #v[normal, 0, 0] rho #v[pull, 0, 0] =
      #v[normal - rho * pull, 0, 0] := by
  have hstep : (Vec.axpy (-rho) #v[pull, 0, 0] #v[normal, 0, 0] : Vec ℝ 3) =
      #v[normal - rho * pull, 0, 0] := by
    refine Vec.ext_get fun i => ?_
    rw [Vec.get_axpy]
    have htangent : -rho * 0 + 0 = (0 : ℝ) := by ring
    fin_cases i
    · change -rho * pull + normal = normal - rho * pull
      ring
    · exact htangent
    · exact htangent
  exact (congrArg pushedContact.project hstep).trans (pushedContact_project hpos)

theorem sqrt_distSq_of_normal (a b : ℝ) :
    Scalar.sqrt (Vec.distSq (#v[a, 0, 0] : Vec ℝ 3) #v[b, 0, 0]) = |a - b| := by
  have hsum : Vec.distSq (#v[a, 0, 0] : Vec ℝ 3) #v[b, 0, 0] = (a - b) ^ 2 := by
    rw [Vec.distSq, Vec.sum_eq, Fin.sum_univ_three, Vec.get_zipWith, Vec.get_zipWith,
      Vec.get_zipWith]
    change (a - b) * (a - b) + (0 - 0) * (0 - 0) + (0 - 0) * (0 - 0) = _
    ring
  rw [hsum, Scalar.sqrt_eq, Real.sqrt_sq_eq_abs]

/-- From no reaction at all, a step has its own size as its ratio. -/
theorem pushedContact_trial {rho : ℝ} (hrho : 0 < rho) :
    pushedContact.predictorTrial #v[0, 0, 0] (pushedContact.correctedVelocity #v[0, 0, 0]) rho =
      ⟨rho, ⟨#v[rho, 0, 0], #v[rho - 1, 0, 0]⟩⟩ := by
  have hpull : pushedContact.correctedVelocity #v[0, 0, 0] = #v[-1, 0, 0] := by
    rw [pushedContact_corrected, zero_sub]
  have hreach : 0 - rho * -1 = rho := by ring
  have hreaction : pushedContact.projectedStep #v[0, 0, 0] rho #v[-1, 0, 0] = #v[rho, 0, 0] := by
    rw [pushedContact_step (hreach.symm ▸ hrho), hreach]
  have hratio : moveRatio rho (Scalar.sqrt (Vec.distSq (#v[-1, 0, 0] : Vec ℝ 3) #v[rho - 1, 0, 0]))
      (Scalar.sqrt (Vec.distSq (#v[0, 0, 0] : Vec ℝ 3) #v[rho, 0, 0])) = rho := by
    have hdistance : |0 - rho| = rho := by rw [zero_sub, abs_neg, abs_of_pos hrho]
    have hmoved : -1 - (rho - 1) = 0 - rho := by ring
    rw [sqrt_distSq_of_normal, sqrt_distSq_of_normal, hmoved, hdistance, moveRatio, if_pos hrho,
      mul_div_cancel_right₀ _ hrho.ne']
  rw [hpull]
  simp only [predictorTrial, hreaction, pushedContact_corrected]
  exact congrArg (Trial.mk · _) hratio

/-- The parameters of a search for a step size with a single trial. -/
noncomputable def singleTrial (coefficient : ℝ) : ProjectionParams ℝ :=
  { iterationCap := 1, tolerance := 0, step := 0.5, shrink := 0.5, coefficient, retries := 0
    verbosity := 0 }

theorem pushedContact_adapted (coefficient : ℝ) :
    pushedContact.adaptedPredictor (singleTrial coefficient) #v[0, 0, 0] 0.5 =
      (if 0.5 ≤ coefficient then 0.5 else 0.5 * 0.5,
        ⟨0.5, ⟨#v[0.5, 0, 0], #v[0.5 - 1, 0, 0]⟩⟩) := by
  have hpos : (0 : ℝ) < 0.5 := by norm_num
  have htrial := pushedContact_trial hpos
  simp only [adaptedPredictor, predict, singleTrial, searchStep, htrial]

/-- An accepted predictor. -/
theorem pushedContact_accepted :
    (0 : ℝ) < 0.5 ∧ (0.5 : ℝ) < 1 ∧
    ∃ trial, pushedContact.adaptedPredictor (singleTrial 0.9) #v[0, 0, 0] 0.5 = (0.5, trial) ∧
      pushedContact.BelongTogether #v[0, 0, 0] 0.5 trial ∧ trial.ratio = 0.5 := by
  have hpos : (0 : ℝ) < 0.5 := by norm_num
  have hlt : (0.5 : ℝ) < 1 := by norm_num
  have hle : (0.5 : ℝ) ≤ 0.9 := by norm_num
  have hadapted := pushedContact_adapted 0.9
  rw [if_pos hle] at hadapted
  have htells := (adapted_steps pushedContact (singleTrial 0.9)).2 pushedContact (singleTrial 0.9)
    #v[0, 0, 0] 0.5 hpos hpos hlt
  rw [hadapted] at htells
  exact ⟨hpos, hlt, _, hadapted, (htells.belongTogether_iff hpos.ne').mpr hle, rfl⟩

/-- A rejected predictor: it belongs to the step size `0.5`, and `0.25` is left behind. -/
theorem pushedContact_rejected :
    ∃ trial, pushedContact.predict (singleTrial 0.25) #v[0, 0, 0]
        (pushedContact.correctedVelocity #v[0, 0, 0]) 0.5 = (0.25, trial) ∧
      trial.point.reaction = #v[0.5, 0, 0] ∧
      pushedContact.projectedStep #v[0, 0, 0] 0.25 (pushedContact.correctedVelocity #v[0, 0, 0]) =
        #v[0.25, 0, 0] ∧
      ¬pushedContact.BelongTogether #v[0, 0, 0] 0.25 trial := by
  have hgt : ¬(0.5 : ℝ) ≤ 0.25 := by norm_num
  have hshort : (0.5 : ℝ) * 0.5 = 0.25 := by norm_num
  have hadapted := pushedContact_adapted 0.25
  rw [if_neg hgt, hshort] at hadapted
  have hstep : pushedContact.projectedStep #v[0, 0, 0] 0.25
      (pushedContact.correctedVelocity #v[0, 0, 0]) = #v[0.25, 0, 0] := by
    have hreach : (0 : ℝ) - 0.25 * (0 - 1) = 0.25 := by norm_num
    rw [pushedContact_corrected, pushedContact_step (by norm_num), hreach]
  refine ⟨_, hadapted, rfl, hstep, fun hbelong => ?_⟩
  have hsame : (#v[0.5, 0, 0] : Vec ℝ 3) = #v[0.25, 0, 0] := hbelong.reaction_eq.trans hstep
  have hnormal : (0.5 : ℝ) = 0.25 := congrArg (Vector.get · 0) hsame
  norm_num at hnormal

end FrictionProblem

end Complementarity
