import Complementarity.Proofs.FixedThresholds
import Complementarity.Proofs.RelayCriteria
import Complementarity.Proofs.StalledIterations

/-!
Problems that the zero reaction solves.

The short cut looks at normal components or at bounds only, but it agrees with the error functions: in
exact arithmetic these vanish at the zero reaction just if no contact is pressed, whatever the tangential
parts, or just if the velocity lies in the box. A method that starts at zero then stays there
(`Measures.runMethod_restsAt`, `exists_gaussSeidel_restsAt`), with any parameters for which its
iterations make sense, and the tolerance alone decides whether that counts as converged.
-/

namespace Complementarity

/-- The attempt at the zero reaction leaves no trace if it fails. -/
def FailsCleanly {R P : Type} [Problem R P] (problem : P) : Prop :=
  ∀ candidate : Candidate R (Problem.size problem),
    (Problem.trivialSolution problem candidate).1 = false →
      (Problem.trivialSolution problem candidate).2 = candidate

theorem FrictionProblem.failsCleanly {R : Type} [Scalar R] (problem : FrictionProblem R) :
    FailsCleanly problem := by
  intro candidate hfailed
  by_cases hopen : problem.IsOpen
  · simp only [Problem.trivialSolution, if_pos hopen] at hfailed
    cases hfailed
  · simp only [Problem.trivialSolution, if_neg hopen]

theorem RelayProblem.failsCleanly {R : Type} [Scalar R] (problem : RelayProblem R) :
    FailsCleanly problem := by
  intro candidate hfailed
  by_cases hinside : problem.IsInside
  · simp only [Problem.trivialSolution, if_pos hinside] at hfailed
    cases hfailed
  · simp only [Problem.trivialSolution, if_neg hinside]

/-- The run ends at the candidate, and an error of this size decides whether it has converged. -/
structure Run.RestsAt {n : Nat} (run : Run ℝ n) (candidate : Candidate ℝ n) (error tolerance : ℝ) :
    Prop where
  candidate_eq : run.toCandidate = candidate
  converged_iff : run.status = .converged ↔ error ≤ tolerance

namespace FrictionProblem

variable {problem : FrictionProblem ℝ} {r : Vec ℝ problem.size} {start : Candidate ℝ problem.size}

/-! ### The zero reaction -/

/-- No contact is pressed: without a reaction, none moves inwards. -/
def IsUnpressed (problem : FrictionProblem ℝ) : Prop :=
  ∀ c, 0 ≤ (problem.offset.block c).normal

theorem velocity_zero (problem : FrictionProblem ℝ) :
    problem.velocity (Vec.zero problem.size) = problem.offset := by
  refine Vec.ext_get fun i => ?_
  rw [velocity, Mat.get_gemv]
  simp only [Vec.get_zero, mul_zero, Finset.sum_const_zero, add_zero]

theorem block_zero {nc t : Nat} (c : Fin nc) :
    Stack.block (Vec.zero (nc * (t + 1)) : Stack ℝ nc t) c = Vec.zero (t + 1) :=
  Vec.ext_get fun i => by rw [Stack.block, Vec.get_slice, Vec.get_zero, Vec.get_zero]

theorem tangentNorm_zero (t : Nat) : Block.tangentNorm (Vec.zero (t + 1) : Block ℝ t) = 0 := by
  rw [Block.tangentNorm, Block.tangent_zero, ← Vec.norm_eq_sqrt, Vec.norm_eq_zero_iff]

/-- Without a reaction, the law asks only that the contact does not close. -/
theorem obeysLaw_zero_iff {t : Nat} {mu : ℝ} {u : Block ℝ t} :
    ObeysLaw mu (Vec.zero (t + 1)) u ↔ 0 ≤ u.normal := by
  constructor
  · intro h
    have hcorrected := h.corrected_ge
    linarith
  · intro hnormal
    refine ⟨?_, ?_, ?_, ?_⟩
    · rw [Block.normal_zero]
    · rw [tangentNorm_zero, Block.normal_zero, mul_zero]
    · linarith
    · rw [Block.normal_zero, Block.tangent_zero, Vec.dot_eq_sum]
      simp only [Vec.get_zero, zero_mul, Finset.sum_const_zero, add_zero]

theorem isSolution_zero_iff : problem.IsSolution (Vec.zero problem.size) ↔ problem.IsUnpressed := by
  simp only [IsSolution, velocity_zero, block_zero, obeysLaw_zero_iff]
  rfl

theorem error_zero_iff : problem.error (Vec.zero problem.size) = 0 ↔ problem.IsUnpressed :=
  error_eq_zero_iff.trans isSolution_zero_iff

theorem trivialSolution_of_isUnpressed (h : problem.IsUnpressed)
    (candidate : Candidate ℝ problem.size) :
    Problem.trivialSolution problem candidate = (true, ⟨Vec.zero problem.size, problem.offset⟩) := by
  have hopen : problem.IsOpen := fun c => (neg_nonpos.mpr Scalar.epsilon_pos.le).trans (h c)
  exact if_pos hopen

/-! ### Runs that rest -/

theorem relative_nonneg {x : ℝ} (hx : 0 ≤ x) : 0 ≤ problem.relative x := by
  rw [← problem.relative_mul_dataSize x] at hx
  exact nonneg_of_mul_nonneg_left hx problem.dataSize_pos

theorem errorWith_nonneg (thresholds? : Option (List ℝ)) (r : Vec ℝ problem.size) :
    0 ≤ problem.errorWith thresholds? r := by
  cases thresholds? <;> exact relative_nonneg (Real.sqrt_nonneg _)

/-- A method that measures and does not move its reaction. -/
theorem Measures.runMethod_restsAt {S : Type} {candidate : S → Candidate ℝ problem.size}
    {advance : Iteration ℝ (Residual ℝ) Empty S} {start : S} {cap : Nat} {tolerance : ℝ}
    (h : problem.Measures candidate advance) (hstart : (candidate start).reaction = r)
    (hkeeps : ∀ progress outcome, (candidate progress.state).reaction = r →
      (advance progress).value = .ok outcome → (candidate outcome.2).reaction = r)
    (hcap : 0 < cap) (method : Method) (verbosity : UInt8) :
    (problem.runMethod method cap tolerance verbosity candidate advance start).value.RestsAt
      ⟨r, problem.velocity r⟩ (problem.error r) tolerance := by
  obtain ⟨ended, hfinal, heq⟩ :=
    problem.exists_runMethod_eq method cap tolerance verbosity candidate advance start
  have hends := Progress.ends_of_final hfinal
  have hpos : 0 < ended.iterations :=
    hends.lt_iterations hcap (Residual.exceeds_unmeasured tolerance)
  obtain rfl : (candidate ended.state).reaction = r :=
    hends.reached.preserves (fun progress => (candidate progress.state).reaction = r) hstart
      fun progress outcome hr _ hok => hkeeps progress outcome hr hok
  have hmeasured := h.isMeasured hends.reached
  have hsettled : (candidate ended.state).velocity =
      problem.velocity (candidate ended.state).reaction := hmeasured.settled hpos
  rw [heq, settleVelocity, if_neg hpos.ne']
  constructor
  · rw [← hsettled]
    rfl
  · change ended.error.status tolerance = .converged ↔ _
    rw [Residual.status_eq_converged, hmeasured.error_eq hpos]
    rfl

theorem projectOnCone_zero {t : Nat} (mu : ℝ) :
    (projectOnCone mu (Vec.zero (t + 1) : Block ℝ t)).2 = Vec.zero (t + 1) := by
  have hpolar : mu * Block.tangentNorm (Vec.zero (t + 1) : Block ℝ t) ≤
      -Block.normal (Vec.zero (t + 1) : Block ℝ t) := by
    rw [tangentNorm_zero, Block.normal_zero, mul_zero, neg_zero]
  rw [projectOnCone, if_pos hpolar]

/-- A step of no size leads from zero to zero as well. -/
theorem projectedStep_zero (h : problem.IsUnpressed) {rho : ℝ} (hrho : 0 ≤ rho) :
    problem.projectedStep (Vec.zero problem.size) rho
      (problem.correctedVelocity (Vec.zero problem.size)) = Vec.zero problem.size := by
  rcases hrho.eq_or_lt with rfl | hpos
  · refine Stack.ext_blocks fun c => ?_
    rw [block_projectedStep, block_zero]
    convert projectOnCone_zero (problem.friction.get c) using 3
    refine Vec.ext_get fun i => ?_
    rw [Vec.get_axpy, Vec.get_zero]
    ring
  · exact (projectedStep_eq_self_iff hpos).mpr (isSolution_zero_iff.mpr h)

theorem deSaxceFixedPoint_restsAt (h : problem.IsUnpressed) {params : ProjectionParams ℝ}
    (hcap : 0 < params.iterationCap) (hstep : 0 ≤ params.step)
    (hstart : start.reaction = Vec.zero problem.size) :
    (problem.deSaxceFixedPoint params start).value.RestsAt
      ⟨Vec.zero problem.size, problem.offset⟩ 0 params.tolerance := by
  have hkeeps (progress : Progress (Residual ℝ) (Candidate ℝ problem.size))
      (outcome : Residual ℝ × Candidate ℝ problem.size)
      (hzero : progress.state.reaction = Vec.zero problem.size)
      (hok : (problem.deSaxceStep params progress).value = .ok outcome) :
      outcome.2.reaction = Vec.zero problem.size := by
    cases hok
    change problem.projectedStep progress.state.reaction params.step
      (problem.correctedVelocity progress.state.reaction) = Vec.zero problem.size
    rw [hzero]
    exact projectedStep_zero h hstep
  have hrests : (problem.deSaxceFixedPoint params start).value.RestsAt
      ⟨Vec.zero problem.size, problem.velocity (Vec.zero problem.size)⟩
      (problem.error (Vec.zero problem.size)) params.tolerance :=
    (problem.deSaxceStep_measures params).runMethod_restsAt hstart hkeeps hcap _ _
  rwa [velocity_zero, error_zero_iff.mpr h] at hrests

section Sweeps

variable {params : SweepParams ℝ} {solver : ContactSolver ℝ} {thresholds? : Option (List ℝ)}

/-- A sweep that changes nothing counts as converged just if the error of its reaction does: light
evaluation finds no change, and looks at the error unless even that is more than the tolerance. -/
theorem atMost_of_sweepStep (hsweepable : problem.IsSweepable thresholds?)
    {progress : Progress (Residual ℝ) (SweepState ℝ problem.size)}
    (hkeeps : problem.KeepsContacts progress.state.candidate.reaction solver thresholds?)
    {outcome : Residual ℝ × SweepState ℝ problem.size}
    (hok : (problem.sweepStep params solver thresholds? progress).value = .ok outcome) :
    outcome.1.AtMost params.tolerance ↔
      problem.errorWith thresholds? progress.state.candidate.reaction ≤ params.tolerance := by
  rw [value_sweepStep_of_keeps hsweepable progress hkeeps] at hok
  obtain rfl := Except.ok.inj hok
  simp only [sweepError, relativeChange_eq_zero, measureWith_eq]
  by_cases hlook : params.evaluation = .full ∨ 0 ≤ params.tolerance
  · rw [if_pos hlook]
    rfl
  · rw [if_neg hlook]
    have htolerance : ¬0 ≤ params.tolerance := fun hle => hlook (.inr hle)
    refine iff_of_false htolerance fun hle => htolerance ?_
    exact (errorWith_nonneg thresholds? _).trans hle

theorem exists_gaussSeidel_restsAt (hsweepable : problem.IsSweepable thresholds?)
    (hkeeps : problem.KeepsContacts start.reaction solver thresholds?)
    (hcap : 0 < params.iterationCap) :
    ∃ run, (problem.gaussSeidel params solver thresholds? start).value = .ok run ∧
      run.RestsAt ⟨start.reaction, problem.velocity start.reaction⟩
        (problem.errorWith thresholds? start.reaction) params.tolerance := by
  obtain ⟨run, hrun, hreaction, hstatus⟩ := exists_gaussSeidel_of_keeps hsweepable hkeeps params
  have hsettled : run.velocity = problem.velocity run.reaction := gaussSeidel_isSettled hrun
  rw [hreaction] at hsettled
  refine ⟨run, hrun, ?_, ?_⟩
  · rw [← hsettled, ← hreaction]
  · rcases gaussSeidel_cases hrun with ⟨_, -, hup⟩ | ⟨ended, hfinal, rfl⟩
    · exact absurd hup.status_eq hstatus
    · have hends := Progress.ends_of_final hfinal
      have hpos := hends.lt_iterations hcap (Residual.exceeds_unmeasured params.tolerance)
      refine Residual.status_eq_converged.trans ?_
      cases hends.reached with
      | start => exact absurd hpos (Nat.lt_irrefl _)
      | next reached _ hok =>
        have hstays := reaction_of_reaches_of_keeps hsweepable hkeeps reached
        rw [← hstays]
        exact atMost_of_sweepStep hsweepable (hstays ▸ hkeeps) hok

end Sweeps

theorem exists_coneProjection_restsAt (h : problem.IsUnpressed)
    {thresholds? : Option (List ℝ)} (hsweepable : problem.IsSweepable thresholds?)
    (hnormal : problem.HasDiagonal 0) {params : SweepParams ℝ} (hcap : 0 < params.iterationCap)
    (tolerance : ℝ) (hstart : start.reaction = Vec.zero problem.size) :
    ∃ run, (problem.gaussSeidel params (.coneProjection tolerance) thresholds? start).value =
        .ok run ∧
      run.RestsAt ⟨Vec.zero problem.size, problem.offset⟩
        (problem.errorWith thresholds? (Vec.zero problem.size)) params.tolerance := by
  have hsolution : problem.IsSolution start.reaction := hstart ▸ isSolution_zero_iff.mpr h
  have hkeeps := coneProjection_keepsContacts hsweepable.spatial hsolution hnormal tolerance
    thresholds?
  have hrests := exists_gaussSeidel_restsAt hsweepable hkeeps hcap
  rwa [hstart, velocity_zero] at hrests

/-- When the zero reaction solves a problem, what the short cut makes of that, and what the methods do
without it. -/
structure TriesZero (problem : FrictionProblem ℝ) : Prop where
  error_iff : problem.error (Vec.zero problem.size) = 0 ↔ problem.IsUnpressed
  written : problem.IsUnpressed → ∀ candidate : Candidate ℝ problem.size,
    Problem.trivialSolution problem candidate = (true, ⟨Vec.zero problem.size, problem.offset⟩)
  deSaxceFixedPoint : problem.IsUnpressed →
    ∀ (params : ProjectionParams ℝ) (start : Candidate ℝ problem.size), 0 < params.iterationCap →
      0 ≤ params.step → start.reaction = Vec.zero problem.size →
        (problem.deSaxceFixedPoint params start).value.RestsAt
          ⟨Vec.zero problem.size, problem.offset⟩ 0 params.tolerance
  gaussSeidel : problem.IsUnpressed → problem.tangents = 2 → problem.HasDiagonal 0 →
    ∀ (params : SweepParams ℝ) (tolerance : ℝ) (start : Candidate ℝ problem.size),
      0 < params.iterationCap → start.reaction = Vec.zero problem.size →
        ∃ run, (problem.gaussSeidel params (.coneProjection tolerance) none start).value =
            .ok run ∧
          run.RestsAt ⟨Vec.zero problem.size, problem.offset⟩ 0 params.tolerance
  gaussSeidel_thresholds : problem.IsUnpressed → problem.tangents = 2 → problem.HasDiagonal 0 →
    ∀ (params : SweepParams ℝ) (tolerance : ℝ) (thresholds : List ℝ)
      (start : Candidate ℝ problem.size), 0 < params.iterationCap →
      problem.contacts ≤ thresholds.length → start.reaction = Vec.zero problem.size →
        ∃ run, (problem.gaussSeidel params (.coneProjection tolerance) (some thresholds)
            start).value = .ok run ∧
          run.RestsAt ⟨Vec.zero problem.size, problem.offset⟩
            (problem.thresholdError thresholds (Vec.zero problem.size)) params.tolerance

theorem triesZero (problem : FrictionProblem ℝ) : problem.TriesZero where
  error_iff := error_zero_iff
  written := trivialSolution_of_isUnpressed
  deSaxceFixedPoint h _ _ := deSaxceFixedPoint_restsAt h
  gaussSeidel h hspatial hnormal _ tolerance _ hcap hstart := by
    have hrests := exists_coneProjection_restsAt h (isSweepable_none hspatial) hnormal hcap
      tolerance hstart
    have herror : problem.errorWith none (Vec.zero problem.size) = 0 := error_zero_iff.mpr h
    rwa [herror] at hrests
  gaussSeidel_thresholds h hspatial hnormal _ tolerance thresholds _ hcap henough hstart := by
    have hsweepable : problem.IsSweepable (some thresholds) :=
      ⟨hspatial, fun _ heq => Option.some.inj heq ▸ henough⟩
    exact exists_coneProjection_restsAt h hsweepable hnormal hcap tolerance hstart

end FrictionProblem

/-! ### Relay problems -/

namespace RelayProblem

variable {problem : RelayProblem ℝ}

/-- The velocity of the zero reaction lies in the box. -/
def IsSlack (problem : RelayProblem ℝ) : Prop :=
  ∀ i, -problem.lower.get i ≤ -problem.offset.get i ∧ -problem.offset.get i ≤ problem.upper.get i

theorem isRelayPair_zero_iff {upper lower w : ℝ} :
    IsRelayPair upper lower 0 w ↔ -lower ≤ w ∧ w ≤ upper :=
  ⟨fun h => ⟨h.lower_le, h.le_upper⟩, fun h => ⟨h.1, h.2, fun _ => le_rfl, fun _ => le_rfl⟩⟩

theorem errorOf_zero_iff :
    problem.errorOf (Vec.zero problem.size) (Vec.neg problem.offset) = 0 ↔ problem.IsSlack := by
  rw [errorOf_eq_zero_iff_gaps]
  simp only [gapAt_eq_zero_iff, Vec.get_zero, Vec.get_neg, isRelayPair_zero_iff]
  rfl

theorem trivialSolution_of_isSlack (h : problem.IsSlack) (candidate : Candidate ℝ problem.size) :
    Problem.trivialSolution problem candidate =
      (true, ⟨Vec.zero problem.size, Vec.neg problem.offset⟩) := by
  have hinside : problem.IsInside := fun i =>
    ⟨(sub_le_self _ Scalar.epsilon_pos.le).trans (h i).1,
      (h i).2.trans (le_add_of_nonneg_right Scalar.epsilon_pos.le)⟩
  exact if_pos hinside

/-- When the zero reaction solves a problem, and what the short cut makes of that. -/
structure TriesZero (problem : RelayProblem ℝ) : Prop where
  error_iff : problem.errorOf (Vec.zero problem.size) (Vec.neg problem.offset) = 0 ↔ problem.IsSlack
  written : problem.IsSlack → ∀ candidate : Candidate ℝ problem.size,
    Problem.trivialSolution problem candidate =
      (true, ⟨Vec.zero problem.size, Vec.neg problem.offset⟩)

theorem triesZero (problem : RelayProblem ℝ) : problem.TriesZero where
  error_iff := errorOf_zero_iff
  written := trivialSolution_of_isSlack

end RelayProblem

/-- The short cut finds the problems that the zero reaction solves, and touches nothing otherwise. -/
theorem zero_solves_exactly :
    (∀ (R : Type) [Scalar R], (∀ problem : FrictionProblem R, FailsCleanly problem) ∧
      ∀ problem : RelayProblem R, FailsCleanly problem) ∧
    (∀ problem : FrictionProblem ℝ, problem.TriesZero) ∧
      ∀ problem : RelayProblem ℝ, problem.TriesZero :=
  ⟨fun _ _ => ⟨FrictionProblem.failsCleanly, RelayProblem.failsCleanly⟩,
    FrictionProblem.triesZero, RelayProblem.triesZero⟩

namespace FrictionProblem

/-- One contact on the unit matrix that opens while it slips. -/
noncomputable def liftingContact : FrictionProblem ℝ where
  contacts := 1
  tangents := 2
  matrix := Mat.identity 3
  offset := #v[1, 1, 0]
  friction := #v[1]
  tangents_mem := spatial_tangents
  friction_nonneg c := by
    obtain rfl : c = 0 := Subsingleton.elim _ _
    exact zero_le_one (α := ℝ)

theorem liftingContact_block (c : Fin 1) :
    Stack.block liftingContact.offset c = (#v[1, 1, 0] : Block ℝ 2) := by
  obtain rfl : c = 0 := Subsingleton.elim _ _
  rfl

theorem liftingContact_isUnpressed : liftingContact.IsUnpressed := by
  intro c
  rw [liftingContact_block c]
  exact zero_le_one (α := ℝ)

theorem liftingContact_hasDiagonal : liftingContact.HasDiagonal 0 := by
  have honly : ∀ c : Fin 1, c = 0 := fun c => Subsingleton.elim c 0
  intro c fits
  obtain rfl := honly c
  have hone : (Mat.diagonalBlock liftingContact.matrix (0 * 3) fits).diagonal 0 = 1 := rfl
  have hlt : (Scalar.diagonalThreshold : ℝ) < 1 := by norm_num [Scalar.diagonalThreshold]
  exact hlt.trans_eq hone.symm

/-- One step of the given size from the zero reaction of the lifting contact. -/
noncomputable def oneStep (step tolerance : ℝ) : ProjectionParams ℝ :=
  { iterationCap := 1, tolerance, step, shrink := 0.5, coefficient := 0.9, retries := 0
    verbosity := 0 }

/-- One sweep from the zero reaction of the lifting contact. -/
def oneSweep (tolerance : ℝ) : SweepParams ℝ :=
  { iterationCap := 1, tolerance, relaxation := 1, evaluation := .full, verbosity := 0 }

/-- Without the short cut the lifting contact is solved in one iteration. -/
theorem liftingContact_solved :
    liftingContact.IsUnpressed ∧ liftingContact.tangents = 2 ∧ liftingContact.HasDiagonal 0 ∧
    liftingContact.error (Vec.zero 3) = 0 ∧
    (liftingContact.deSaxceFixedPoint (oneStep 1 0) (Candidate.zero 3)).value.status =
      .converged ∧
    ∃ run, (liftingContact.gaussSeidel (oneSweep 0) (.coneProjection 0) none
        (Candidate.zero 3)).value = .ok run ∧ run.status = .converged := by
  obtain ⟨-, htries, -⟩ := zero_solves_exactly
  have h := htries liftingContact
  have hsteps := h.deSaxceFixedPoint liftingContact_isUnpressed (oneStep 1 0) (Candidate.zero 3)
    one_pos zero_le_one rfl
  obtain ⟨run, hrun, hrests⟩ := h.gaussSeidel liftingContact_isUnpressed rfl
    liftingContact_hasDiagonal (oneSweep 0) 0 (Candidate.zero 3) one_pos rfl
  exact ⟨liftingContact_isUnpressed, rfl, liftingContact_hasDiagonal,
    h.error_iff.mpr liftingContact_isUnpressed, hsteps.converged_iff.mpr le_rfl, run, hrun,
    hrests.converged_iff.mpr le_rfl⟩

/-- A step of negative size leads away from zero where a contact opens. -/
theorem projectedStep_zero_ne {problem : FrictionProblem ℝ} {rho : ℝ} (hrho : rho < 0)
    {c : Fin problem.contacts} (hopens : 0 < (problem.offset.block c).normal) :
    problem.projectedStep (Vec.zero problem.size) rho
      (problem.correctedVelocity (Vec.zero problem.size)) ≠ Vec.zero problem.size := by
  intro heq
  have hblock := congrArg (fun x : Stack ℝ problem.contacts problem.tangents => x.block c) heq
  simp only [block_projectedStep, block_zero, velocity_zero] at hblock
  have hmu := problem.friction_nonneg c
  set mu := problem.friction.get c
  set u := problem.offset.block c
  set step := Vec.axpy (-rho) (deSaxce mu u) (Vec.zero (problem.tangents + 1)) with hstep
  have hcone : IsConeProjection mu step (Vec.zero (problem.tangents + 1)) :=
    (projectOnCone_eq_iff hmu).mp hblock
  have hspeed : 0 < u.normal + mu * u.tangentNorm := by
    rw [Block.tangentNorm_eq]
    exact add_pos_of_pos_of_nonneg hopens (mul_nonneg hmu (norm_nonneg _))
  have houtward : 0 < Block.normal step := by
    rw [hstep, (isStep_axpy mu rho (Vec.zero _) u).normal_eq, Block.normal_zero, zero_sub]
    exact neg_pos.mpr (mul_neg_of_neg_of_pos hrho hspeed)
  -- only what points inwards is projected onto the apex
  have hinward : Block.normal step ≤ 0 := by
    have hdual := hcone.dual
    rw [Block.normal_zero] at hdual
    linarith [mul_nonneg hmu (norm_nonneg ((Block.tangent (Vec.zero (problem.tangents + 1))).coords -
      (Block.tangent step).coords))]
  exact hinward.not_gt houtward

/-- A run that may make one such step makes it. -/
theorem deSaxceFixedPoint_leaves {problem : FrictionProblem ℝ} {params : ProjectionParams ℝ}
    {start : Candidate ℝ problem.size} (hcap : params.iterationCap = 1) (hstep : params.step < 0)
    (hstart : start.reaction = Vec.zero problem.size) {c : Fin problem.contacts}
    (hopens : 0 < (problem.offset.block c).normal) :
    (problem.deSaxceFixedPoint params start).value.reaction ≠ Vec.zero problem.size := by
  obtain ⟨ended, hfinal, heq⟩ := problem.exists_runMethod_eq .deSaxceFixedPoint
    params.iterationCap params.tolerance params.verbosity id (problem.deSaxceStep params) start
  rw [hcap, Progress.final, if_pos (Residual.exceeds_unmeasured params.tolerance)] at hfinal
  obtain rfl := Except.ok.inj hfinal
  rw [deSaxceFixedPoint, heq]
  change problem.projectedStep start.reaction params.step
    (problem.correctedVelocity start.reaction) ≠ Vec.zero problem.size
  rw [hstart]
  exact projectedStep_zero_ne hstep hopens

/-- Under a fixed positive threshold, a contact without a reaction may not slip. -/
theorem tangentNorm_of_thresholdError_zero (problem : FrictionProblem ℝ)
    {thresholds : Vec ℝ problem.contacts} (hthresholds : ∀ c, 0 < thresholds.get c)
    (herror : problem.thresholdError thresholds.toList (Vec.zero problem.size) = 0)
    (c : Fin problem.contacts) : (problem.offset.block c).tangentNorm = 0 := by
  have hlaw := (thresholdError_eq_zero_iff fun c => (hthresholds c).le).mp herror c
  rw [velocity_zero, block_zero] at hlaw
  have hdot := hlaw.tangent_dot
  rw [Block.tangent_zero, Vec.dot_eq_sum] at hdot
  simp only [Vec.get_zero, zero_mul, Finset.sum_const_zero, zero_eq_neg, mul_eq_zero] at hdot
  exact hdot.resolve_left (hthresholds c).ne'

theorem liftingContact_thresholdError_ne : liftingContact.thresholdError [1] (Vec.zero 3) ≠ 0 := by
  intro herror
  have hthresholds (c : Fin 1) : 0 < (#v[1] : Vec ℝ 1).get c := by
    obtain rfl : c = 0 := Subsingleton.elim _ _
    exact one_pos (α := ℝ)
  have hslip := tangentNorm_of_thresholdError_zero liftingContact hthresholds herror
    (0 : Fin 1)
  have hunit : Block.tangentNorm (#v[1, 1, 0] : Block ℝ 2) = 1 :=
    (tangentNorm_of_straight 1 1).trans abs_one
  rw [liftingContact_block 0] at hslip
  exact one_ne_zero (hunit.symm.trans hslip)

/-- A negative tolerance is never met, a negative step leads away from zero, and fixed thresholds ask
for more than the law. -/
theorem liftingContact_unsolved :
    liftingContact.IsUnpressed ∧ liftingContact.tangents = 2 ∧ liftingContact.HasDiagonal 0 ∧
    (liftingContact.deSaxceFixedPoint (oneStep 1 (-1)) (Candidate.zero 3)).value.status ≠
      .converged ∧
    (liftingContact.deSaxceFixedPoint (oneStep (-1) 0) (Candidate.zero 3)).value.reaction ≠
      Vec.zero 3 ∧
    (∃ run, (liftingContact.gaussSeidel (oneSweep (-1)) (.coneProjection 0) none
        (Candidate.zero 3)).value = .ok run ∧ run.status ≠ .converged) ∧
    ∃ run, (liftingContact.gaussSeidel (oneSweep 0) (.coneProjection 0) (some [1])
        (Candidate.zero 3)).value = .ok run ∧ run.status ≠ .converged := by
  have h := liftingContact.triesZero
  have hnegative : ¬(0 : ℝ) ≤ -1 := by norm_num
  refine ⟨liftingContact_isUnpressed, rfl, liftingContact_hasDiagonal, ?_, ?_, ?_, ?_⟩
  · have hrests := h.deSaxceFixedPoint liftingContact_isUnpressed (oneStep 1 (-1))
      (Candidate.zero 3) one_pos zero_le_one rfl
    exact hrests.converged_iff.not.mpr hnegative
  · have hopens : 0 < Block.normal (Stack.block liftingContact.offset (0 : Fin 1)) := by
      rw [liftingContact_block]
      exact one_pos (α := ℝ)
    exact deSaxceFixedPoint_leaves rfl neg_one_lt_zero rfl hopens
  · obtain ⟨run, hrun, hrests⟩ := h.gaussSeidel liftingContact_isUnpressed rfl
      liftingContact_hasDiagonal (oneSweep (-1)) 0 (Candidate.zero 3) one_pos rfl
    exact ⟨run, hrun, hrests.converged_iff.not.mpr hnegative⟩
  · obtain ⟨run, hrun, hrests⟩ := h.gaussSeidel_thresholds liftingContact_isUnpressed rfl
      liftingContact_hasDiagonal (oneSweep 0) 0 [1] (Candidate.zero 3) one_pos le_rfl rfl
    refine ⟨run, hrun, hrests.converged_iff.not.mpr fun hle => ?_⟩
    have hnonneg := liftingContact.errorWith_nonneg (some [1]) (Vec.zero 3)
    exact liftingContact_thresholdError_ne (le_antisymm hle hnonneg)

end FrictionProblem

end Complementarity
