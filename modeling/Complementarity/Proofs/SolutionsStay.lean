import Complementarity.Proofs.ContactSolutions
import Complementarity.Proofs.FrictionLaw
import Complementarity.Proofs.SweepDomain

/-!
Runs that start at a solution, in exact arithmetic.

Every method makes one iteration, which leads back to the solution and measures an error of zero, so
that the run ends converged. Projection steps and predictors do so because the solutions are their
fixed points; sweeps do so contact by contact, since with the other reactions held fixed each
reaction solves the problem of its own contact.
-/

namespace Complementarity

/-- The run ends after one iteration at the reaction `r`, converged and without an error. -/
structure Run.StaysAt {n : Nat} (run : Run ℝ n) (r : Vec ℝ n) : Prop where
  reaction_eq : run.reaction = r
  status_eq : run.status = .converged
  iterations_eq : run.iterations = 1
  residual_eq : run.residual = 0

theorem Residual.exceeds_unmeasured (tolerance : ℝ) : Exceeds tolerance (unmeasured : Residual ℝ) :=
  .inl rfl

theorem Residual.not_exceeds_zero {tolerance : ℝ} (h : 0 ≤ tolerance) :
    ¬(measured 0).Exceeds tolerance :=
  not_lt.mpr h

theorem staysAt_ending {n : Nat} {candidate : Candidate ℝ n} {r : Vec ℝ n} {tolerance : ℝ}
    (hreaction : candidate.reaction = r) (htolerance : 0 ≤ tolerance) :
    (candidate.ending ((Residual.measured 0).outcome tolerance 1)).StaysAt r := by
  have hreported : (Residual.measured (0 : ℝ)).reported = 0 := by
    rw [Residual.reported, ite_self]
  exact ⟨hreaction, Residual.status_eq_converged (e := .measured 0) |>.mpr htolerance, rfl,
    hreported⟩

/-- The parameters let a method that takes steps begin. -/
structure ProjectionParams.IsProper (params : ProjectionParams ℝ) : Prop where
  cap_pos : 0 < params.iterationCap
  tolerance_nonneg : 0 ≤ params.tolerance
  step_pos : 0 < params.step

/-- The parameters let a method that sweeps begin. -/
structure SweepParams.IsProper (params : SweepParams ℝ) : Prop where
  cap_pos : 0 < params.iterationCap
  tolerance_nonneg : 0 ≤ params.tolerance

/-- The parameters let the outer iterations begin. -/
structure TrescaParams.IsProper (params : TrescaParams ℝ) : Prop where
  cap_pos : 0 < params.iterationCap
  tolerance_nonneg : 0 ≤ params.tolerance

namespace FrictionProblem

variable {problem : FrictionProblem ℝ} {r : Vec ℝ problem.size}
  {start : Candidate ℝ problem.size}

/-! ### Steps on all contacts at once -/

/-- A run whose first iteration leads back to a solution makes no other. -/
theorem Measures.runMethod_staysAt {S : Type} {candidate : S → Candidate ℝ problem.size}
    {advance : Iteration ℝ (Residual ℝ) Empty S} {start : S} {cap : Nat} {tolerance : ℝ}
    (h : problem.Measures candidate advance) (hr : problem.IsSolution r)
    (hstay : ∀ outcome, (advance ⟨0, .unmeasured, start⟩).value = .ok outcome →
      (candidate outcome.2).reaction = r)
    (hcap : 0 < cap) (htolerance : 0 ≤ tolerance) (method : Method) (verbosity : UInt8) :
    (problem.runMethod method cap tolerance verbosity candidate advance start).value.StaysAt r := by
  cases hok : (advance ⟨0, .unmeasured, start⟩).value with
  | error halt => exact halt.elim
  | ok outcome =>
    have hreaction := hstay outcome hok
    have herror : outcome.1 = .measured 0 := by
      rw [(h _ _ hok).1, hreaction, error_eq_zero_iff.mpr hr]
    have hnot : ¬outcome.1.Exceeds tolerance := by
      rw [herror]
      exact Residual.not_exceeds_zero htolerance
    have hnext := Progress.final_eq_next hcap (Residual.exceeds_unmeasured tolerance) hok hnot
    obtain ⟨ended, hfinal, heq⟩ := problem.exists_runMethod_eq method cap tolerance verbosity
      candidate advance start
    obtain rfl := Except.ok.inj (hnext.symm.trans hfinal)
    rw [heq]
    simp only [Progress.next, herror]
    refine staysAt_ending ?_ htolerance
    rw [reaction_settleVelocity, hreaction]

variable {params : ProjectionParams ℝ}

theorem deSaxceFixedPoint_staysAt (hr : problem.IsSolution start.reaction)
    (hproper : params.IsProper) :
    (problem.deSaxceFixedPoint params start).value.StaysAt start.reaction := by
  refine (problem.deSaxceStep_measures params).runMethod_staysAt hr (fun outcome hok => ?_)
    hproper.cap_pos hproper.tolerance_nonneg _ _
  cases hok
  exact (projectedStep_eq_self_iff hproper.step_pos).mpr hr

/-- From a solution, a predictor of any size leads back to it. -/
theorem predictorTrial_of_solution (hr : problem.IsSolution r) {step : ℝ} (hstep : 0 < step) :
    (problem.predictorTrial r (problem.correctedVelocity r) step).point =
      ⟨r, problem.correctedVelocity r⟩ := by
  simp only [predictorTrial, (projectedStep_eq_self_iff hstep).mpr hr]

/-- Shortening a positive step keeps it positive, so a predictor comes from such a step. -/
theorem predict_spec (hshrink : 0 < params.shrink) (r f : Vec ℝ problem.size) {step : ℝ}
    (hstep : 0 < step) :
    0 < (problem.predict params r f step).1 ∧ ∃ tried > 0,
      (problem.predict params r f step).2 = problem.predictorTrial r f tried :=
  searchStep_spec (problem.predictorTrial r f) params.coefficient params.shrink (P := (0 < ·))
    (fun _ hpos => mul_pos hpos hshrink) params.retries step hstep

theorem predict_of_solution (hr : problem.IsSolution r) (hshrink : 0 < params.shrink) {step : ℝ}
    (hstep : 0 < step) :
    0 < (problem.predict params r (problem.correctedVelocity r) step).1 ∧
      (problem.predict params r (problem.correctedVelocity r) step).2.point =
        ⟨r, problem.correctedVelocity r⟩ := by
  obtain ⟨hnext, tried, htried, htrial⟩ :=
    predict_spec hshrink r (problem.correctedVelocity r) hstep
  refine ⟨hnext, ?_⟩
  rw [htrial]
  exact predictorTrial_of_solution hr htried

theorem fixedPointProjection_staysAt (hr : problem.IsSolution start.reaction)
    (hproper : params.IsProper) (hshrink : 0 < params.shrink) :
    (problem.fixedPointProjection params start).value.StaysAt start.reaction := by
  refine (problem.projectionStep_measures params).runMethod_staysAt hr (fun outcome hok => ?_)
    hproper.cap_pos hproper.tolerance_nonneg _ _
  cases hok
  obtain ⟨-, hpoint⟩ := predict_of_solution hr hshrink hproper.step_pos
  exact congrArg Predictor.reaction hpoint

theorem extraGradient_staysAt (hr : problem.IsSolution start.reaction)
    (hproper : params.IsProper) (hshrink : 0 < params.shrink) :
    (problem.extraGradient params start).value.StaysAt start.reaction := by
  refine (problem.extraGradientStep_measures params).runMethod_staysAt hr (fun outcome hok => ?_)
    hproper.cap_pos hproper.tolerance_nonneg _ _
  cases hok
  obtain ⟨hstep, hpoint⟩ := predict_of_solution hr hshrink hproper.step_pos
  -- the corrector steps along the velocity of the predictor, which has not moved
  change problem.projectedStep start.reaction
    (problem.predict params start.reaction (problem.correctedVelocity start.reaction) params.step).1
    (problem.predict params start.reaction (problem.correctedVelocity start.reaction)
      params.step).2.point.velocity = start.reaction
  rw [hpoint]
  exact (projectedStep_eq_self_iff hstep).mpr hr

/-- Without a difference between reaction and predictor there is no hyperplane to step to. -/
theorem hyperplaneUpdate_self (relaxation rho : ℝ) (f velocity : Vec ℝ problem.size) :
    problem.hyperplaneUpdate relaxation r f rho ⟨r, velocity⟩ = r := by
  have hzero : Vec.norm (Vec.sub r r) = 0 := by
    rw [Vec.norm_eq, Vec.coords_sub, sub_self, norm_zero]
  rw [hyperplaneUpdate]
  exact if_pos (.inl ((Scalar.isZero_iff _).mpr hzero))

theorem hyperplaneProjection_staysAt (relaxation : ℝ) (hr : problem.IsSolution start.reaction)
    (hproper : params.IsProper) (hshrink : 0 < params.shrink) :
    (problem.hyperplaneProjection params relaxation start).value.StaysAt start.reaction := by
  refine (problem.hyperplaneStep_measures params relaxation).runMethod_staysAt hr
    (fun outcome hok => ?_) hproper.cap_pos hproper.tolerance_nonneg _ _
  cases hok
  obtain ⟨-, hpoint⟩ := predict_of_solution hr hshrink hproper.step_pos
  change problem.hyperplaneUpdate relaxation start.reaction _ _ (problem.predict params
    start.reaction (problem.correctedVelocity start.reaction) params.step).2.point = start.reaction
  rw [hpoint]
  exact hyperplaneUpdate_self _ _ _ _

/-! ### The blocks of a contact -/

/-- In every way to read off the blocks, a solution obeys the law at each of them. -/
theorem isSolution_iff_slices {t : Nat} (htangents : problem.tangents = t) :
    problem.IsSolution r ↔
      ∀ (c : Fin problem.contacts) (fits : c.val * (t + 1) + (t + 1) ≤ problem.size),
        ObeysLaw (problem.friction.get c) (Vec.slice r (c.val * (t + 1)) fits : Block ℝ t)
          (Vec.slice (problem.velocity r) (c.val * (t + 1)) fits) := by
  subst htangents
  exact ⟨fun hlaw c _ => hlaw c, fun hlaw c => hlaw c (Stack.block_fits c)⟩

/-- The rows of a contact, multiplied on their own, give its part of the velocity. -/
theorem slice_velocity {k offset : Nat} (fits : offset + k ≤ problem.size)
    (r : Vec ℝ problem.size) :
    Vec.add (Vec.slice problem.offset offset fits)
        (Mat.mulVec (Mat.rows problem.matrix offset fits) r) =
      Vec.slice (problem.velocity r) offset fits := by
  refine Vec.ext_get fun i => ?_
  rw [Vec.get_add, Vec.get_slice, Vec.get_slice, velocity, Mat.get_gemv, Mat.get_mulVec]
  congr 1
  exact Finset.sum_congr rfl fun j _ => by rw [Mat.entry_rows]

/-! ### Sweeps in the plane -/

theorem abs_slip_eq (u : Block ℝ 1) : Scalar.abs u.slip = u.tangentNorm := by
  have hslip : u.slip = u.tangent.get 0 := (Vec.get_rest u 0).symm
  rw [Block.tangentNorm_eq, EuclideanSpace.norm_eq, Fin.sum_univ_one, Vec.coords_apply,
    Real.norm_eq_abs, sq_abs, Real.sqrt_sq_eq_abs, hslip, Scalar.abs_eq]

theorem planarVelocity_eq (c : Fin problem.contacts) (r : Vec ℝ problem.size) :
    problem.planarVelocity c r = deSaxce (problem.friction.get c)
      (Vec.slice (problem.velocity r) (c.val * 2) (problem.planar_fits c)) := by
  rw [planarVelocity, slice_velocity, abs_slip_eq, deSaxce]

/-- The reactions to which the projection of a planar contact leads back. -/
theorem planarProjection_eq_iff {c : Fin problem.contacts}
    (hdiagonal : Scalar.diagonalThreshold < problem.planarDiagonal c) :
    (projectOnCone (problem.friction.get c)
      (Vector.zipWith (fun a b => a - 1 / problem.planarDiagonal c * b)
        (Vec.slice r (c.val * 2) (problem.planar_fits c) : Block ℝ 1)
        (problem.planarVelocity c r))).2 =
        Vec.slice r (c.val * 2) (problem.planar_fits c) ↔
      ObeysLaw (problem.friction.get c)
        (Vec.slice r (c.val * 2) (problem.planar_fits c) : Block ℝ 1)
        (Vec.slice (problem.velocity r) (c.val * 2) (problem.planar_fits c)) := by
  have hpos : 0 < 1 / problem.planarDiagonal c :=
    one_div_pos.mpr (Scalar.diagonalThreshold_pos.trans hdiagonal)
  refine projectOnCone_step_eq_iff (problem.friction_nonneg c) hpos fun i => ?_
  rw [Vec.get_zipWith, planarVelocity_eq]

theorem planarUpdate_of_solution (hplanar : problem.tangents = 1) (hr : problem.IsSolution r)
    {c : Fin problem.contacts} (hdiagonal : Scalar.diagonalThreshold < problem.planarDiagonal c)
    (relaxation : ℝ) :
    problem.planarUpdate relaxation c r = Vec.slice r (c.val * 2) (problem.planar_fits c) := by
  have hlaw := (isSolution_iff_slices hplanar).mp hr c (problem.planar_fits c)
  rw [planarUpdate, (planarProjection_eq_iff hdiagonal).mpr hlaw, Vec.relax_self]

theorem planarSweep_of_solution (hplanar : problem.tangents = 1) (hr : problem.IsSolution r)
    (hdiagonal : ∀ c, Scalar.diagonalThreshold < problem.planarDiagonal c) (relaxation : ℝ) :
    problem.planarSweep relaxation r = r := by
  refine List.foldl_fixed' (fun c => ?_) _
  rw [planarUpdate_of_solution hplanar hr (hdiagonal c), Vec.splice_slice]

theorem planarGaussSeidel_staysAt {params : SweepParams ℝ} (hplanar : problem.tangents = 1)
    (hr : problem.IsSolution start.reaction)
    (hdiagonal : ∀ c, Scalar.diagonalThreshold < problem.planarDiagonal c)
    (hproper : params.IsProper) :
    (problem.planarGaussSeidel params start).value.StaysAt start.reaction := by
  have hflat : problem.flatContact? = none := by
    refine List.find?_eq_none.mpr fun c _ => ?_
    simpa using hdiagonal c
  rw [planarGaussSeidel, hflat]
  refine (problem.planarStep_measures params).runMethod_staysAt hr (fun outcome hok => ?_)
    hproper.cap_pos hproper.tolerance_nonneg _ _
  cases hok
  exact planarSweep_of_solution hplanar hr hdiagonal params.relaxation

/-! ### Sweeps in space -/

variable {c : Fin problem.contacts} {threshold? : Option ℝ}

/-- With all other reactions held fixed, a contact moves as it does in the whole problem. -/
theorem velocity_contactProblem (fits : problem.Fits c) (r : Vec ℝ problem.size)
    (threshold? : Option ℝ) :
    (problem.contactProblem c fits r threshold?).velocity (problem.ownReaction c fits r) =
      Vec.slice (problem.velocity r) (c.val * 3) fits := by
  refine Vec.ext_get fun i => ?_
  rw [ContactProblem.velocity, contactProblem, Vec.get_add, Vec.get_sub, slice_velocity,
    add_sub_cancel]

/-- The solutions solve the problem of every contact. -/
theorem isSolution_iff_contacts (hspatial : problem.tangents = 2) (threshold? : Option ℝ) :
    problem.IsSolution r ↔ ∀ (c : Fin problem.contacts) (fits : problem.Fits c),
      ObeysLaw (problem.friction.get c) (problem.ownReaction c fits r)
        ((problem.contactProblem c fits r threshold?).velocity (problem.ownReaction c fits r)) := by
  simp only [velocity_contactProblem]
  exact isSolution_iff_slices hspatial

variable {solver : ContactSolver ℝ} {thresholds? : Option (List ℝ)} {relaxation : ℝ}

variable (problem solver thresholds? r) in
/-- The solver changes no contact of the reaction. -/
def KeepsContacts : Prop :=
  ∀ (c : Fin problem.contacts) (fits : problem.Fits c) (threshold? : Option ℝ),
    thresholdAt thresholds? c = .ok threshold? →
      solver.Keeps (problem.contactProblem c fits r threshold?) (problem.ownReaction c fits r)

theorem relaxContact_self (fits : problem.Fits c) (swept : Swept ℝ problem.size) :
    problem.relaxContact relaxation c swept (problem.ownReaction c fits swept.reaction)
      (problem.ownReaction c fits swept.reaction) = swept := by
  have hsq : Vec.normSq (Vec.sub (problem.ownReaction c fits swept.reaction)
      (problem.ownReaction c fits swept.reaction)) = 0 := by
    rw [Vec.normSq_eq, Vec.coords_sub, sub_self, norm_zero, sq, mul_zero]
  simp only [relaxContact, Vec.relax_self, hsq, add_zero]
  rw [ownReaction, Vec.splice_slice]

theorem value_sweepContacts_of_keeps (hsweepable : problem.IsSweepable thresholds?)
    (swept : Swept ℝ problem.size)
    (hkeeps : problem.KeepsContacts swept.reaction solver thresholds?)
    (contacts : List (Fin problem.contacts)) :
    (problem.sweepContacts relaxation solver thresholds? contacts swept).value = .ok swept := by
  induction contacts with
  | nil => rfl
  | cons c rest ih =>
    obtain ⟨threshold?, hthreshold⟩ := hsweepable.exists_thresholdAt c
    have fits := problem.fits_of_spatial hsweepable.spatial c
    obtain ⟨hstatus, hreaction⟩ := hkeeps c fits threshold? hthreshold
    rw [value_sweepContacts_cons, value_updateContact hthreshold fits, value_settleContact,
      if_neg hstatus, hreaction, relaxContact_self]
    exact ih

theorem relativeChange_eq_zero (r : Vec ℝ problem.size) : relativeChange ⟨r, 0⟩ = 0 := by
  simp only [relativeChange, Scalar.sqrt_eq, Real.sqrt_zero, zero_div, ite_self]

variable {params : SweepParams ℝ}

/-- A sweep that changes nothing is measured at once. -/
theorem value_sweepStep_of_keeps (hsweepable : problem.IsSweepable thresholds?)
    (progress : Progress (Residual ℝ) (SweepState ℝ problem.size))
    (hkeeps : problem.KeepsContacts progress.state.candidate.reaction solver thresholds?) :
    (problem.sweepStep params solver thresholds? progress).value =
      let measured := problem.sweepError params thresholds? progress.state.candidate.velocity
        ⟨progress.state.candidate.reaction, 0⟩
      .ok (.measured measured.1, measured.2) := by
  rw [value_sweepStep,
    value_sweepContacts_of_keeps hsweepable ⟨progress.state.candidate.reaction, 0⟩ hkeeps]

/-- Sweeps do not move a reaction that the solver keeps. -/
theorem reaction_of_reaches_of_keeps {due : Residual ℝ → Prop}
    {progress : Progress (Residual ℝ) (SweepState ℝ problem.size)}
    (hsweepable : problem.IsSweepable thresholds?)
    (hkeeps : problem.KeepsContacts start.reaction solver thresholds?)
    (reached : Progress.Reaches due (problem.sweepStep params solver thresholds?)
      (sweepStart start) progress) :
    progress.state.candidate.reaction = start.reaction := by
  refine reached.preserves (fun progress => progress.state.candidate.reaction = start.reaction)
    rfl fun progress outcome hreaction _ hok => ?_
  rw [value_sweepStep_of_keeps hsweepable progress (hreaction ▸ hkeeps)] at hok
  obtain rfl := Except.ok.inj hok
  rw [← hreaction]
  simp only [Progress.next, reaction_sweepError]

/-- However many sweeps a run makes, it returns a reaction that the solver keeps. -/
theorem exists_gaussSeidel_of_keeps (hsweepable : problem.IsSweepable thresholds?)
    (hkeeps : problem.KeepsContacts start.reaction solver thresholds?) (params : SweepParams ℝ) :
    ∃ run, (problem.gaussSeidel params solver thresholds? start).value = .ok run ∧
      run.reaction = start.reaction ∧ run.status ≠ .degenerateInput := by
  rw [value_gaussSeidel]
  cases hfinal : Progress.final (Residual.Exceeds params.tolerance)
      (problem.sweepStep params solver thresholds?) params.iterationCap (sweepStart start) with
  | error halt =>
    obtain ⟨progress, hreaches, -, -, hhalt⟩ := Progress.gives_up_of_final hfinal
    have hreaction := reaction_of_reaches_of_keeps hsweepable hkeeps hreaches
    rw [value_sweepStep_of_keeps hsweepable progress (hreaction ▸ hkeeps)] at hhalt
    cases hhalt
  | ok ended =>
    exact ⟨_, rfl, reaction_of_reaches_of_keeps hsweepable hkeeps
      (Progress.ends_of_final hfinal).reached, Residual.status_ne_degenerateInput _ ended.error⟩

theorem gaussSeidel_staysAt (hspatial : problem.tangents = 2)
    (hr : problem.IsSolution start.reaction)
    (hkeeps : problem.KeepsContacts start.reaction solver none) (hproper : params.IsProper) :
    ∃ run, (problem.gaussSeidel params solver none start).value = .ok run ∧
      run.StaysAt start.reaction := by
  have hsweepable : problem.IsSweepable none := isSweepable_none hspatial
  have herror : problem.errorWith none start.reaction = 0 := error_eq_zero_iff.mpr hr
  -- nothing has changed, so light evaluation looks at the error too
  have hmeasured : problem.sweepError params none start.velocity ⟨start.reaction, 0⟩ =
      (0, { candidate := ⟨start.reaction, problem.velocity start.reaction⟩, current := true }) := by
    simp only [sweepError, relativeChange_eq_zero, measureWith_eq, herror]
    exact if_pos (.inr hproper.tolerance_nonneg)
  have hstep : (problem.sweepStep params solver none (sweepStart start)).value = .ok (.measured 0,
      { candidate := ⟨start.reaction, problem.velocity start.reaction⟩, current := true }) := by
    rw [value_sweepStep_of_keeps hsweepable (sweepStart start) hkeeps]
    simp only [sweepStart, hmeasured]
  have hnext := Progress.final_eq_next hproper.cap_pos
    (Residual.exceeds_unmeasured params.tolerance) hstep
    (Residual.not_exceeds_zero hproper.tolerance_nonneg)
  rw [value_gaussSeidel, hnext]
  exact ⟨_, rfl, staysAt_ending rfl hproper.tolerance_nonneg⟩

/-! ### Thresholds fixed at a solution -/

theorem thresholdAt_thresholdsAt {R : Type} [Scalar R] {problem : FrictionProblem R}
    {c : Fin problem.contacts} (fits : problem.Fits c) (r : Vec R problem.size) :
    thresholdAt (some (problem.thresholdsAt r)) c = .ok (some
      (problem.friction.get c * Scalar.greater (problem.ownReaction c fits r).normal 0)) := by
  have hentry : (problem.thresholdsAt r)[c.val]? =
      some (problem.friction.get c * Scalar.greater (problem.ownReaction c fits r).normal 0) := by
    simp [thresholdsAt, fits]
  simp only [thresholdAt, hentry]

theorem trescaFixedPoint_staysAt {params : TrescaParams ℝ} (hspatial : problem.tangents = 2)
    (hr : problem.IsSolution start.reaction)
    (hkeeps : problem.KeepsContacts start.reaction params.solver
      (some (problem.thresholdsAt start.reaction)))
    (hproper : params.IsProper) :
    ∃ run, (problem.trescaFixedPoint params start).value = .ok run ∧
      run.StaysAt start.reaction := by
  have hstep : ∃ state, (problem.trescaStep params (trescaStart params start)).value =
      .ok (.measured 0, state) ∧ state.candidate.reaction = start.reaction := by
    -- the inner run returns the solution, whatever its tolerance and its cap
    obtain ⟨inner, hinner, hreaction, hstatus⟩ := exists_gaussSeidel_of_keeps
      (isSweepable_thresholdsAt hspatial start.reaction) hkeeps
      { params.inner with
        tolerance := innerToleranceAfter params .unmeasured params.inner.tolerance }
    have herror : problem.error inner.reaction = 0 := by
      rw [hreaction, error_eq_zero_iff.mpr hr]
    rw [value_trescaStep]
    simp only [trescaStart, hinner, if_neg hstatus, herror]
    exact ⟨_, rfl, hreaction⟩
  obtain ⟨state, hok, hreaction⟩ := hstep
  have hnext := Progress.final_eq_next hproper.cap_pos
    (Residual.exceeds_unmeasured params.tolerance) hok
    (Residual.not_exceeds_zero hproper.tolerance_nonneg)
  rw [value_trescaFixedPoint, hnext]
  refine ⟨_, rfl, staysAt_ending ?_ hproper.tolerance_nonneg⟩
  rw [reaction_settleVelocity]
  exact hreaction

/-! ### The solvers of a contact -/

variable (problem) in
/-- The diagonal entries of a component count as positive, at every contact in space. -/
def HasDiagonal (i : Fin 3) : Prop :=
  ∀ (c : Fin problem.contacts) (fits : problem.Fits c),
    Scalar.diagonalThreshold < (Mat.diagonalBlock problem.matrix (c.val * 3) fits).diagonal i

section Solvers

variable (hspatial : problem.tangents = 2) (hr : problem.IsSolution r)
  (hnormal : problem.HasDiagonal 0)

include hspatial hr

include hnormal in
theorem coneProjection_keepsContacts (tolerance : ℝ) (thresholds? : Option (List ℝ)) :
    problem.KeepsContacts r (.coneProjection tolerance) thresholds? := by
  intro c fits threshold? _
  have hdiagonal : Scalar.diagonalThreshold <
      (problem.contactProblem c fits r threshold?).normalDiagonal := hnormal c fits
  have hlaw := (isSolution_iff_contacts hspatial threshold?).mp hr c fits
  exact ContactProblem.coneProjection_keeps (problem.friction_nonneg c) hdiagonal hlaw tolerance

include hnormal in
theorem coneIteration_keepsContacts {params : ContactProblem.ConeIterationParams ℝ}
    (hstep : 0 < params.step) (hshrink : 0 < params.shrink) (thresholds? : Option (List ℝ)) :
    problem.KeepsContacts r (.coneIteration params) thresholds? := by
  intro c fits threshold? _
  have hlaw := (isSolution_iff_contacts hspatial threshold?).mp hr c fits
  exact ContactProblem.coneIteration_keeps hstep hshrink (problem.friction_nonneg c)
    (hnormal c fits) hlaw

include hnormal in
theorem cylinderProjection_keepsContacts (tolerance : ℝ) :
    problem.KeepsContacts r (.cylinderProjection tolerance) (some (problem.thresholdsAt r)) := by
  intro c fits threshold? hthreshold
  have hdiagonal : Scalar.diagonalThreshold <
      (problem.contactProblem c fits r threshold?).normalDiagonal := hnormal c fits
  have hlaw := (isSolution_iff_contacts hspatial threshold?).mp hr c fits
  rw [thresholdAt_thresholdsAt fits] at hthreshold
  exact ContactProblem.cylinderProjection_keeps (problem.friction_nonneg c) hdiagonal
    (Except.ok.inj hthreshold).symm hlaw tolerance

theorem newton_keepsContacts (hdiagonal : ∀ i, problem.HasDiagonal i)
    (params : ContactProblem.NewtonParams ℝ) (thresholds? : Option (List ℝ)) :
    problem.KeepsContacts r (.newton params) thresholds? := by
  intro c fits threshold? _
  have hlaw := (isSolution_iff_contacts hspatial threshold?).mp hr c fits
  exact ContactProblem.newton_keeps params (problem.friction_nonneg c)
    (fun i => hdiagonal i c fits) hlaw

end Solvers

end FrictionProblem

end Complementarity
