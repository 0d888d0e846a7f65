import Complementarity.Proofs.DegenerateContacts
import Complementarity.Proofs.SweepDomain

/-!
Light and full evaluation, side by side.

A sweep reads nothing of the error it is measured by, and whether it succeeds does not even depend on
the reaction it starts from. So two runs that differ in their evaluation only make the same sweeps as
long as both go on, and if one of them gives up, then both do so in the first sweep. Light evaluation
stops with an error within the tolerance only after a look at the error of the problem, where full
evaluation would have stopped as well. No law of arithmetic is used.
-/

namespace Complementarity

variable {R : Type} [Scalar R]

/-- The parameters with another way to evaluate the error. -/
def SweepParams.evaluating (params : SweepParams R) (evaluation : ErrorEvaluation) :
    SweepParams R :=
  { params with evaluation }

namespace FrictionProblem

variable {problem : FrictionProblem R} {relaxation : R} {solver : ContactSolver R}
  {thresholds? : Option (List R)} {start : Candidate R problem.size}

/-! ### The reactions that sweeps lead to -/

variable (problem relaxation solver thresholds?) in
/-- The reaction after a number of sweeps, unless one of them stops early. -/
def sweptReaction (r : Vec R problem.size) :
    Nat → Except (SweepHalt R problem.size) (Vec R problem.size)
  | 0 => .ok r
  | k + 1 => (sweptReaction r k).bind fun r =>
      ((problem.sweepContacts relaxation solver thresholds? (List.finRange problem.contacts)
        ⟨r, 0⟩).value).map Swept.reaction

/-- Every run passes these reactions, whatever it measures on the way. -/
theorem sweptReaction_of_reaches {params : SweepParams R} {due : Residual R → Prop}
    {progress : Progress (Residual R) (SweepState R problem.size)}
    (reached : Progress.Reaches due (problem.sweepStep params solver thresholds?)
      (sweepStart start) progress) :
    problem.sweptReaction params.relaxation solver thresholds? start.reaction
      progress.iterations = .ok progress.state.candidate.reaction := by
  induction reached with
  | start => rfl
  | next _ _ hok ih =>
    obtain ⟨swept, hswept, hreaction⟩ := exists_swept_of_sweepStep hok
    simp only [Progress.next, sweptReaction, ih, Except.bind, hswept, Except.map, hreaction]

/-! ### Sweeps that stop early -/

/-- An update that succeeds has its threshold and its components. -/
theorem domain_of_updateContact {c : Fin problem.contacts} {swept next : Swept R problem.size}
    (h : (problem.updateContact relaxation solver thresholds? c swept).value = .ok next) :
    (∃ threshold?, thresholdAt thresholds? c = .ok threshold?) ∧ problem.Fits c := by
  unfold updateContact at h
  split at h
  · cases h
  · rename_i threshold? hthreshold
    split at h
    · rename_i fits
      exact ⟨⟨threshold?, hthreshold⟩, fits⟩
    · cases h

/-- An update that succeeds from one reaction succeeds from every other one. -/
theorem exists_updateContact_eq_ok (hsolver : solver.JudgesMatrix) {c : Fin problem.contacts}
    {swept next : Swept R problem.size}
    (h : (problem.updateContact relaxation solver thresholds? c swept).value = .ok next)
    (other : Swept R problem.size) :
    ∃ next, (problem.updateContact relaxation solver thresholds? c other).value = .ok next := by
  obtain ⟨⟨threshold?, hthreshold⟩, fits⟩ := domain_of_updateContact h
  rw [value_updateContact hthreshold fits, value_settleContact] at h ⊢
  split at h
  · cases h
  · rename_i hstatus
    have hother := (not_congr (hsolver (problem.contactProblem c fits swept.reaction threshold?)
      (problem.contactProblem c fits other.reaction threshold?)
      (problem.ownReaction c fits swept.reaction) (problem.ownReaction c fits other.reaction)
      rfl)).mp hstatus
    rw [if_neg hother]
    exact ⟨_, rfl⟩

theorem exists_sweepContacts_eq_ok (hsolver : solver.JudgesMatrix)
    {contacts : List (Fin problem.contacts)} {swept ended : Swept R problem.size}
    (h : (problem.sweepContacts relaxation solver thresholds? contacts swept).value = .ok ended)
    (other : Swept R problem.size) :
    ∃ ended, (problem.sweepContacts relaxation solver thresholds? contacts other).value =
      .ok ended := by
  induction contacts generalizing swept other with
  | nil => exact ⟨other, rfl⟩
  | cons c rest ih =>
    rw [value_sweepContacts_cons] at h ⊢
    cases hfirst : (problem.updateContact relaxation solver thresholds? c swept).value with
    | error halt =>
      rw [hfirst] at h
      cases h
    | ok next =>
      rw [hfirst] at h
      obtain ⟨next', hnext'⟩ := exists_updateContact_eq_ok hsolver hfirst other
      rw [hnext']
      exact ih h next'

variable {params : SweepParams R}

/-- After one successful sweep all others succeed. -/
theorem exists_sweepStep_eq_ok (hsolver : solver.JudgesMatrix)
    {progress : Progress (Residual R) (SweepState R problem.size)}
    {outcome : Residual R × SweepState R problem.size}
    (h : (problem.sweepStep params solver thresholds? progress).value = .ok outcome)
    (other : Progress (Residual R) (SweepState R problem.size)) :
    ∃ outcome, (problem.sweepStep params solver thresholds? other).value = .ok outcome := by
  obtain ⟨swept, hswept, -⟩ := exists_swept_of_sweepStep h
  obtain ⟨ended, hended⟩ :=
    exists_sweepContacts_eq_ok hsolver hswept ⟨other.state.candidate.reaction, 0⟩
  rw [value_sweepStep, hended]
  exact ⟨_, rfl⟩

/-- A sweep that stops early does so before anything is measured. -/
theorem sweepStep_eq_error_iff (params : SweepParams R) (evaluation : ErrorEvaluation)
    (progress : Progress (Residual R) (SweepState R problem.size)) (halt : Halt R problem.size) :
    (problem.sweepStep (params.evaluating evaluation) solver thresholds? progress).value =
        .error halt ↔
      (problem.sweepStep params solver thresholds? progress).value = .error halt := by
  simp only [value_sweepStep, SweepParams.evaluating]
  generalize (problem.sweepContacts params.relaxation solver thresholds?
    (List.finRange problem.contacts) ⟨progress.state.candidate.reaction, 0⟩).value = answer
  rcases answer with (_ | _) | _
  · rfl
  · rfl
  · exact ⟨nofun, nofun⟩

/-- Runs give up in their first sweep or not at all. -/
theorem final_eq_error_iff (params : SweepParams R) (hsolver : solver.JudgesMatrix)
    {halt : Halt R problem.size} :
    Progress.final (Residual.Exceeds params.tolerance)
        (problem.sweepStep params solver thresholds?) params.iterationCap (sweepStart start) =
          .error halt ↔
      0 < params.iterationCap ∧ Scalar.BelowTop params.tolerance ∧
        (problem.sweepStep params solver thresholds? (sweepStart start)).value = .error halt := by
  constructor
  · intro hfinal
    obtain ⟨progress, reached, hdue, hlt, herror⟩ := Progress.gives_up_of_final hfinal
    cases reached with
    | start => exact ⟨by simpa [sweepStart] using hlt, hdue, herror⟩
    | next _ _ hok =>
      obtain ⟨outcome, hother⟩ := exists_sweepStep_eq_ok hsolver hok (Progress.next _ _)
      rw [hother] at herror
      cases herror
  · rintro ⟨hcap, hdue, herror⟩
    exact Progress.final_eq_error hcap hdue herror

theorem final_evaluating_eq_error_iff (hsolver : solver.JudgesMatrix)
    (evaluation : ErrorEvaluation) {halt : Halt R problem.size} :
    Progress.final (Residual.Exceeds params.tolerance)
        (problem.sweepStep (params.evaluating evaluation) solver thresholds?) params.iterationCap
        (sweepStart start) = .error halt ↔
      Progress.final (Residual.Exceeds params.tolerance)
        (problem.sweepStep params solver thresholds?) params.iterationCap (sweepStart start) =
          .error halt := by
  refine (final_eq_error_iff (params.evaluating evaluation) hsolver).trans ?_
  rw [sweepStep_eq_error_iff, final_eq_error_iff params hsolver]
  rfl

/-! ### What runs return -/

variable {run : Run R problem.size}

theorem gaussSeidel_eq_error_iff (params : SweepParams R) {fault : Fault} :
    (problem.gaussSeidel params solver thresholds? start).value = .error fault ↔
      Progress.final (Residual.Exceeds params.tolerance)
        (problem.sweepStep params solver thresholds?) params.iterationCap (sweepStart start) =
          .error (.fault fault) := by
  rw [value_gaussSeidel]
  split <;> rename_i hfinal <;> rw [hfinal] <;> simp

theorem gaussSeidel_eq_degenerate_iff (params : SweepParams R)
    (hstatus : run.status = .degenerateInput) :
    (problem.gaussSeidel params solver thresholds? start).value = .ok run ↔
      Progress.final (Residual.Exceeds params.tolerance)
        (problem.sweepStep params solver thresholds?) params.iterationCap (sweepStart start) =
          .error (.degenerate run) := by
  rw [value_gaussSeidel]
  split
  · rename_i hfinal
    rw [hfinal]
    simp
  · rename_i hfinal
    rw [hfinal]
    simp
  · rename_i ended hfinal
    rw [hfinal]
    refine iff_of_false (fun hrun => ?_) fun hhalt => by cases hhalt
    -- a loop that ends is converged or not, but never degenerate
    obtain rfl := Except.ok.inj hrun
    exact Residual.status_ne_degenerateInput params.tolerance ended.error hstatus

theorem exists_ended_of_converged
    (h : (problem.gaussSeidel params solver thresholds? start).value = .ok run)
    (hstatus : run.status = .converged) :
    ∃ ended, Progress.final (Residual.Exceeds params.tolerance)
        (problem.sweepStep params solver thresholds?) params.iterationCap (sweepStart start) =
          .ok ended ∧ ended.error.AtMost params.tolerance ∧
      run = (problem.sweepCandidate ended.state).ending
        (ended.error.outcome params.tolerance ended.iterations) := by
  rcases gaussSeidel_cases h with ⟨_, -, hup⟩ | ⟨ended, hfinal, rfl⟩
  · rw [hup.status_eq] at hstatus
    cases hstatus
  · exact ⟨ended, hfinal, Residual.status_eq_converged.mp hstatus, rfl⟩

/-! ### Light against full evaluation -/

/-- Full evaluation measures every reaction by the error of the problem. -/
theorem error_eq_of_full {due : Residual R → Prop}
    {progress : Progress (Residual R) (SweepState R problem.size)}
    (reached : Progress.Reaches due
      (problem.sweepStep (params.evaluating .full) solver thresholds?) (sweepStart start) progress)
    (hpos : 0 < progress.iterations) :
    progress.error = .measured (problem.errorWith thresholds? progress.state.candidate.reaction) := by
  refine reached.establishes
    (fun error state => error = .measured (problem.errorWith thresholds? state.candidate.reaction))
    (fun progress outcome hok => ?_) hpos
  rw [value_sweepStep] at hok
  split at hok
  · cases hok
  · cases hok
  · obtain rfl := Except.ok.inj hok
    simp only [sweepError, SweepParams.evaluating, true_or, if_true, measureWith_eq]

/-- At equal counts both evaluations are at the same reaction. -/
theorem reaction_eq_of_reaches {due : Residual R → Prop}
    {light full : Progress (Residual R) (SweepState R problem.size)}
    (hlight : Progress.Reaches due
      (problem.sweepStep (params.evaluating .light) solver thresholds?) (sweepStart start) light)
    (hfull : Progress.Reaches due
      (problem.sweepStep (params.evaluating .full) solver thresholds?) (sweepStart start) full)
    (hcount : light.iterations = full.iterations) :
    light.state.candidate.reaction = full.state.candidate.reaction := by
  have hswept := sweptReaction_of_reaches hlight
  have hswept' := sweptReaction_of_reaches hfull
  rw [hcount] at hswept
  exact Except.ok.inj (hswept.symm.trans hswept')

/-- Where light evaluation converges, full evaluation has seen the same error. -/
theorem error_eq_of_reaches {due : Residual R → Prop}
    {light full : Progress (Residual R) (SweepState R problem.size)}
    (hlight : Progress.Reaches due
      (problem.sweepStep (params.evaluating .light) solver thresholds?) (sweepStart start) light)
    (hfull : Progress.Reaches due
      (problem.sweepStep (params.evaluating .full) solver thresholds?) (sweepStart start) full)
    (hcount : light.iterations = full.iterations)
    (hconverged : light.error.AtMost params.tolerance) : light.error = full.error := by
  rcases Nat.eq_zero_or_pos light.iterations with hzero | hpos
  · -- neither run has made a sweep
    rw [hlight.eq_start (Nat.le_of_eq hzero), hfull.eq_start (Nat.le_of_eq (hcount ▸ hzero))]
  · have hmeasured := sweepsMeasured_of_reaches hlight
    rw [hmeasured.error_eq_of_atMost hpos hconverged, error_eq_of_full hfull (hcount ▸ hpos),
      reaction_eq_of_reaches hlight hfull hcount]

/-- Where light evaluation converges, full evaluation has come to its end. -/
theorem full_iterations_le {light full : Progress (Residual R) (SweepState R problem.size)}
    (hlight : Progress.Ends (Residual.Exceeds params.tolerance)
      (problem.sweepStep (params.evaluating .light) solver thresholds?) params.iterationCap
      (sweepStart start) light)
    (hfull : Progress.Ends (Residual.Exceeds params.tolerance)
      (problem.sweepStep (params.evaluating .full) solver thresholds?) params.iterationCap
      (sweepStart start) full)
    (hconverged : light.error.AtMost params.tolerance) :
    full.iterations ≤ light.iterations := by
  refine Nat.not_lt.mp fun hgt => ?_
  obtain ⟨progress, hreached, hcount, hdue⟩ := hfull.reached.exists_before (Nat.zero_le _) hgt
  have hnot : ¬light.error.Exceeds params.tolerance :=
    hlight.not_due (Nat.lt_of_lt_of_le hgt hfull.iterations_le)
  -- full evaluation would have gone on after an error at which light evaluation stops
  rw [error_eq_of_reaches hlight.reached hreached hcount.symm hconverged] at hnot
  exact hnot hdue

section Agreement

variable (problem : FrictionProblem R) (params : SweepParams R) (solver : ContactSolver R)
  (thresholds? : Option (List R)) (start : Candidate R problem.size)

/-- The result of sweeps with the given evaluation. -/
def sweepRun (evaluation : ErrorEvaluation) : Except Fault (Run R problem.size) :=
  (problem.gaussSeidel (params.evaluating evaluation) solver thresholds? start).value

/-- Sweeps with the given evaluation come to this position. -/
def SweepsReach (evaluation : ErrorEvaluation)
    (progress : Progress (Residual R) (SweepState R problem.size)) : Prop :=
  Progress.Reaches (Residual.Exceeds params.tolerance)
    (problem.sweepStep (params.evaluating evaluation) solver thresholds?) (sweepStart start) progress

/-- What light and full evaluation have in common. They make the same sweeps, and they stop early in
the same cases with the same result. Where light evaluation converges, full evaluation has stopped,
and its test holds; if there was no sweep at all, the two have returned the same. -/
structure EvaluationsAgree : Prop where
  reaction_eq : ∀ light full, problem.SweepsReach params solver thresholds? start .light light →
    problem.SweepsReach params solver thresholds? start .full full →
      light.iterations = full.iterations →
        light.state.candidate.reaction = full.state.candidate.reaction
  fault_iff : ∀ fault,
    problem.sweepRun params solver thresholds? start .light = .error fault ↔
      problem.sweepRun params solver thresholds? start .full = .error fault
  degenerate_iff : ∀ run : Run R problem.size, run.status = .degenerateInput →
    (problem.sweepRun params solver thresholds? start .light = .ok run ↔
      problem.sweepRun params solver thresholds? start .full = .ok run)
  iterations_le : ∀ light, problem.sweepRun params solver thresholds? start .light = .ok light →
    light.status = .converged →
      ∃ full, problem.sweepRun params solver thresholds? start .full = .ok full ∧
        full.iterations ≤ light.iterations
  error_le : ∀ light, problem.sweepRun params solver thresholds? start .light = .ok light →
    light.status = .converged → 0 < light.iterations →
      problem.errorWith thresholds? light.reaction ≤ params.tolerance
  unswept : ∀ light, problem.sweepRun params solver thresholds? start .light = .ok light →
    light.status = .converged → light.iterations = 0 →
      Scalar.IsTop params.tolerance ∧ light.reaction = start.reaction ∧
        problem.sweepRun params solver thresholds? start .full = .ok light

end Agreement

/-- Both evaluations give up in the same cases, for the same reason. -/
theorem final_light_eq_error_iff (params : SweepParams R) (hsolver : solver.JudgesMatrix)
    {halt : Halt R problem.size} :
    Progress.final (Residual.Exceeds params.tolerance)
        (problem.sweepStep (params.evaluating .light) solver thresholds?) params.iterationCap
        (sweepStart start) = .error halt ↔
      Progress.final (Residual.Exceeds params.tolerance)
        (problem.sweepStep (params.evaluating .full) solver thresholds?) params.iterationCap
        (sweepStart start) = .error halt :=
  (final_evaluating_eq_error_iff hsolver .light).trans
    (final_evaluating_eq_error_iff hsolver .full).symm

/-- Where light evaluation converges, full evaluation has a run that ends as early. -/
theorem exists_full_of_light (hsolver : solver.JudgesMatrix)
    {light : Progress (Residual R) (SweepState R problem.size)}
    (hlight : Progress.final (Residual.Exceeds params.tolerance)
      (problem.sweepStep (params.evaluating .light) solver thresholds?) params.iterationCap
      (sweepStart start) = .ok light)
    (hconverged : light.error.AtMost params.tolerance) :
    ∃ full, Progress.final (Residual.Exceeds params.tolerance)
        (problem.sweepStep (params.evaluating .full) solver thresholds?) params.iterationCap
        (sweepStart start) = .ok full ∧ full.iterations ≤ light.iterations := by
  cases hfull : Progress.final (Residual.Exceeds params.tolerance)
      (problem.sweepStep (params.evaluating .full) solver thresholds?) params.iterationCap
      (sweepStart start) with
  | error halt =>
    rw [← final_light_eq_error_iff params hsolver, hlight] at hfull
    cases hfull
  | ok full =>
    exact ⟨full, rfl, full_iterations_le (Progress.ends_of_final hlight)
      (Progress.ends_of_final hfull) hconverged⟩

/-- Whatever the numbers, light evaluation can delay the end of a run but does not bring it about. -/
theorem evaluations_agree (problem : FrictionProblem R) (params : SweepParams R)
    {solver : ContactSolver R} (hstock : solver.IsStock) (thresholds? : Option (List R))
    (start : Candidate R problem.size) :
    problem.EvaluationsAgree params solver thresholds? start := by
  have hsolver := hstock.judgesMatrix
  refine
    { reaction_eq := fun _ _ => reaction_eq_of_reaches
      fault_iff := fun fault => ?_
      degenerate_iff := fun run hstatus => ?_
      iterations_le := fun run hrun hstatus => ?_
      error_le := fun run hrun hstatus hpos => ?_
      unswept := fun run hrun hstatus hzero => ?_ }
  · refine (gaussSeidel_eq_error_iff (params.evaluating .light)).trans ?_
    refine (final_light_eq_error_iff params hsolver).trans ?_
    exact (gaussSeidel_eq_error_iff (params.evaluating .full)).symm
  · refine (gaussSeidel_eq_degenerate_iff (params.evaluating .light) hstatus).trans ?_
    refine (final_light_eq_error_iff params hsolver).trans ?_
    exact (gaussSeidel_eq_degenerate_iff (params.evaluating .full) hstatus).symm
  · obtain ⟨light, hlight, hconverged, rfl⟩ := exists_ended_of_converged hrun hstatus
    obtain ⟨full, hfull, hle⟩ := exists_full_of_light hsolver hlight hconverged
    exact ⟨_, gaussSeidel_of_final hfull, hle⟩
  · obtain ⟨light, hlight, hconverged, rfl⟩ := exists_ended_of_converged hrun hstatus
    have hmeasured := sweepsMeasured_of_reaches (Progress.ends_of_final hlight).reached
    rw [hmeasured.error_eq_of_atMost hpos hconverged] at hconverged
    exact hconverged
  · obtain ⟨light, hlight, hconverged, rfl⟩ := exists_ended_of_converged hrun hstatus
    obtain ⟨full, hfull, hle⟩ := exists_full_of_light hsolver hlight hconverged
    have hzero : light.iterations = 0 := hzero
    obtain rfl : light = sweepStart start :=
      (Progress.ends_of_final hlight).reached.eq_start (Nat.le_of_eq hzero)
    obtain rfl : full = sweepStart start :=
      (Progress.ends_of_final hfull).reached.eq_start hle
    exact ⟨hconverged, rfl, gaussSeidel_of_final hfull⟩

/-! ### At binary64 -/

/-- One contact on the unit matrix, at binary64. It closes and slides. -/
def binary64Contact : FrictionProblem Float where
  contacts := 1
  tangents := 2
  matrix := Mat.identity 3
  offset := #v[-1, 0.5, 0]
  friction := #v[0.3]
  tangents_mem := spatial_tangents
  friction_nonneg := by
    have h : ∀ c : Fin 1, (0 : Float) ≤ (#v[0.3] : Vec Float 1).get c := by decide +kernel
    exact h

/-- Up to ten sweeps with the given tolerance. -/
def tenSweeps (tolerance : Float) : SweepParams Float :=
  { iterationCap := 10, tolerance, relaxation := 1, evaluation := .light, verbosity := 0 }

/-- From the zero reaction light evaluation converges after three sweeps; its reaction passes the
test of full evaluation. -/
theorem binary64Contact_converges :
    (ContactSolver.coneProjection (1e-2 : Float)).IsStock ∧
    ∃ light, binary64Contact.sweepRun (tenSweeps 1e-2) (.coneProjection 1e-2) none
        (Candidate.zero 3) .light = .ok light ∧
      light.iterations = 3 ∧ binary64Contact.errorWith none light.reaction ≤ 1e-2 := by
  have hagree := evaluations_agree binary64Contact (tenSweeps 1e-2)
    (.coneProjection (1e-2 : Float)) none (Candidate.zero 3)
  have hrun : (binary64Contact.sweepRun (tenSweeps 1e-2) (.coneProjection 1e-2) none
      (Candidate.zero 3) .light).toOption.map (fun light => (light.status, light.iterations)) =
        some (.converged, 3) := by
    decide +kernel
  cases hlight : binary64Contact.sweepRun (tenSweeps 1e-2) (.coneProjection 1e-2) none
      (Candidate.zero 3) .light with
  | error fault =>
    rw [hlight] at hrun
    cases hrun
  | ok light =>
    rw [hlight] at hrun
    obtain ⟨hstatus, hcount⟩ := Prod.mk.inj (Option.some.inj hrun)
    exact ⟨.coneProjection _, light, rfl, hcount,
      hagree.error_le light hlight hstatus (hcount ▸ Nat.succ_pos 2)⟩

/-- Nothing exceeds an infinite tolerance, so a run with it makes no sweep. It counts as converged
even at a reaction whose error is undefined. -/
theorem binary64Contact_unswept :
    ∃ light, binary64Contact.sweepRun (tenSweeps (1.0 / 0.0)) (.coneProjection 1e-2) none
        ⟨#v[0.0 / 0.0, 0, 0], Vec.zero 3⟩ .light = .ok light ∧
      light.status = .converged ∧
      ¬binary64Contact.errorWith none light.reaction ≤ 1.0 / 0.0 := by
  have hnot : ¬Scalar.BelowTop (1.0 / 0.0 : Float) := by decide +kernel
  refine ⟨_, gaussSeidel_of_final (Progress.final_eq_start hnot), ?_, ?_⟩
  · change (if Scalar.IsTop (1.0 / 0.0 : Float) then Status.converged else .notConverged) = _
    decide +kernel
  · change ¬binary64Contact.error #v[0.0 / 0.0, 0, 0] ≤ 1.0 / 0.0
    decide +kernel

end FrictionProblem

end Complementarity
