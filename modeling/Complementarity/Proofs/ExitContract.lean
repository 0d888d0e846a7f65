import Complementarity.Proofs.SweepDomain

/-!
What a run promises about the way it stopped.

A run that reports convergence after an iteration has measured the error of the very reaction it
returns, and found it within the tolerance; one that stops early without convergence has met an
error that does not compare with the tolerance. The reason is always the same: the loop ends at a
position whose error either belongs to its reaction or is too large to count as converged.
-/

namespace Complementarity

variable {R : Type} [Scalar R]

/-- What binary64 promises of comparisons: two defined numbers compare, and a defined number that is
not finite has a sign. -/
structure Scalar.ComparesDefined (R : Type) [Scalar R] : Prop where
  le_or_lt : ∀ x y : R, x ≤ x → y ≤ y → x ≤ y ∨ y < x
  lt_zero_or_pos : ∀ x : R, x ≤ x → Scalar.isFinite x = false → x < 0 ∨ 0 < x

namespace Residual

/-- An error that has been measured and does not even equal itself. -/
def IsUndefined (e : Residual R) : Prop :=
  ∃ error, e = measured error ∧ ¬error ≤ error

/-- Among numbers that compare when they are defined, an error that is neither larger than the
tolerance nor within it is undefined, or the tolerance is. -/
theorem isUndefined_of_incomparable {tolerance : R} {e : Residual R}
    (hR : Scalar.ComparesDefined R) (hgt : ¬e.Exceeds tolerance) (hle : ¬e.AtMost tolerance) :
    ¬tolerance ≤ tolerance ∨ e.IsUndefined := by
  by_cases htol : tolerance ≤ tolerance
  · refine .inr ?_
    cases e with
    | unmeasured =>
      -- the error counts as infinite, so the tolerance is not finite and has no sign
      have hbelow : ¬(Scalar.isFinite tolerance = true ∨ tolerance < 0) := hgt
      have htop : ¬(Scalar.isFinite tolerance = false ∧ 0 < tolerance) := hle
      rw [not_or, Bool.not_eq_true] at hbelow
      rcases hR.lt_zero_or_pos tolerance htol hbelow.1 with h | h
      · exact absurd h hbelow.2
      · exact absurd ⟨hbelow.1, h⟩ htop
    | measured error =>
      refine ⟨error, rfl, fun herror => ?_⟩
      rcases hR.le_or_lt error tolerance herror htol with h | h
      · exact hle h
      · exact hgt h
  · exact .inl htol

end Residual

/-- What a run promises: `full` is the error of the reaction it returns, and `last` the error with
which its loop ended. -/
structure ExitContract (cap : Nat) (tolerance full : R) (last : Residual R) (outcome : Outcome R) :
    Prop where
  iterations_le : outcome.iterations ≤ cap
  error_le : outcome.status = .converged → 0 < outcome.iterations → full ≤ tolerance
  residual_eq : outcome.status = .converged → 0 < outcome.iterations →
    Scalar.isFinite full = true → outcome.residual = full
  incomparable : outcome.status = .notConverged → outcome.iterations < cap →
    ¬last.Exceeds tolerance ∧ ¬last.AtMost tolerance
  undefined : outcome.status = .notConverged → outcome.iterations < cap →
    Scalar.ComparesDefined R → ¬tolerance ≤ tolerance ∨ last.IsUndefined

variable {cap : Nat} {tolerance full : R} {last : Residual R} {outcome : Outcome R}

/-- A degenerate run promises nothing but to stay within its cap. -/
theorem exitContract_of_degenerate (hle : outcome.iterations ≤ cap)
    (hstatus : outcome.status = .degenerateInput) :
    ExitContract cap tolerance full last outcome := by
  refine ⟨hle, ?_, ?_, ?_, ?_⟩ <;>
    · intro h
      rw [hstatus] at h
      cases h

/-- A loop that runs to its end keeps the contract, provided an error within the tolerance belongs
to the reaction it is returned with. -/
theorem Progress.Ends.exitContract {H S : Type} {advance : Iteration R (Residual R) H S} {start : S}
    {ended : Progress (Residual R) S}
    (h : Ends (Residual.Exceeds tolerance) advance cap ⟨0, .unmeasured, start⟩ ended)
    (herror : 0 < ended.iterations → ended.error.AtMost tolerance → ended.error = .measured full) :
    ExitContract cap tolerance full ended.error
      (ended.error.outcome tolerance ended.iterations) := by
  have hle : ended.iterations ≤ cap := by simpa using h.iterations_le
  have hincomparable (hstatus : ended.error.status tolerance = .notConverged)
      (hlt : ended.iterations < cap) :
      ¬ended.error.Exceeds tolerance ∧ ¬ended.error.AtMost tolerance :=
    ⟨h.not_due (by simpa using hlt), Residual.status_eq_notConverged.mp hstatus⟩
  refine ⟨hle, fun hstatus hpos => ?_, fun hstatus hpos hfinite => ?_, hincomparable, ?_⟩
  · have hatMost := Residual.status_eq_converged.mp hstatus
    rw [herror hpos hatMost] at hatMost
    exact hatMost
  · have heq := herror hpos (Residual.status_eq_converged.mp hstatus)
    change ended.error.reported = full
    rw [heq, Residual.reported, if_pos hfinite]
  · intro hstatus hlt hR
    obtain ⟨hgt, hnle⟩ := hincomparable hstatus hlt
    exact Residual.isUndefined_of_incomparable hR hgt hnle

/-- The error with which a loop ends that starts with nothing measured. -/
def lastResidual {H S : Type} (tolerance : R) (advance : Iteration R (Residual R) H S) (cap : Nat)
    (start : S) : Residual R :=
  Progress.lastError (Residual.Exceeds tolerance) advance cap ⟨0, .unmeasured, start⟩

/-- The same for a loop whose end is known, with what holds wherever it comes. -/
theorem exitContract_of_final {H S : Type} {advance : Iteration R (Residual R) H S} {start : S}
    {ended : Progress (Residual R) S}
    (hfinal : Progress.final (Residual.Exceeds tolerance) advance cap ⟨0, .unmeasured, start⟩ =
      .ok ended)
    (herror : Progress.Reaches (Residual.Exceeds tolerance) advance ⟨0, .unmeasured, start⟩ ended →
      0 < ended.iterations → ended.error.AtMost tolerance → ended.error = .measured full) :
    ExitContract cap tolerance full (lastResidual tolerance advance cap start)
      (ended.error.outcome tolerance ended.iterations) := by
  have hends := Progress.ends_of_final hfinal
  rw [lastResidual, Progress.lastError_of_final hfinal]
  exact hends.exitContract (herror hends.reached)

namespace FrictionProblem

/-- A run of a loop that keeps the contract, with the error of the problem at its reaction. -/
def Keeps {H S : Type} (problem : FrictionProblem R) (cap : Nat) (tolerance : R)
    (advance : Iteration R (Residual R) H S) (start : S) (run : Run R problem.size) : Prop :=
  ExitContract cap tolerance (problem.error run.reaction)
    (lastResidual tolerance advance cap start) run.toOutcome

variable {problem : FrictionProblem R}

/-- A method that measures every candidate keeps the contract. -/
theorem Measures.keeps_runMethod {S : Type} {candidate : S → Candidate R problem.size}
    {advance : Iteration R (Residual R) Empty S} (h : problem.Measures candidate advance)
    (method : Method) (cap : Nat) (tolerance : R) (verbosity : UInt8) (start : S) :
    problem.Keeps cap tolerance advance start
      (problem.runMethod method cap tolerance verbosity candidate advance start).value := by
  obtain ⟨ended, hfinal, heq⟩ :=
    problem.exists_runMethod_eq method cap tolerance verbosity candidate advance start
  rw [Keeps, heq]
  refine exitContract_of_final hfinal fun reached hpos _ => ?_
  simp only [Candidate.ending, reaction_settleVelocity]
  exact (h.isMeasured reached).error_eq hpos

theorem planarGaussSeidel_keeps (problem : FrictionProblem R) (params : SweepParams R)
    (start : Candidate R problem.size) :
    problem.Keeps params.iterationCap params.tolerance (problem.planarStep params) start
      (problem.planarGaussSeidel params start).value := by
  unfold planarGaussSeidel
  split
  · exact exitContract_of_degenerate (Nat.zero_le _) rfl
  · exact (problem.planarStep_measures params).keeps_runMethod _ _ _ _ _

theorem gaussSeidel_keeps {params : SweepParams R} {solver : ContactSolver R}
    {start : Candidate R problem.size} {run : Run R problem.size}
    (h : (problem.gaussSeidel params solver none start).value = .ok run) :
    problem.Keeps params.iterationCap params.tolerance (problem.sweepStep params solver none)
      { candidate := start, current := false } run := by
  rcases gaussSeidel_cases h with ⟨count, hle, hup⟩ | ⟨ended, hfinal, rfl⟩
  · exact exitContract_of_degenerate (hup.iterations_eq ▸ hle) hup.status_eq
  · exact exitContract_of_final hfinal fun reached =>
      (sweepsMeasured_of_reaches reached).error_eq_of_atMost

theorem trescaFixedPoint_keeps {params : TrescaParams R} {start : Candidate R problem.size}
    {run : Run R problem.size} (h : (problem.trescaFixedPoint params start).value = .ok run) :
    problem.Keeps params.iterationCap params.tolerance (problem.trescaStep params)
      { candidate := start, innerTolerance := params.inner.tolerance, innerIterations := 0 }
      run := by
  rcases trescaFixedPoint_cases h with ⟨count, hle, hup⟩ | ⟨ended, hfinal, rfl⟩
  · exact exitContract_of_degenerate (hup.iterations_eq ▸ hle) hup.status_eq
  · refine exitContract_of_final hfinal fun reached hpos _ => ?_
    simp only [Candidate.ending, reaction_settleVelocity]
    exact ((trescaStep_measures params).isMeasured reached).error_eq hpos

/-- All methods for frictional contact keep the contract, whatever their parameters. -/
structure KeepsContracts (problem : FrictionProblem R) (start : Candidate R problem.size) :
    Prop where
  deSaxceFixedPoint (params : ProjectionParams R) :
    problem.Keeps params.iterationCap params.tolerance (problem.deSaxceStep params) start
      (problem.deSaxceFixedPoint params start).value
  fixedPointProjection (params : ProjectionParams R) :
    problem.Keeps params.iterationCap params.tolerance (problem.projectionStep params)
      (problem.firstStepping params start) (problem.fixedPointProjection params start).value
  extraGradient (params : ProjectionParams R) :
    problem.Keeps params.iterationCap params.tolerance (problem.extraGradientStep params)
      (problem.firstStepping params start) (problem.extraGradient params start).value
  hyperplaneProjection (params : ProjectionParams R) (relaxation : R) :
    problem.Keeps params.iterationCap params.tolerance (problem.hyperplaneStep params relaxation)
      ⟨start, params.step⟩ (problem.hyperplaneProjection params relaxation start).value
  planarGaussSeidel (params : SweepParams R) :
    problem.Keeps params.iterationCap params.tolerance (problem.planarStep params) start
      (problem.planarGaussSeidel params start).value
  gaussSeidel (params : SweepParams R) (solver : ContactSolver R) :
    Yields (problem.gaussSeidel params solver none start).value (problem.tangents = 2)
      (problem.Keeps params.iterationCap params.tolerance (problem.sweepStep params solver none)
        ⟨start, false⟩)
  trescaFixedPoint (params : TrescaParams R) :
    Yields (problem.trescaFixedPoint params start).value (problem.tangents = 2)
      (problem.Keeps params.iterationCap params.tolerance (problem.trescaStep params)
        ⟨start, params.inner.tolerance, 0⟩)

end FrictionProblem

namespace RelayProblem

variable (problem : RelayProblem R)

/-- A run that keeps the contract, with the error of the problem at its reaction. -/
def Keeps (params : RelaySweepParams R) (run : Run R problem.size) : Prop :=
  ExitContract params.iterationCap params.tolerance (problem.relativeError run.reaction)
    (lastResidual params.tolerance (problem.sweepStep params problem.errorScale)
      params.iterationCap (Candidate.zero _)) run.toOutcome

theorem gaussSeidel_keeps (params : RelaySweepParams R) :
    problem.Keeps params (problem.gaussSeidel params).value := by
  rcases problem.gaussSeidel_cases params with heq | ⟨ended, hfinal, heq⟩
  · rw [heq]
    exact exitContract_of_degenerate (Nat.zero_le _) rfl
  · rw [Keeps, heq]
    refine exitContract_of_final hfinal fun reached hpos _ => ?_
    exact reached.establishes
      (fun error state => error = .measured (problem.relativeError state.reaction))
      (problem.sweepStep_measures params) hpos

end RelayProblem

/-- Every iterative method keeps the contract: on every problem, from every start, with all
parameters. -/
theorem keeps_exit_contracts (R : Type) [Scalar R] :
    (∀ (problem : FrictionProblem R) (start : Candidate R problem.size),
      problem.KeepsContracts start) ∧
    ∀ (problem : RelayProblem R) (params : RelaySweepParams R),
      problem.Keeps params (problem.gaussSeidel params).value := by
  refine ⟨fun problem start => ?_, RelayProblem.gaussSeidel_keeps⟩
  refine
    { deSaxceFixedPoint := fun params => ?_
      fixedPointProjection := fun params => ?_
      extraGradient := fun params => ?_
      hyperplaneProjection := fun params relaxation => ?_
      planarGaussSeidel := fun params => problem.planarGaussSeidel_keeps params start
      gaussSeidel := fun params solver => ⟨fun hspatial => ?_, fun run h => ?_⟩
      trescaFixedPoint := fun params => ⟨fun hspatial => ?_, fun run h => ?_⟩ }
  · exact (problem.deSaxceStep_measures params).keeps_runMethod _ _ _ _ _
  · exact (problem.projectionStep_measures params).keeps_runMethod _ _ _ _ _
  · exact (problem.extraGradientStep_measures params).keeps_runMethod _ _ _ _ _
  · exact (problem.hyperplaneStep_measures params relaxation).keeps_runMethod _ _ _ _ _
  · exact (FrictionProblem.isSweepable_none hspatial).exists_gaussSeidel_eq_ok params solver start
  · exact FrictionProblem.gaussSeidel_keeps h
  · exact FrictionProblem.exists_trescaFixedPoint_eq_ok hspatial params start
  · exact FrictionProblem.trescaFixedPoint_keeps h

end Complementarity
