import Complementarity.Proofs.LightEvaluation
import Complementarity.Proofs.SolveEffect
import Complementarity.Proofs.SquareRootSign
import Complementarity.Proofs.StoppingCuts

/-!
What the recorded residual tells.

A run judges its last error by the tolerance and reports the same error, but one that is not finite
as zero. So a caller who compares the residual of a configuration with the tolerance beside it finds
the status of the run again, unless there was no finite error to report
(`recorded_residuals_recheck`). The LATIN method does not look at its error before it reports it:
what it reports always agrees with its status, but need not be a number
(`recorded_residuals_finite`).
-/

namespace Complementarity

variable {R : Type} [Scalar R]

/-! ### Outcomes -/

namespace Residual

/-- Whatever was measured, a number is reported. -/
theorem isFinite_reported (hzero : Scalar.isFinite (0 : R) = true) (e : Residual R) :
    Scalar.isFinite e.reported = true := by
  cases e with
  | unmeasured => exact hzero
  | measured error =>
    by_cases hfinite : Scalar.isFinite error = true
    · rwa [reported, if_pos hfinite]
    · rwa [reported, if_neg hfinite]

end Residual

namespace Outcome

/-- The run has come to its end, and its error was compared with the tolerance. -/
def IsJudged (outcome : Outcome R) : Prop :=
  outcome.status = .converged ∨ outcome.status = .notConverged

/-- What an outcome tells of the error with which the iterations ended: its status compares that error
with the tolerance, and its residual is the number shown for it. A run that was given up shows
zero. -/
inductive TellsOf (tolerance : R) (last : Residual R) (shown : R) (outcome : Outcome R) : Prop
  | givenUp (not_judged : ¬outcome.IsJudged) (residual_eq : outcome.residual = 0)
  | judged (status_eq : outcome.status = last.status tolerance) (residual_eq : outcome.residual = shown)

/-- The residual is the error with which the iterations ended, or zero if there is no finite one. -/
abbrev Reports (tolerance : R) (last : Residual R) (outcome : Outcome R) : Prop :=
  outcome.TellsOf tolerance last last.reported

/-- What a caller finds who compares the residual with the tolerance. -/
structure Rechecks (tolerance : R) (last : Residual R) (outcome : Outcome R) : Prop where
  le_of_converged : outcome.status = .converged → outcome.residual ≤ tolerance
  converged_of_le : last.finite? ≠ none → outcome.residual ≤ tolerance → outcome.status = .converged
  residual_eq_zero : last.finite? = none → outcome.residual = 0

variable {tolerance shown error : R} {last : Residual R} {outcome : Outcome R}

omit [Scalar R] in
theorem not_isJudged_of_degenerate (h : outcome.status = .degenerateInput) : ¬outcome.IsJudged := by
  simp [IsJudged, h]

/-- Comparing the reported number with the tolerance repeats the comparison of the error. -/
theorem Reports.rechecks (h : outcome.Reports tolerance last)
    (hjudged : outcome.IsJudged) (htolerance : 0 ≤ tolerance) : outcome.Rechecks tolerance last := by
  cases h with
  | givenUp hnot _ => exact absurd hjudged hnot
  | judged hstatus hresidual =>
    cases last with
    | unmeasured =>
      have hzero : outcome.residual = 0 := hresidual
      exact ⟨fun _ => by rwa [hzero], fun hfinite => absurd rfl hfinite, fun _ => hzero⟩
    | measured error =>
      have hconverged : outcome.status = .converged ↔ error ≤ tolerance := by
        rw [hstatus]
        exact Residual.status_eq_converged
      by_cases hfinite : Scalar.isFinite error = true
      · have hsame : outcome.residual = error := hresidual.trans (if_pos hfinite)
        rw [← hsame] at hconverged
        refine ⟨hconverged.mp, fun _ => hconverged.mpr, fun hnone => ?_⟩
        simp [Residual.finite?, hfinite] at hnone
      · have hzero : outcome.residual = 0 := hresidual.trans (if_neg hfinite)
        refine ⟨fun _ => by rwa [hzero], fun hsome => ?_, fun _ => hzero⟩
        exact absurd (if_neg hfinite) hsome

/-- With an error that is shown as it stands, this needs no finite number. -/
theorem TellsOf.converged_iff (h : outcome.TellsOf tolerance (.measured error) error)
    (hjudged : outcome.IsJudged) : outcome.status = .converged ↔ outcome.residual ≤ tolerance := by
  cases h with
  | givenUp hnot _ => exact absurd hjudged hnot
  | judged hstatus hresidual =>
    rw [hstatus, hresidual]
    exact Residual.status_eq_converged

/-- The outcome of a problem that the zero reaction solves. -/
theorem rechecks_trivial (htolerance : 0 ≤ tolerance) :
    (aborted .converged).Rechecks tolerance last :=
  ⟨fun _ => htolerance, fun _ _ => rfl, fun _ => rfl⟩

theorem Reports.isFinite (h : outcome.Reports tolerance last)
    (hzero : Scalar.isFinite (0 : R) = true) : Scalar.isFinite outcome.residual = true := by
  cases h with
  | givenUp _ hresidual => rwa [hresidual]
  | judged _ hresidual =>
    rw [hresidual]
    exact last.isFinite_reported hzero

end Outcome

/-- A loop that runs to its end reports its last error. -/
theorem reports_of_final {H S : Type} {tolerance : R} {advance : Iteration R (Residual R) H S}
    {cap : Nat} {start : S} {ended : Progress (Residual R) S}
    (hfinal : Progress.final (Residual.Exceeds tolerance) advance cap ⟨0, .unmeasured, start⟩ =
      .ok ended) :
    (ended.error.outcome tolerance ended.iterations).Reports tolerance
      (lastResidual tolerance advance cap start) := by
  rw [lastResidual, Progress.lastError_of_final hfinal]
  exact .judged rfl rfl

/-! ### Frictional contact -/

/-- Runs of the algorithm report the given error, judged by the tolerance of the outermost node. -/
def Algorithm.Reports {P : Type} [Problem R P] (algorithm : Algorithm R P)
    (lastError : (problem : P) → ConfigTree R → Candidate R (Problem.size problem) → Residual R) :
    Prop :=
  ∀ (problem : P) (tree : ConfigTree R) (start : Candidate R (Problem.size problem))
    (run : Run R (Problem.size problem)), tree.root.solver = algorithm.solver →
    (algorithm.run problem tree start).value = .ok run →
    ∃ tolerance, tree.root.real? .tolerance = some tolerance ∧
      run.Reports tolerance (lastError problem tree start)

namespace FrictionProblem

variable {problem : FrictionProblem R} {start : Candidate R problem.size}

theorem runMethod_reports {S : Type} (method : Method) (cap : Nat) (tolerance : R)
    (verbosity : UInt8) (candidate : S → Candidate R problem.size)
    (advance : Iteration R (Residual R) Empty S) (first : S) :
    (problem.runMethod method cap tolerance verbosity candidate advance first).value.Reports
      tolerance (lastResidual tolerance advance cap first) := by
  obtain ⟨ended, hfinal, heq⟩ :=
    problem.exists_runMethod_eq method cap tolerance verbosity candidate advance first
  rw [heq]
  exact reports_of_final hfinal

theorem planarGaussSeidel_reports (params : SweepParams R) :
    (problem.planarGaussSeidel params start).value.Reports params.tolerance
      (lastResidual params.tolerance (problem.planarStep params) params.iterationCap start) := by
  unfold planarGaussSeidel
  split
  · exact .givenUp (Outcome.not_isJudged_of_degenerate rfl) rfl
  · exact runMethod_reports _ _ _ _ _ _ _

theorem GivesUp.reports {count : Nat} {run : Run R problem.size} (h : GivesUp count run)
    (tolerance : R) (last : Residual R) : run.Reports tolerance last :=
  .givenUp (Outcome.not_isJudged_of_degenerate h.status_eq) h.residual_eq

theorem gaussSeidel_reports {params : SweepParams R} {solver : ContactSolver R}
    {run : Run R problem.size}
    (h : (problem.gaussSeidel params solver none start).value = .ok run) :
    run.Reports params.tolerance
      (lastResidual params.tolerance (problem.sweepStep params solver none) params.iterationCap
        ⟨start, false⟩) := by
  rcases gaussSeidel_cases h with ⟨count, -, hup⟩ | ⟨ended, hfinal, rfl⟩
  · exact hup.reports _ _
  · exact reports_of_final hfinal

theorem trescaFixedPoint_reports {params : TrescaParams R} {run : Run R problem.size}
    (h : (problem.trescaFixedPoint params start).value = .ok run) :
    run.Reports params.tolerance
      (lastResidual params.tolerance (problem.trescaStep params) params.iterationCap
        ⟨start, params.inner.tolerance, 0⟩) := by
  rcases trescaFixedPoint_cases h with ⟨count, -, hup⟩ | ⟨ended, hfinal, rfl⟩
  · exact hup.reports _ _
  · exact reports_of_final hfinal

/-- The error with which the iterations end that a configuration asks for. It is not measured if the
configuration asks for none of these methods. -/
def lastErrorFrom (problem : FrictionProblem R) (tree : ConfigTree R)
    (start : Candidate R problem.size) : Residual R :=
  match tree.root.solver with
  | .planarGaussSeidel => (SweepParams.ofNode? tree.root).elim .unmeasured fun params =>
      lastResidual params.tolerance (problem.planarStep params) params.iterationCap start
  | .gaussSeidel => (gaussSeidelParams tree).toOption.elim .unmeasured fun (solver, params) =>
      lastResidual params.tolerance (problem.sweepStep params solver none) params.iterationCap
        ⟨start, false⟩
  | .trescaFixedPoint => (TrescaParams.ofTree tree).toOption.elim .unmeasured fun params =>
      lastResidual params.tolerance (problem.trescaStep params) params.iterationCap
        ⟨start, params.inner.tolerance, 0⟩
  | .deSaxceFixedPoint => (ProjectionParams.ofNode? tree.root).elim .unmeasured fun params =>
      lastResidual params.tolerance (problem.deSaxceStep params) params.iterationCap start
  | .fixedPointProjection => (ProjectionParams.ofNode? tree.root).elim .unmeasured fun params =>
      lastResidual params.tolerance (problem.projectionStep params) params.iterationCap
        (problem.firstStepping params start)
  | .extraGradient => (ProjectionParams.ofNode? tree.root).elim .unmeasured fun params =>
      lastResidual params.tolerance (problem.extraGradientStep params) params.iterationCap
        (problem.firstStepping params start)
  | .hyperplaneProjection => (hyperplaneParams? tree.root).elim .unmeasured fun (params, relaxation) =>
      lastResidual params.tolerance (problem.hyperplaneStep params relaxation) params.iterationCap
        ⟨start, params.step⟩
  | _ => .unmeasured

/-- The same for iterations from the zero reaction, where a dispatcher starts them. -/
def lastError (problem : FrictionProblem R) (tree : ConfigTree R) : Residual R :=
  problem.lastErrorFrom tree (Candidate.zero _)

/-- A method that only needs the parameters of its own node reports the error of its loop. -/
theorem reports_of_params {A : Type} {solver : SolverId} {dimension : Nat}
    {read : Node R → Option A} {cap : A → Nat} {tolerance : A → R}
    {method : (problem : FrictionProblem R) → A → Candidate R problem.size →
      Traced R (Run R problem.size)}
    {last : (problem : FrictionProblem R) → A → Candidate R problem.size → Residual R}
    (hstops : ∀ {node params}, read node = some params →
      node.Stops (cap params) (tolerance params))
    (hmethod : ∀ problem params start,
      (method problem params start).value.Reports (tolerance params) (last problem params start))
    (hlast : ∀ (problem : FrictionProblem R) (tree : ConfigTree R)
      (start : Candidate R problem.size), tree.root.solver = solver →
      problem.lastErrorFrom tree start = (read tree.root).elim .unmeasured (last problem · start)) :
    Algorithm.Reports
      { solver, check := checkDimension solver dimension
        run := fun problem tree start => withParams (read tree.root) (method problem · start) }
      lastErrorFrom := by
  intro problem tree start run hsolver h
  obtain ⟨params, hparams, rfl⟩ := exists_params_of_ok h
  refine ⟨tolerance params, (hstops hparams).tolerance_eq, ?_⟩
  rw [hlast problem tree start hsolver, hparams]
  exact hmethod problem params start

/-- Every algorithm for frictional contact reports the error of its loop. -/
theorem stock_reports : ∀ algorithm ∈ stock (R := R), algorithm.Reports lastErrorFrom := by
  intro algorithm hmem
  simp only [stock, List.mem_cons, List.not_mem_nil, or_false] at hmem
  rcases hmem with rfl | rfl | rfl | rfl | rfl | rfl | rfl
  · exact reports_of_params SweepParams.stops (fun _ params _ => planarGaussSeidel_reports params)
      fun _ _ _ hsolver => by rw [lastErrorFrom, hsolver]
  · intro problem tree start run hsolver h
    obtain ⟨solver, params, hparams, hrun⟩ := exists_gaussSeidel_of_ok h
    refine ⟨params.tolerance, (stops_of_gaussSeidelParams hparams).tolerance_eq, ?_⟩
    rw [lastErrorFrom, hsolver, hparams]
    exact gaussSeidel_reports hrun
  · intro problem tree start run hsolver h
    obtain ⟨params, hparams, hrun⟩ := exists_trescaFixedPoint_of_ok h
    refine ⟨params.tolerance, (TrescaParams.stops hparams).tolerance_eq, ?_⟩
    rw [lastErrorFrom, hsolver, hparams]
    exact trescaFixedPoint_reports hrun
  · exact reports_of_params ProjectionParams.stops (fun _ _ _ => runMethod_reports _ _ _ _ _ _ _)
      fun _ _ _ hsolver => by rw [lastErrorFrom, hsolver]
  · exact reports_of_params ProjectionParams.stops (fun _ _ _ => runMethod_reports _ _ _ _ _ _ _)
      fun _ _ _ hsolver => by rw [lastErrorFrom, hsolver]
  · exact reports_of_params ProjectionParams.stops (fun _ _ _ => runMethod_reports _ _ _ _ _ _ _)
      fun _ _ _ hsolver => by rw [lastErrorFrom, hsolver]
  · exact reports_of_params stops_of_hyperplaneParams? (fun _ _ _ => runMethod_reports _ _ _ _ _ _ _)
      fun _ _ _ hsolver => by rw [lastErrorFrom, hsolver]

end FrictionProblem

/-! ### Relay problems -/

namespace RelayProblem

variable {problem : RelayProblem R}

theorem gaussSeidel_reports (params : RelaySweepParams R) :
    (problem.gaussSeidel params).value.Reports params.tolerance
      (lastResidual params.tolerance (problem.sweepStep params problem.errorScale)
        params.iterationCap (Candidate.zero _)) := by
  rcases problem.gaussSeidel_cases params with heq | ⟨ended, hfinal, heq⟩
  · rw [heq]
    exact .givenUp (Outcome.not_isJudged_of_degenerate rfl) rfl
  · rw [heq]
    exact reports_of_final hfinal

/-- The LATIN method shows its last error as it stands. -/
theorem latin_tellsOf (problem : RelayProblem R) (params : LatinParams R) :
    ∃ error, (problem.latin params).value.TellsOf params.tolerance (.measured error) error := by
  rcases problem.latin_cases params with ⟨status, hstatus, heq⟩ | ⟨_, -, -, ended, -, heq⟩
  · refine ⟨0, ?_⟩
    rw [heq]
    refine .givenUp ?_ rfl
    rcases hstatus with rfl | rfl <;> exact not_or.mpr ⟨nofun, nofun⟩
  · refine ⟨ended.error, ?_⟩
    rw [heq]
    exact .judged rfl rfl

/-- The error with which the sweeps end that a configuration asks for. -/
def lastError (problem : RelayProblem R) (tree : ConfigTree R) : Residual R :=
  (RelaySweepParams.ofNode? tree.root).elim .unmeasured fun params =>
    lastResidual params.tolerance (problem.sweepStep params problem.errorScale)
      params.iterationCap (Candidate.zero _)

end RelayProblem

/-! ### Calls -/

namespace Dispatcher

/-- What holds for a caller who only has the configuration that a call leaves: the tolerance and the
residual stand there, and the outcome passes the check. -/
def Answer.Passes {n : Nat} (answer : Answer R n) (check : R → Outcome R → Prop) : Prop :=
  ∀ run : Run R n, answer.result = .ok run → run.IsJudged →
    ∃ tolerance, answer.tree.root.real? .tolerance = some tolerance ∧
      answer.tree.root.real? .residual = some run.residual ∧ check tolerance run.toOutcome

variable {P : Type} [Problem R P] {dispatcher : Dispatcher R P} {problem : P}
  {tree : ConfigTree R} {verbosity? : Option UInt8} {run : Run R (Problem.size problem)}

theorem residual_solve (h : (dispatcher.solve problem tree verbosity?).value.result = .ok run) :
    (dispatcher.solve problem tree verbosity?).value.tree.root.real? .residual =
      some run.residual :=
  ((effect_solve dispatcher problem tree verbosity?).of_ok run h).residual_entry

/-- The tolerance that a call leaves is the one it has used, and not negative. -/
theorem passes_solve {check : R → Outcome R → Prop}
    (hcheck : ∀ run, (dispatcher.solve problem tree verbosity?).value.result = .ok run →
      run.IsJudged → ∀ tolerance,
        (effective tree.fillDefaults verbosity?).root.real? .tolerance = some tolerance →
          0 ≤ tolerance → check tolerance run.toOutcome) :
    (dispatcher.solve problem tree verbosity?).value.Passes check := by
  intro run h hjudged
  have heffective : (effective tree.fillDefaults verbosity?).validate = .ok () := by
    rw [validate_effective]
    exact (exists_run_of_result h).1
  obtain ⟨tolerance, htolerance, hnonneg⟩ :=
    (ConfigTree.root_isUsable heffective).tolerance_nonneg
  exact ⟨tolerance, (real?_solve .tolerance nofun).trans htolerance, residual_solve h,
    hcheck run h hjudged tolerance htolerance hnonneg⟩

/-- Behind a result stands the trivial solution, or a run of the algorithm that was asked for. -/
theorem result_cases (h : (dispatcher.solve problem tree verbosity?).value.result = .ok run) :
    run.toOutcome = .aborted .converged ∨
    ∃ algorithm ∈ dispatcher.algorithms, algorithm.solver = tree.root.solver ∧
      ∃ start, Problem.trivialSolution problem (Candidate.zero _) = (false, start) ∧
        (algorithm.run problem (effective tree.fillDefaults verbosity?) start).value =
          .ok run := by
  obtain ⟨-, algorithm, hmem, hsolver, hrun⟩ := exists_run_of_result h
  rw [ConfigTree.solver_fillDefaults] at hsolver
  rcases runAlgorithm_cases hrun with heq | hstarted
  · exact .inl heq
  · exact .inr ⟨algorithm, hmem, hsolver, hstarted⟩

end Dispatcher

open Dispatcher (effective)

namespace FrictionProblem

variable {dispatcher : Dispatcher R (FrictionProblem R)} {problem : FrictionProblem R}
  {tree : ConfigTree R} {verbosity? : Option UInt8} {run : Run R problem.size}

/-- A problem that does not open on its own is started at zero. -/
theorem start_eq_zero {start : Candidate R problem.size}
    (h : Problem.trivialSolution problem (Candidate.zero _) = (false, start)) :
    start = Candidate.zero _ := by
  change (if problem.IsOpen then (true, _) else (false, Candidate.zero _)) = _ at h
  split at h
  · cases h
  · exact (congrArg Prod.snd h).symm

theorem reports_of_result (assembled : dispatcher.Assembled stock)
    (h : (dispatcher.solve problem tree verbosity?).value.result = .ok run) :
    run.toOutcome = .aborted .converged ∨
    ∃ tolerance, (effective tree.fillDefaults verbosity?).root.real? .tolerance = some tolerance ∧
      run.Reports tolerance (problem.lastError (effective tree.fillDefaults verbosity?)) := by
  rcases Dispatcher.result_cases h with heq | ⟨algorithm, hmem, hsolver, start, hstart, hrun⟩
  · exact .inl heq
  · have hroot : (effective tree.fillDefaults verbosity?).root.solver = algorithm.solver := by
      rw [Dispatcher.solver_effective, ConfigTree.solver_fillDefaults, hsolver]
    obtain rfl := start_eq_zero hstart
    exact .inr (stock_reports algorithm (assembled.mem_stock algorithm hmem) problem _ _ run hroot
      hrun)

end FrictionProblem

namespace RelayProblem

variable {dispatcher : Dispatcher R (RelayProblem R)} {problem : RelayProblem R}
  {tree : ConfigTree R} {verbosity? : Option UInt8} {run : Run R problem.size}

/-- Behind a result of a relay problem stands the trivial solution, or a run of one of the two
methods. -/
theorem result_cases (assembled : dispatcher.Assembled stock)
    (h : (dispatcher.solve problem tree verbosity?).value.result = .ok run) :
    run.toOutcome = .aborted .converged ∨
    (tree.root.solver = .relayGaussSeidel ∧ ∃ params,
      RelaySweepParams.ofNode? (effective tree.fillDefaults verbosity?).root = some params ∧
        (problem.gaussSeidel params).value = run) ∨
    (tree.root.solver = .relayLatin ∧ ∃ params,
      LatinParams.ofNode? (effective tree.fillDefaults verbosity?).root = some params ∧
        (problem.latin params).value = run) := by
  rcases Dispatcher.result_cases h with heq | ⟨algorithm, hmem, hsolver, start, -, hrun⟩
  · exact .inl heq
  · have hstock := assembled.mem_stock algorithm hmem
    simp only [stock, List.mem_cons, List.not_mem_nil, or_false] at hstock
    rcases hstock with rfl | rfl
    · exact .inr (.inl ⟨hsolver.symm, FrictionProblem.exists_params_of_ok hrun⟩)
    · exact .inr (.inr ⟨hsolver.symm, FrictionProblem.exists_params_of_ok hrun⟩)

end RelayProblem

/-- Whoever compares the recorded residual with the tolerance beside it finds the status of the run
again, unless the iterations ended without a finite error; after the LATIN method even then. -/
theorem recorded_residuals_recheck (R : Type) [Scalar R] :
    (∀ dispatcher : Dispatcher R (FrictionProblem R), dispatcher.Assembled FrictionProblem.stock →
      ∀ problem tree verbosity?,
        (dispatcher.solve problem tree verbosity?).value.Passes fun tolerance outcome =>
          outcome.Rechecks tolerance
            (problem.lastError (effective tree.fillDefaults verbosity?))) ∧
    ∀ dispatcher : Dispatcher R (RelayProblem R), dispatcher.Assembled RelayProblem.stock →
      ∀ problem tree verbosity?,
        (dispatcher.solve problem tree verbosity?).value.Passes fun tolerance outcome =>
          (tree.root.solver ≠ .relayLatin → outcome.Rechecks tolerance
            (problem.lastError (effective tree.fillDefaults verbosity?))) ∧
          (tree.root.solver = .relayLatin →
            (outcome.status = .converged ↔ outcome.residual ≤ tolerance)) := by
  refine ⟨fun dispatcher assembled problem tree verbosity? => ?_,
    fun dispatcher assembled problem tree verbosity? => ?_⟩
  · refine Dispatcher.passes_solve fun run h hjudged tolerance htolerance hnonneg => ?_
    rcases FrictionProblem.reports_of_result assembled h with heq | ⟨_, hsame, hreports⟩
    · rw [heq]
      exact Outcome.rechecks_trivial hnonneg
    · obtain rfl := Option.some.inj (htolerance.symm.trans hsame)
      exact hreports.rechecks hjudged hnonneg
  · refine Dispatcher.passes_solve fun run h hjudged tolerance htolerance hnonneg => ?_
    rcases RelayProblem.result_cases assembled h with
      heq | ⟨hsolver, params, hparams, rfl⟩ | ⟨hsolver, params, hparams, rfl⟩
    · rw [heq]
      exact ⟨fun _ => Outcome.rechecks_trivial hnonneg, fun _ => iff_of_true rfl hnonneg⟩
    · obtain rfl := Option.some.inj
        (htolerance.symm.trans (RelaySweepParams.stops hparams).tolerance_eq)
      refine ⟨fun _ => ?_, fun hlatin => absurd (hsolver.symm.trans hlatin) nofun⟩
      rw [RelayProblem.lastError, hparams]
      exact (RelayProblem.gaussSeidel_reports params).rechecks hjudged hnonneg
    · obtain rfl := Option.some.inj
        (htolerance.symm.trans (LatinParams.stops hparams).tolerance_eq)
      obtain ⟨error, htells⟩ := problem.latin_tellsOf params
      exact ⟨fun hother => absurd hsolver hother, fun _ => htells.converged_iff hjudged⟩

/-- A call on the contact at binary64, with one change of the default parameters. -/
def contactCall (change : Node Float → Node Float) : Dispatcher.Answer Float 3 :=
  (FrictionProblem.dispatcher.solve FrictionProblem.binary64Contact
    ((ConfigTree.ofSolver .deSaxceFixedPoint).mapRoot change) none).value

/-- A coarse tolerance is met by the first iteration, and the records say so. -/
theorem contactCall_rechecked :
    FrictionProblem.dispatcher.Assembled (FrictionProblem.stock (R := Float)) ∧
    ∃ run tolerance,
      (contactCall (·.setReal RealSlot.tolerance.offset 0.1)).result = .ok run ∧
      (contactCall (·.setReal RealSlot.tolerance.offset 0.1)).tree.root.real? .tolerance =
        some tolerance ∧
      run.status = .converged ∧ run.residual ≤ tolerance := by
  have hpasses := (recorded_residuals_recheck Float).1 FrictionProblem.dispatcher .full
    FrictionProblem.binary64Contact
    ((ConfigTree.ofSolver .deSaxceFixedPoint).mapRoot (·.setReal RealSlot.tolerance.offset 0.1)) none
  have hrun : (contactCall (·.setReal RealSlot.tolerance.offset 0.1)).result.toOption.map
      (·.status) = some .converged := by
    decide +kernel
  obtain ⟨run, hresult, hstatus⟩ := exists_of_toOption_map hrun
  obtain ⟨tolerance, htolerance, -, hrechecks⟩ := hpasses run hresult (.inl hstatus)
  exact ⟨.full, run, tolerance, hresult, htolerance, hstatus, hrechecks.le_of_converged hstatus⟩

/-- Without an iteration nothing is measured: the run has not converged, but its residual is zero. -/
theorem contactCall_misleads :
    ¬(contactCall (·.setInteger IntegerSlot.iterationCap.offset 0)).Passes
      fun tolerance outcome => (outcome.status = .converged ↔ outcome.residual ≤ tolerance) := by
  intro hpasses
  have hrun : (contactCall (·.setInteger IntegerSlot.iterationCap.offset 0)).result.toOption.map
      (fun run => (run.status, decide (run.residual ≤ (1e-6 : Float)))) =
        some (.notConverged, true) := by
    decide +kernel
  obtain ⟨run, hresult, hsummary⟩ := exists_of_toOption_map hrun
  obtain ⟨hstatus, hle⟩ := Prod.mk.inj hsummary
  obtain ⟨tolerance, htolerance, -, hiff⟩ := hpasses run hresult (.inr hstatus)
  have hkept : (contactCall (·.setInteger IntegerSlot.iterationCap.offset 0)).tree.root.real?
      .tolerance = some 1e-6 :=
    Dispatcher.real?_solve .tolerance nofun
  obtain rfl := Option.some.inj (htolerance.symm.trans hkept)
  have hconverged := hiff.mpr (of_decide_eq_true hle)
  rw [hstatus] at hconverged
  cases hconverged

/-! ### At binary64 -/

theorem isFinite_zero : Scalar.isFinite (0 : Float) = true := by
  decide +kernel

namespace RelayProblem

/-- An error that the LATIN method has measured is a square root. -/
theorem latinError_not_neg {n : Nat} (k : Vec Float n) (linear localStage : Candidate Float n) :
    ¬latinError k linear localStage < 0 := by
  unfold latinError
  dsimp only
  split <;> exact Binary64.not_sqrt_neg _

/-- An iteration is only due if the tolerance is below the error one that counts at the start, so an
error within the tolerance is bounded; and it is not negative. -/
theorem isFinite_of_converged {problem : RelayProblem Float} {params : LatinParams Float}
    {solve : Vec Float problem.size → Vec Float problem.size}
    {ended : Progress Float (LatinState Float problem.size)}
    (hfinal : Progress.final (params.tolerance < ·)
      (problem.latinStep params (problem.searchDirection params.scale) solve) params.iterationCap
      ⟨0, 1, ⟨Candidate.zero _, Candidate.zero _⟩⟩ = .ok ended)
    (hle : ended.error ≤ params.tolerance) : Scalar.isFinite ended.error = true := by
  have hone : Scalar.isFinite (1 : Float) = true := by decide +kernel
  have hreached := (Progress.ends_of_final hfinal).reached
  rcases Nat.eq_zero_or_pos ended.iterations with hzero | hpos
  · obtain rfl := hreached.eq_start (Nat.le_of_eq hzero)
    exact hone
  · have hR := Binary64.comparesInOrder
    obtain ⟨progress, hbefore, hfirst, hdue⟩ := hreached.exists_before (Nat.le_refl 0) hpos
    obtain rfl := hbefore.eq_start (Nat.le_of_eq hfirst)
    have htolerance : params.tolerance ≤ 1 :=
      (hR.le_or_lt _ _ (hR.defined_of_le _ _ hle).2 (by decide +kernel)).resolve_right
        (hR.lt_asymm _ _ hdue)
    have hbelow : Scalar.BelowTop ended.error :=
      hR.belowTop_of_le _ _ hle (hR.belowTop_of_le _ _ htolerance (.inl hone))
    refine hbelow.resolve_right ?_
    refine hreached.establishes (fun error _ => ¬error < 0) (fun progress outcome hok => ?_) hpos
    cases hok
    exact latinError_not_neg _ _ _

theorem latin_isFinite (problem : RelayProblem Float) (params : LatinParams Float)
    (hstatus : (problem.latin params).value.status ≠ .notConverged) :
    Scalar.isFinite (problem.latin params).value.residual = true := by
  rcases problem.latin_cases params with ⟨status, -, heq⟩ | ⟨_, -, -, ended, hfinal, heq⟩
  · rw [heq]
    exact isFinite_zero
  · rw [heq] at hstatus ⊢
    refine isFinite_of_converged hfinal ?_
    by_contra hgt
    exact hstatus (if_neg hgt)

end RelayProblem

/-- The call leaves a finite number as its residual if the run ended like this. -/
def Dispatcher.Answer.RecordsFinite {n : Nat} (answer : Answer R n) (ended : Status → Prop) : Prop :=
  ∀ run : Run R n, answer.result = .ok run → ended run.status →
    answer.tree.root.real? .residual = some run.residual ∧ Scalar.isFinite run.residual = true

/-- At binary64, whatever the numbers of the problem, all recorded residuals are finite but those of
the LATIN method when it has not converged. -/
theorem recorded_residuals_finite (tree : ConfigTree Float) (verbosity? : Option UInt8) :
    (∀ dispatcher : Dispatcher Float (FrictionProblem Float),
      dispatcher.Assembled FrictionProblem.stock → ∀ problem,
        (dispatcher.solve problem tree verbosity?).value.RecordsFinite fun _ => True) ∧
    ∀ dispatcher : Dispatcher Float (RelayProblem Float), dispatcher.Assembled RelayProblem.stock →
      ∀ problem, (dispatcher.solve problem tree verbosity?).value.RecordsFinite fun status =>
        tree.root.solver ≠ .relayLatin ∨ status ≠ .notConverged := by
  refine ⟨fun dispatcher assembled problem run h _ => ?_,
    fun dispatcher assembled problem run h hended => ?_⟩
  · refine ⟨Dispatcher.residual_solve h, ?_⟩
    rcases FrictionProblem.reports_of_result assembled h with heq | ⟨_, -, hreports⟩
    · rw [heq]
      exact isFinite_zero
    · exact hreports.isFinite isFinite_zero
  · refine ⟨Dispatcher.residual_solve h, ?_⟩
    rcases RelayProblem.result_cases assembled h with
      heq | ⟨-, params, -, rfl⟩ | ⟨hsolver, params, -, rfl⟩
    · rw [heq]
      exact isFinite_zero
    · exact (RelayProblem.gaussSeidel_reports params).isFinite isFinite_zero
    · exact problem.latin_isFinite params (hended.resolve_left fun hother => hother hsolver)

/-- One relay whose offset is so large that its square is not finite. -/
def overflowingRelay : RelayProblem Float where
  size := 1
  matrix := Mat.identity 1
  offset := #v[1e200]
  upper := #v[1]
  lower := #v[1]
  box_nonempty := by decide +kernel

/-- Sweeps over this relay record a number all the same. -/
theorem overflowingRelay_swept :
    RelayProblem.dispatcher.Assembled (RelayProblem.stock (R := Float)) ∧
    SolverId.relayGaussSeidel ≠ .relayLatin ∧
    ∃ run, (RelayProblem.dispatcher.solve overflowingRelay (.ofSolver .relayGaussSeidel)
        none).value.result = .ok run ∧ Scalar.isFinite run.residual = true := by
  have hrecords := (recorded_residuals_finite (.ofSolver .relayGaussSeidel) none).2
    RelayProblem.dispatcher .full overflowingRelay
  have hrun : (RelayProblem.dispatcher.solve overflowingRelay (.ofSolver .relayGaussSeidel)
      none).value.result.toOption.map (·.iterations) = some 1 := by
    decide +kernel
  obtain ⟨run, hresult, -⟩ := exists_of_toOption_map hrun
  exact ⟨.full, nofun, run, hresult, (hrecords run hresult (.inl nofun)).2⟩

/-- The LATIN method divides one infinite number by another, and records the outcome. -/
theorem overflowingRelay_undefined :
    ∃ run, (RelayProblem.dispatcher.solve overflowingRelay (.ofSolver .relayLatin)
        none).value.result = .ok run ∧
      (RelayProblem.dispatcher.solve overflowingRelay (.ofSolver .relayLatin)
        none).value.tree.root.real? .residual = some run.residual ∧
      run.status = .notConverged ∧ Scalar.isFinite run.residual = false := by
  have hrun : (RelayProblem.dispatcher.solve overflowingRelay (.ofSolver .relayLatin)
      none).value.result.toOption.map (fun run => (run.status, Scalar.isFinite run.residual)) =
        some (.notConverged, false) := by
    decide +kernel
  obtain ⟨run, hresult, hsummary⟩ := exists_of_toOption_map hrun
  obtain ⟨hstatus, hfinite⟩ := Prod.mk.inj hsummary
  exact ⟨run, hresult, Dispatcher.residual_solve hresult, hstatus, hfinite⟩

end Complementarity
