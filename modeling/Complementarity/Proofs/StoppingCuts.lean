import Complementarity.Proofs.ComparisonLaws
import Complementarity.Proofs.SweepDomain
import Complementarity.Proofs.RunFamilies
import Complementarity.Relay.Latin

/-!
What the cap and the tolerance decide, method by method.

For most methods the iterations read neither of the two, so that nothing is left to show but the laws of
comparisons by which an error that exceeds a tolerance exceeds every smaller one. Light evaluation does
look at the tolerance inside a sweep, and may then measure two different errors of one reaction. But
where it goes on with the larger tolerance, it goes on with the smaller one (`sweepError_exceeds`), and
the reactions are the same.
-/

namespace Complementarity

variable {R : Type} [Scalar R]

/-! ### Parameters -/

def ProjectionParams.stopping (params : ProjectionParams R) (stop : Stop R) : ProjectionParams R :=
  { params with iterationCap := stop.cap, tolerance := stop.tolerance }

def SweepParams.stopping (params : SweepParams R) (stop : Stop R) : SweepParams R :=
  { params with iterationCap := stop.cap, tolerance := stop.tolerance }

def TrescaParams.stopping (params : TrescaParams R) (stop : Stop R) : TrescaParams R :=
  { params with iterationCap := stop.cap, tolerance := stop.tolerance }

def RelaySweepParams.stopping (params : RelaySweepParams R) (stop : Stop R) : RelaySweepParams R :=
  { params with iterationCap := stop.cap, tolerance := stop.tolerance }

def LatinParams.stopping (params : LatinParams R) (stop : Stop R) : LatinParams R :=
  { params with iterationCap := stop.cap, tolerance := stop.tolerance }

/-! ### Families -/

/-- Runs of a loop that starts with nothing measured and never gives up. -/
def RunFamily.measuring {S : Type} {n : Nat} (loops : Prop) (candidate : S → Candidate R n)
    (advance : Stop R → Iteration R (Residual R) Empty S) (start : S) (run : Stop R → Run R n) :
    RunFamily R (Residual R) Empty S n where
  loops := loops
  due := Residual.Exceeds
  decideDue _ := inferInstance
  advance := advance
  start := ⟨0, .unmeasured, start⟩
  reaction state := (candidate state).reaction
  run stop := .ok (run stop)

/-- Such runs are cut by the two parameters if their iterations read neither and they return where their
loop ends. -/
theorem RunFamily.measuring_onlyCuts (hR : Scalar.ComparesInOrder R) {S : Type} {n : Nat}
    {candidate : S → Candidate R n} {advance : Stop R → Iteration R (Residual R) Empty S} {start : S}
    {run : Stop R → Run R n} {settle : Progress (Residual R) S → Candidate R n} {loops : Prop}
    (hloops : loops) (hadvance : ∀ stop stop', advance stop = advance stop')
    (hsettle : ∀ ended, (settle ended).reaction = (candidate ended.state).reaction)
    (hrun : ∀ stop, ∃ ended, Progress.final (Residual.Exceeds stop.tolerance) (advance stop) stop.cap
        ⟨0, .unmeasured, start⟩ = .ok ended ∧
      run stop = (settle ended).ending (ended.error.outcome stop.tolerance ended.iterations)) :
    (measuring loops candidate advance start run).OnlyCuts := by
  have hlooped : (measuring loops candidate advance start run).IsLooped Empty.elim
      fun tolerance ended =>
        (settle ended).ending (ended.error.outcome tolerance ended.iterations) := by
    refine
      { loops := hloops
        run_eq_giveUp := fun _ halt => halt.elim
        run_eq_ending := fun stop ended hended => ?_
        start_eq := rfl
        advance_eq := fun _ _ _ => hadvance _ _
        iterations_eq := fun _ _ => rfl
        reaction_eq := fun _ ended => hsettle ended
        not_due := fun tolerance ended hstatus => ?_
        giveUp_eq := fun _ _ halt => halt.elim }
    · obtain ⟨ended', hfinal, heq⟩ := hrun stop
      obtain rfl := Except.ok.inj (hended.symm.trans hfinal)
      exact congrArg Except.ok heq
    · exact Residual.not_exceeds_of_atMost hR (Residual.status_eq_converged.mp hstatus)
  exact hlooped.onlyCuts hadvance fun _ _ _ hle hdue => Residual.exceeds_of_le hR hle hdue

namespace FrictionProblem

variable (problem : FrictionProblem R)

section Families

variable (start : Candidate R problem.size)

def deSaxceRuns (params : ProjectionParams R) :=
  RunFamily.measuring True id (fun stop => problem.deSaxceStep (params.stopping stop)) start
    fun stop => (problem.deSaxceFixedPoint (params.stopping stop) start).value

def projectionRuns (params : ProjectionParams R) :=
  RunFamily.measuring True Stepping.candidate
    (fun stop => problem.projectionStep (params.stopping stop))
    (problem.firstStepping params start) fun stop =>
      (problem.fixedPointProjection (params.stopping stop) start).value

def extraGradientRuns (params : ProjectionParams R) :=
  RunFamily.measuring True Stepping.candidate
    (fun stop => problem.extraGradientStep (params.stopping stop))
    (problem.firstStepping params start) fun stop =>
      (problem.extraGradient (params.stopping stop) start).value

def hyperplaneRuns (params : ProjectionParams R) (relaxation : R) :=
  RunFamily.measuring True HyperplaneState.candidate
    (fun stop => problem.hyperplaneStep (params.stopping stop) relaxation) ⟨start, params.step⟩
    fun stop => (problem.hyperplaneProjection (params.stopping stop) relaxation start).value

def planarRuns (params : SweepParams R) :=
  RunFamily.measuring (problem.flatContact? = none) id
    (fun stop => problem.planarStep (params.stopping stop)) start fun stop =>
      (problem.planarGaussSeidel (params.stopping stop) start).value

def sweepRuns (params : SweepParams R) (solver : ContactSolver R) (thresholds? : Option (List R)) :
    RunFamily R (Residual R) (Halt R problem.size) (SweepState R problem.size) problem.size where
  loops := True
  due := Residual.Exceeds
  decideDue _ := inferInstance
  advance stop := problem.sweepStep (params.stopping stop) solver thresholds?
  start := sweepStart start
  reaction state := state.candidate.reaction
  run stop := (problem.gaussSeidel (params.stopping stop) solver thresholds? start).value

def trescaRuns (params : TrescaParams R) :
    RunFamily R (Residual R) (Halt R problem.size) (TrescaState R problem.size) problem.size where
  loops := True
  due := Residual.Exceeds
  decideDue _ := inferInstance
  advance stop := problem.trescaStep (params.stopping stop)
  start := trescaStart params start
  reaction state := state.candidate.reaction
  run stop := (problem.trescaFixedPoint (params.stopping stop) start).value

end Families

variable {problem} {start : Candidate R problem.size}

/-- The runs of a method that reads the two parameters at the head of its loop only. -/
theorem runMethod_onlyCuts (hR : Scalar.ComparesInOrder R) {S : Type}
    {candidate : S → Candidate R problem.size} {advance : Stop R → Iteration R (Residual R) Empty S}
    {first : S} (method : Method) (verbosity : UInt8)
    (hadvance : ∀ stop stop', advance stop = advance stop') :
    (RunFamily.measuring True candidate advance first fun stop =>
      (problem.runMethod method stop.cap stop.tolerance verbosity candidate (advance stop)
        first).value).OnlyCuts :=
  RunFamily.measuring_onlyCuts hR trivial hadvance
    (fun ended => problem.reaction_settleVelocity ended.iterations (candidate ended.state))
    fun stop => problem.exists_runMethod_eq method stop.cap stop.tolerance verbosity candidate
      (advance stop) first

theorem planarRuns_onlyCuts (hR : Scalar.ComparesInOrder R) (params : SweepParams R) :
    (problem.planarRuns start params).OnlyCuts := by
  cases hflat : problem.flatContact? with
  | some c =>
    have haborted (stop : Stop R) : (problem.planarRuns start params).run stop =
        .ok (start.ending (.aborted .degenerateInput)) := by
      simp only [planarRuns, RunFamily.measuring, planarGaussSeidel, hflat]
      rfl
    have hloops : ¬problem.flatContact? = none := by simp [hflat]
    exact RunFamily.onlyCuts_of_constant hloops haborted
  | none =>
    refine RunFamily.measuring_onlyCuts hR hflat (fun _ _ => rfl)
      (fun ended => problem.reaction_settleVelocity ended.iterations ended.state) fun stop => ?_
    unfold planarGaussSeidel
    rw [hflat]
    exact problem.exists_runMethod_eq .planarGaussSeidel stop.cap stop.tolerance params.verbosity id
      (problem.planarStep (params.stopping stop)) start

/-! ### Gauss-Seidel sweeps in space -/

/-- Two runs of sweeps have come to the same reaction by equally many of them. -/
structure SweepsAlike {n : Nat} (progress progress' : Progress (Residual R) (SweepState R n)) :
    Prop where
  iterations_eq : progress.iterations = progress'.iterations
  reaction_eq : progress.state.candidate.reaction = progress'.state.candidate.reaction

variable {solver : ContactSolver R} {thresholds? : Option (List R)}

/-- An error after a sweep that exceeds a tolerance does so with every smaller one, although the error
may be another one then: a change that is too large to look further with the smaller tolerance. -/
theorem sweepError_exceeds (hR : Scalar.ComparesInOrder R) (params : SweepParams R) {cap : Nat}
    {loose tight : R} (hle : tight ≤ loose) (stale stale' : Vec R problem.size)
    (swept : Swept R problem.size)
    (h : loose < (problem.sweepError (params.stopping ⟨cap, loose⟩) thresholds? stale swept).1) :
    tight < (problem.sweepError (params.stopping ⟨cap, tight⟩) thresholds? stale' swept).1 := by
  simp only [sweepError, SweepParams.stopping, measureWith_eq] at h ⊢
  by_cases htight : params.evaluation = .full ∨ relativeChange swept ≤ tight
  · -- both look at the error of the problem
    rw [if_pos (htight.imp_right fun hchange => hR.le_trans _ _ _ hchange hle)] at h
    rw [if_pos htight]
    exact hR.lt_of_le_of_lt _ _ _ hle h
  · rw [if_neg htight]
    by_cases hloose : params.evaluation = .full ∨ relativeChange swept ≤ loose
    · obtain ⟨hlight, hchange⟩ := not_or.mp htight
      have hdefined := hR.defined_of_le _ _ (hloose.resolve_left hlight)
      exact (hR.le_or_lt _ _ hdefined.1 (hR.defined_of_le _ _ hle).1).resolve_left hchange
    · rw [if_neg hloose] at h
      exact hR.lt_of_le_of_lt _ _ _ hle h

/-- A sweep makes the same of a reaction whatever stops the run. -/
theorem sweepStep_alike (params : SweepParams R) (stop stop' : Stop R) :
    Progress.Alike (problem.sweepStep (params.stopping stop) solver thresholds?)
      (problem.sweepStep (params.stopping stop') solver thresholds?) SweepsAlike where
  iterations_eq _ _ h := h.iterations_eq
  ok progress progress' outcome h hok := by
    obtain ⟨swept, hswept, rfl⟩ := exists_sweepError_of_sweepStep hok
    have hswept' : (problem.sweepContacts (params.stopping stop').relaxation solver thresholds?
        (List.finRange problem.contacts) ⟨progress'.state.candidate.reaction, 0⟩).value =
          .ok swept := by
      rw [← h.reaction_eq]
      exact hswept
    rw [value_sweepStep, hswept']
    refine ⟨_, rfl, congrArg (· + 1) h.iterations_eq, ?_⟩
    exact (reaction_sweepError _ _ _ _).trans (reaction_sweepError _ _ _ _).symm
  error progress progress' halt h herror := by
    rw [value_sweepStep] at herror
    rw [value_sweepStep, ← h.reaction_eq, ← h.iterations_eq]
    simp only [SweepParams.stopping] at herror ⊢
    cases hswept : (problem.sweepContacts params.relaxation solver thresholds?
        (List.finRange problem.contacts) ⟨progress.state.candidate.reaction, 0⟩).value with
    | error halt =>
      rw [hswept] at herror
      cases halt <;> exact herror
    | ok swept =>
      rw [hswept] at herror
      cases herror

theorem sweepRuns_isAlike (params : SweepParams R) (stop stop' : Stop R) :
    (problem.sweepRuns start params solver thresholds?).IsAlike stop stop' SweepsAlike where
  alike := sweepStep_alike params stop stop'
  start := ⟨rfl, rfl⟩
  reaction_eq _ _ h := h.reaction_eq

theorem sweepRuns_keepsStep (hR : Scalar.ComparesInOrder R) (params : SweepParams R) (cap : Nat)
    {loose tight : R} (hle : tight ≤ loose) :
    (problem.sweepRuns start params solver thresholds?).KeepsStep cap loose tight SweepsAlike where
  isAlike := sweepRuns_isAlike params _ _
  due_start hdue := by
    have hstart : (Residual.unmeasured : Residual R).Exceeds loose := hdue
    exact Residual.exceeds_of_le hR hle hstart
  due_next progress progress' outcome outcome' h hok hok' hdue := by
    obtain ⟨swept, hswept, rfl⟩ := exists_sweepError_of_sweepStep hok
    obtain ⟨swept', hswept', rfl⟩ := exists_sweepError_of_sweepStep hok'
    -- both errors are of one sweep
    rw [← h.reaction_eq] at hswept'
    obtain rfl := Except.ok.inj (hswept.symm.trans hswept')
    exact sweepError_exceeds hR params hle _ _ _ hdue

theorem sweepRuns_isLooped (hR : Scalar.ComparesInOrder R) (params : SweepParams R)
    (solver : ContactSolver R) (thresholds? : Option (List R)) :
    (problem.sweepRuns start params solver thresholds?).IsLooped Halt.result
      fun tolerance ended => (problem.sweepCandidate ended.state).ending
        (ended.error.outcome tolerance ended.iterations) where
  loops := trivial
  run_eq_giveUp stop halt hfinal := gaussSeidel_of_halt hfinal
  run_eq_ending stop ended hfinal := gaussSeidel_of_final hfinal
  start_eq := rfl
  advance_eq _ _ _ := rfl
  iterations_eq _ _ := rfl
  reaction_eq _ _ := rfl
  not_due _ _ hstatus :=
    Residual.not_exceeds_of_atMost hR (Residual.status_eq_converged.mp hstatus)
  giveUp_eq _ _ _ _ herror hgive := by
    rw [Halt.eq_degenerate hgive] at herror
    exact (givesUp_of_sweepStep herror).iterations_eq

theorem sweepRuns_onlyCuts (hR : Scalar.ComparesInOrder R) (params : SweepParams R)
    (solver : ContactSolver R) (thresholds? : Option (List R)) :
    (problem.sweepRuns start params solver thresholds?).OnlyCuts where
  toCapCuts := (sweepRuns_isLooped hR params solver thresholds?).capCuts
  toToleranceCuts :=
    (sweepRuns_isLooped hR params solver thresholds?).toleranceCuts (sweepRuns_isAlike params)
      fun cap _ _ hle => sweepRuns_keepsStep hR params cap hle

theorem trescaRuns_isLooped (hR : Scalar.ComparesInOrder R) (params : TrescaParams R) :
    (problem.trescaRuns start params).IsLooped Halt.result
      fun tolerance ended => (problem.settleVelocity ended.iterations ended.state.candidate).ending
        (ended.error.outcome tolerance ended.iterations) where
  loops := trivial
  run_eq_giveUp _ _ hfinal := trescaFixedPoint_of_halt hfinal
  run_eq_ending _ _ hfinal := trescaFixedPoint_of_final hfinal
  start_eq := rfl
  advance_eq _ _ _ := rfl
  iterations_eq _ _ := rfl
  reaction_eq _ ended := problem.reaction_settleVelocity ended.iterations ended.state.candidate
  not_due _ _ hstatus :=
    Residual.not_exceeds_of_atMost hR (Residual.status_eq_converged.mp hstatus)
  giveUp_eq _ _ _ _ herror hgive := by
    rw [Halt.eq_degenerate hgive] at herror
    exact (givesUp_of_trescaStep herror).iterations_eq

/-- Every method for frictional contact is cut by its parameters, with one exception: the inner solves of
the Tresca method follow the tolerance. In space the methods with inner solvers return a run whatever
the parameters; the others always do. -/
structure StoppingCuts (problem : FrictionProblem R) (start : Candidate R problem.size) : Prop where
  deSaxceFixedPoint (params : ProjectionParams R) : (problem.deSaxceRuns start params).OnlyCuts
  fixedPointProjection (params : ProjectionParams R) :
    (problem.projectionRuns start params).OnlyCuts
  extraGradient (params : ProjectionParams R) : (problem.extraGradientRuns start params).OnlyCuts
  hyperplaneProjection (params : ProjectionParams R) (relaxation : R) :
    (problem.hyperplaneRuns start params relaxation).OnlyCuts
  planarGaussSeidel (params : SweepParams R) : (problem.planarRuns start params).OnlyCuts
  gaussSeidel (params : SweepParams R) (solver : ContactSolver R) (thresholds? : Option (List R)) :
    (problem.sweepRuns start params solver thresholds?).OnlyCuts
  gaussSeidel_returns (params : SweepParams R) (solver : ContactSolver R)
    (thresholds? : Option (List R)) : problem.IsSweepable thresholds? →
      ∀ stop, ∃ run, (problem.sweepRuns start params solver thresholds?).run stop = .ok run
  trescaFixedPoint (params : TrescaParams R) : (problem.trescaRuns start params).CapCuts
  trescaFixedPoint_returns (params : TrescaParams R) : problem.tangents = 2 →
    ∀ stop, ∃ run, (problem.trescaRuns start params).run stop = .ok run

theorem stoppingCuts (hR : Scalar.ComparesInOrder R) (problem : FrictionProblem R)
    (start : Candidate R problem.size) : problem.StoppingCuts start where
  deSaxceFixedPoint params :=
    runMethod_onlyCuts hR .deSaxceFixedPoint params.verbosity fun _ _ => rfl
  fixedPointProjection params :=
    runMethod_onlyCuts hR .fixedPointProjection params.verbosity fun _ _ => rfl
  extraGradient params := runMethod_onlyCuts hR .extraGradient params.verbosity fun _ _ => rfl
  hyperplaneProjection params _ :=
    runMethod_onlyCuts hR .hyperplaneProjection params.verbosity fun _ _ => rfl
  planarGaussSeidel params := planarRuns_onlyCuts hR params
  gaussSeidel params solver thresholds? := sweepRuns_onlyCuts hR params solver thresholds?
  gaussSeidel_returns params solver _ hsweepable stop :=
    hsweepable.exists_gaussSeidel_eq_ok (params.stopping stop) solver start
  trescaFixedPoint params := (trescaRuns_isLooped hR params).capCuts
  trescaFixedPoint_returns params hspatial stop :=
    exists_trescaFixedPoint_eq_ok hspatial (params.stopping stop) start

end FrictionProblem

namespace RelayProblem

variable (problem : RelayProblem R)

def gaussSeidelRuns (params : RelaySweepParams R) :=
  RunFamily.measuring (problem.flatIndex? = none) id
    (fun stop => problem.sweepStep (params.stopping stop) problem.errorScale) (Candidate.zero _)
    fun stop => (problem.gaussSeidel (params.stopping stop)).value

/-- The way to solve with the matrix of the linear stage. Without a factor no linear stage is made. -/
def solveLinear (problem : RelayProblem R) (k : Vec R problem.size) :
    Vec R problem.size → Vec R problem.size :=
  match Triangle.factor? (problem.latinMatrix k) with
  | some factor => factor.solve
  | none => id

def latinRuns (params : LatinParams R) :
    RunFamily R R Empty (LatinState R problem.size) problem.size where
  loops := vanishingIndex? (problem.searchDirection params.scale) = none ∧
    ∃ factor, Triangle.factor? (problem.latinMatrix (problem.searchDirection params.scale)) =
      some factor
  due tolerance error := tolerance < error
  decideDue _ _ := inferInstance
  advance stop :=
    let k := problem.searchDirection params.scale
    problem.latinStep (params.stopping stop) k (problem.solveLinear k)
  start := ⟨0, 1, ⟨Candidate.zero _, Candidate.zero _⟩⟩
  reaction state := state.linear.reaction
  run stop := .ok (problem.latin (params.stopping stop)).value

variable {problem}

theorem gaussSeidelRuns_onlyCuts (hR : Scalar.ComparesInOrder R) (params : RelaySweepParams R) :
    (problem.gaussSeidelRuns params).OnlyCuts := by
  cases hflat : problem.flatIndex? with
  | some i =>
    have haborted (stop : Stop R) : (problem.gaussSeidelRuns params).run stop =
        .ok ((Candidate.zero _).ending (.aborted .degenerateInput)) := by
      simp only [gaussSeidelRuns, RunFamily.measuring, gaussSeidel, hflat]
      rfl
    have hloops : ¬problem.flatIndex? = none := by simp [hflat]
    exact RunFamily.onlyCuts_of_constant hloops haborted
  | none =>
    have hsettle (ended : Progress (Residual R) (Candidate R problem.size)) :
        ended.state.reaction = (id ended.state).reaction := rfl
    exact RunFamily.measuring_onlyCuts hR hflat (fun _ _ => rfl) hsettle fun stop =>
      exists_gaussSeidel_eq problem hflat (params.stopping stop)

/-- The summary of a run of the LATIN method, which reports its error as it is. -/
def latinOutcome {n : Nat} (tolerance : R) (ended : Progress R (LatinState R n)) : Outcome R :=
  { status := .ofError ended.error tolerance, iterations := ended.iterations
    residual := ended.error }

/-- With a usable direction and a factor, a run ends where its loop does. -/
theorem exists_latin_eq (params : LatinParams R) {factor : Triangle R problem.size}
    (hdirection : vanishingIndex? (problem.searchDirection params.scale) = none)
    (hfactor : Triangle.factor? (problem.latinMatrix (problem.searchDirection params.scale)) =
      some factor) :
    ∃ ended, Progress.final (params.tolerance < ·)
        (problem.latinStep params (problem.searchDirection params.scale) factor.solve)
        params.iterationCap ⟨0, 1, ⟨Candidate.zero _, Candidate.zero _⟩⟩ = .ok ended ∧
      (problem.latin params).value =
        ended.state.linear.ending (latinOutcome params.tolerance ended) := by
  unfold latin
  simp only [hdirection, hfactor]
  exact ⟨_, Progress.final_eq_settled _ _ _, rfl⟩

/-- A run ends before its first stage or where its loop does. -/
theorem latin_cases (problem : RelayProblem R) (params : LatinParams R) :
    (∃ status, (status = .degenerateInput ∨ status = .factorizationFailed) ∧
      (problem.latin params).value = (Candidate.zero _).ending (.aborted status)) ∨
    ∃ factor, vanishingIndex? (problem.searchDirection params.scale) = none ∧
      Triangle.factor? (problem.latinMatrix (problem.searchDirection params.scale)) =
        some factor ∧
      ∃ ended, Progress.final (params.tolerance < ·)
          (problem.latinStep params (problem.searchDirection params.scale) factor.solve)
          params.iterationCap ⟨0, 1, ⟨Candidate.zero _, Candidate.zero _⟩⟩ = .ok ended ∧
        (problem.latin params).value =
          ended.state.linear.ending (latinOutcome params.tolerance ended) := by
  cases hdirection : vanishingIndex? (problem.searchDirection params.scale) with
  | some i =>
    refine .inl ⟨.degenerateInput, .inl rfl, ?_⟩
    simp only [latin, hdirection]
    rfl
  | none =>
    cases hfactor : Triangle.factor?
        (problem.latinMatrix (problem.searchDirection params.scale)) with
    | none =>
      refine .inl ⟨.factorizationFailed, .inr rfl, ?_⟩
      simp only [latin, hdirection, hfactor]
      rfl
    | some factor => exact .inr ⟨factor, rfl, rfl, exists_latin_eq params hdirection hfactor⟩

theorem latinRuns_isLooped (hR : Scalar.ComparesInOrder R) {params : LatinParams R}
    {factor : Triangle R problem.size}
    (hdirection : vanishingIndex? (problem.searchDirection params.scale) = none)
    (hfactor : Triangle.factor? (problem.latinMatrix (problem.searchDirection params.scale)) =
      some factor) :
    (problem.latinRuns params).IsLooped Empty.elim fun tolerance ended =>
      ended.state.linear.ending (latinOutcome tolerance ended) where
  loops := ⟨hdirection, factor, hfactor⟩
  run_eq_giveUp _ halt := halt.elim
  run_eq_ending stop ended hended := by
    have hstopping : Progress.final (stop.tolerance < ·)
        (problem.latinStep (params.stopping stop) (problem.searchDirection params.scale) factor.solve)
        stop.cap ⟨0, 1, ⟨Candidate.zero _, Candidate.zero _⟩⟩ = .ok ended := by
      have hsolve : problem.solveLinear (problem.searchDirection params.scale) = factor.solve := by
        rw [solveLinear, hfactor]
      rw [← hsolve]
      exact hended
    obtain ⟨ended', hfinal, hrun⟩ := exists_latin_eq (params.stopping stop) hdirection hfactor
    obtain rfl := Except.ok.inj (hstopping.symm.trans hfinal)
    exact congrArg Except.ok hrun
  start_eq := rfl
  advance_eq _ _ _ := rfl
  iterations_eq _ _ := rfl
  reaction_eq _ _ := rfl
  not_due tolerance ended hstatus := by
    have hstatus : (Residual.measured ended.error).status tolerance = .converged := hstatus
    have hle : ended.error ≤ tolerance := Residual.status_eq_converged.mp hstatus
    exact hR.not_lt_of_le _ _ hle
  giveUp_eq _ _ halt := halt.elim

theorem latinRuns_onlyCuts (hR : Scalar.ComparesInOrder R) (params : LatinParams R) :
    (problem.latinRuns params).OnlyCuts := by
  cases hdirection : vanishingIndex? (problem.searchDirection params.scale) with
  | some i =>
    have haborted (stop : Stop R) : (problem.latinRuns params).run stop =
        .ok ((Candidate.zero _).ending (.aborted .degenerateInput)) := by
      simp only [latinRuns, latin, LatinParams.stopping, hdirection]
      rfl
    exact RunFamily.onlyCuts_of_constant (fun h => nomatch hdirection.symm.trans h.1) haborted
  | none =>
    cases hfactor : Triangle.factor?
        (problem.latinMatrix (problem.searchDirection params.scale)) with
    | none =>
      have haborted (stop : Stop R) : (problem.latinRuns params).run stop =
          .ok ((Candidate.zero _).ending (.aborted .factorizationFailed)) := by
        simp only [latinRuns, latin, LatinParams.stopping, hdirection, hfactor]
        rfl
      have hloops : ¬(problem.latinRuns params).loops := by
        rintro ⟨-, factor, hsome⟩
        exact nomatch hfactor.symm.trans hsome
      exact RunFamily.onlyCuts_of_constant hloops haborted
    | some factor =>
      exact (latinRuns_isLooped hR hdirection hfactor).onlyCuts (fun _ _ => rfl)
        fun _ _ _ hle hdue => hR.lt_of_le_of_lt _ _ _ hle hdue

/-- Both relay methods are cut by their parameters. -/
structure StoppingCuts (problem : RelayProblem R) : Prop where
  gaussSeidel (params : RelaySweepParams R) : (problem.gaussSeidelRuns params).OnlyCuts
  latin (params : LatinParams R) : (problem.latinRuns params).OnlyCuts

theorem stoppingCuts (hR : Scalar.ComparesInOrder R) (problem : RelayProblem R) :
    problem.StoppingCuts where
  gaussSeidel params := gaussSeidelRuns_onlyCuts hR params
  latin params := latinRuns_onlyCuts hR params

end RelayProblem

/-- At binary64, whatever the numbers, the cap and the tolerance of a run only choose where one sequence
of iterates is cut. -/
theorem stopping_only_cuts :
    (∀ (problem : FrictionProblem Float) (start : Candidate Float problem.size),
      problem.StoppingCuts start) ∧
    ∀ problem : RelayProblem Float, problem.StoppingCuts :=
  ⟨fun problem start => problem.stoppingCuts Binary64.comparesInOrder start,
    fun problem => problem.stoppingCuts Binary64.comparesInOrder⟩

end Complementarity
