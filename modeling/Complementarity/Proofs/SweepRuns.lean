import Complementarity.Friction.Tresca
import Complementarity.Proofs.MeasuredRuns

/-!
Gauss-Seidel runs in space, and the Tresca method around them.

Three things make these runs different from the others: a sweep can leave the domain or stop at a
degenerate contact, light evaluation leaves the velocity behind, and the Tresca method measures
another error than the sweeps inside it. The lemmas here say what one sweep, one run of sweeps and
one outer iteration yield in each case; all later statements go through them.
-/

namespace Complementarity.FrictionProblem

variable {R : Type} [Scalar R] (problem : FrictionProblem R)

/-! ### What a step and a run yield -/

theorem value_sweepStep (params : SweepParams R) (solver : ContactSolver R)
    (thresholds? : Option (List R)) (progress : Progress (Residual R) (SweepState R problem.size)) :
    (problem.sweepStep params solver thresholds? progress).value =
      match (problem.sweepContacts params.relaxation solver thresholds?
        (List.finRange problem.contacts) ⟨progress.state.candidate.reaction, 0⟩).value with
      | .error (.fault fault) => .error (.fault fault)
      | .error (.degenerate _ r) =>
        .error <| .degenerate <| Candidate.ending ⟨r, problem.velocity r⟩
          { status := .degenerateInput, iterations := progress.iterations + 1, residual := 0 }
      | .ok swept =>
        let measured :=
          problem.sweepError params thresholds? progress.state.candidate.velocity swept
        .ok (.measured measured.1, measured.2) := by
  simp only [sweepStep, Traced.value_bind]
  generalize (problem.sweepContacts params.relaxation solver thresholds?
    (List.finRange problem.contacts) ⟨progress.state.candidate.reaction, 0⟩).value = swept
  rcases swept with (_ | _) | _ <;> rfl

/-- Where the sweeps start: nothing is measured, and the velocity may be anything. -/
def sweepStart {n : Nat} (start : Candidate R n) : Progress (Residual R) (SweepState R n) :=
  { iterations := 0, error := .unmeasured, state := { candidate := start, current := false } }

/-- The candidate that sweeps end with: a velocity left behind is computed anew. -/
def sweepCandidate (state : SweepState R problem.size) : Candidate R problem.size :=
  ⟨state.candidate.reaction,
    if state.current then state.candidate.velocity else problem.velocity state.candidate.reaction⟩

theorem value_gaussSeidel (params : SweepParams R) (solver : ContactSolver R)
    (thresholds? : Option (List R)) (start : Candidate R problem.size) :
    (problem.gaussSeidel params solver thresholds? start).value =
      match Progress.final (Residual.Exceeds params.tolerance)
        (problem.sweepStep params solver thresholds?) params.iterationCap (sweepStart start) with
      | .error (.fault fault) => .error fault
      | .error (.degenerate run) => .ok run
      | .ok ended => .ok ((problem.sweepCandidate ended.state).ending
          (ended.error.outcome params.tolerance ended.iterations)) := by
  simp only [gaussSeidel, Traced.value_bind, Progress.value_iterate]
  rw [← sweepStart]
  generalize Progress.final (Residual.Exceeds params.tolerance)
    (problem.sweepStep params solver thresholds?) params.iterationCap (sweepStart start) = answer
  rcases answer with (_ | _) | _ <;> rfl

theorem value_trescaStep (params : TrescaParams R)
    (progress : Progress (Residual R) (TrescaState R problem.size)) :
    (problem.trescaStep params progress).value =
      let innerTolerance := innerToleranceAfter params progress.error progress.state.innerTolerance
      match (problem.gaussSeidel { params.inner with tolerance := innerTolerance } params.solver
        (some (problem.thresholdsAt progress.state.candidate.reaction))
        progress.state.candidate).value with
      | .error fault => .error (.fault fault)
      | .ok run =>
        if run.status = .degenerateInput then
          .error <| .degenerate <| run.toCandidate.ending
            { status := .degenerateInput, iterations := progress.iterations + 1, residual := 0 }
        else
          .ok (.measured (problem.error run.reaction),
            { candidate := ⟨run.reaction, problem.velocity run.reaction⟩, innerTolerance
              innerIterations := progress.state.innerIterations + .ofNat run.iterations }) := by
  simp only [trescaStep, Traced.value_bind]
  generalize (problem.gaussSeidel _ params.solver _ _).value = answer
  rcases answer with fault | run
  · rfl
  · by_cases h : run.status = .degenerateInput
    · simp only [if_pos h]; rfl
    · simp only [if_neg h]; rfl

/-- Where the outer iterations start. -/
def trescaStart {n : Nat} (params : TrescaParams R) (start : Candidate R n) :
    Progress (Residual R) (TrescaState R n) :=
  { iterations := 0, error := .unmeasured
    state := { candidate := start, innerTolerance := params.inner.tolerance
               innerIterations := 0 } }

theorem value_trescaFixedPoint (params : TrescaParams R) (start : Candidate R problem.size) :
    (problem.trescaFixedPoint params start).value =
      match Progress.final (Residual.Exceeds params.tolerance) (problem.trescaStep params)
        params.iterationCap (trescaStart params start) with
      | .error (.fault fault) => .error fault
      | .error (.degenerate run) => .ok run
      | .ok ended =>
        .ok ((problem.settleVelocity ended.iterations ended.state.candidate).ending
          (ended.error.outcome params.tolerance ended.iterations)) := by
  simp only [trescaFixedPoint, Traced.value_bind, Progress.value_iterate]
  rw [← trescaStart]
  generalize Progress.final (Residual.Exceeds params.tolerance) (problem.trescaStep params)
    params.iterationCap (trescaStart params start) = answer
  rcases answer with (_ | _) | _ <;> rfl

section Ends

variable {problem} {thresholds? : Option (List R)} {start : Candidate R problem.size}
  {halt : Halt R problem.size}

/-- What a run returns when its loop gives up. -/
def Halt.result {n : Nat} : Halt R n → Except Fault (Run R n)
  | .fault cause => .error cause
  | .degenerate run => .ok run

omit [Scalar R] in
theorem Halt.eq_degenerate {n : Nat} {halt : Halt R n} {run : Run R n} (h : halt.result = .ok run) :
    halt = .degenerate run := by
  cases halt with
  | fault cause => cases h
  | degenerate run' => rw [Except.ok.inj h]

theorem gaussSeidel_of_final {params : SweepParams R} {solver : ContactSolver R}
    {ended : Progress (Residual R) (SweepState R problem.size)}
    (h : Progress.final (Residual.Exceeds params.tolerance)
      (problem.sweepStep params solver thresholds?) params.iterationCap (sweepStart start) =
        .ok ended) :
    (problem.gaussSeidel params solver thresholds? start).value =
      .ok ((problem.sweepCandidate ended.state).ending
        (ended.error.outcome params.tolerance ended.iterations)) := by
  rw [value_gaussSeidel, h]

theorem gaussSeidel_of_halt {params : SweepParams R} {solver : ContactSolver R}
    (h : Progress.final (Residual.Exceeds params.tolerance)
      (problem.sweepStep params solver thresholds?) params.iterationCap (sweepStart start) =
        .error halt) :
    (problem.gaussSeidel params solver thresholds? start).value = halt.result := by
  rw [value_gaussSeidel, h]
  cases halt <;> rfl

theorem trescaFixedPoint_of_final {params : TrescaParams R}
    {ended : Progress (Residual R) (TrescaState R problem.size)}
    (h : Progress.final (Residual.Exceeds params.tolerance) (problem.trescaStep params)
      params.iterationCap (trescaStart params start) = .ok ended) :
    (problem.trescaFixedPoint params start).value =
      .ok ((problem.settleVelocity ended.iterations ended.state.candidate).ending
        (ended.error.outcome params.tolerance ended.iterations)) := by
  rw [value_trescaFixedPoint, h]

theorem trescaFixedPoint_of_halt {params : TrescaParams R}
    (h : Progress.final (Residual.Exceeds params.tolerance) (problem.trescaStep params)
      params.iterationCap (trescaStart params start) = .error halt) :
    (problem.trescaFixedPoint params start).value = halt.result := by
  rw [value_trescaFixedPoint, h]
  cases halt <;> rfl

end Ends

/-! ### Runs that give up -/

variable {problem} in
/-- The run that a degenerate contact ends in the given iteration. -/
structure GivesUp (count : Nat) (run : Run R problem.size) : Prop where
  status_eq : run.status = .degenerateInput
  iterations_eq : run.iterations = count
  residual_eq : run.residual = 0
  settled : problem.IsSettled run.toCandidate

variable {problem} {params : SweepParams R} {solver : ContactSolver R}
  {thresholds? : Option (List R)} {start : Candidate R problem.size} {run : Run R problem.size}

theorem givesUp_of_sweepStep {progress : Progress (Residual R) (SweepState R problem.size)}
    (h : (problem.sweepStep params solver thresholds? progress).value = .error (.degenerate run)) :
    GivesUp (progress.iterations + 1) run := by
  rw [value_sweepStep] at h
  split at h
  · cases h
  · cases h
    exact ⟨rfl, rfl, rfl, rfl⟩
  · cases h

/-! ### What sweeps know -/

/-- The error that sweeps measure: with respect to fixed thresholds if there are any. -/
def errorWith (problem : FrictionProblem R) (thresholds? : Option (List R))
    (r : Vec R problem.size) : R :=
  (problem.measureWith thresholds? r).1

theorem measureWith_eq (thresholds? : Option (List R)) (r : Vec R problem.size) :
    problem.measureWith thresholds? r =
      (problem.errorWith thresholds? r, ⟨r, problem.velocity r⟩) := by
  cases thresholds? <;> rfl

@[simp] theorem reaction_sweepError (params : SweepParams R) (thresholds? : Option (List R))
    (stale : Vec R problem.size) (swept : Swept R problem.size) :
    (problem.sweepError params thresholds? stale swept).2.candidate.reaction = swept.reaction := by
  simp only [sweepError, measureWith_eq]
  split <;> rfl

/-- What a sweep that succeeds leads to. -/
theorem exists_sweepError_of_sweepStep
    {progress : Progress (Residual R) (SweepState R problem.size)}
    {outcome : Residual R × SweepState R problem.size}
    (h : (problem.sweepStep params solver thresholds? progress).value = .ok outcome) :
    ∃ swept, (problem.sweepContacts params.relaxation solver thresholds?
        (List.finRange problem.contacts) ⟨progress.state.candidate.reaction, 0⟩).value =
          .ok swept ∧
      outcome =
        let measured :=
          problem.sweepError params thresholds? progress.state.candidate.velocity swept
        (.measured measured.1, measured.2) := by
  rw [value_sweepStep] at h
  split at h
  · cases h
  · cases h
  · rename_i swept hswept
    exact ⟨swept, hswept, (Except.ok.inj h).symm⟩

/-- A sweep that succeeds leads to the reaction that its updates make of the one before. -/
theorem exists_swept_of_sweepStep {progress : Progress (Residual R) (SweepState R problem.size)}
    {outcome : Residual R × SweepState R problem.size}
    (h : (problem.sweepStep params solver thresholds? progress).value = .ok outcome) :
    ∃ swept, (problem.sweepContacts params.relaxation solver thresholds?
        (List.finRange problem.contacts) ⟨progress.state.candidate.reaction, 0⟩).value =
          .ok swept ∧ outcome.2.candidate.reaction = swept.reaction := by
  obtain ⟨swept, hswept, rfl⟩ := exists_sweepError_of_sweepStep h
  exact ⟨swept, hswept, reaction_sweepError _ _ _ _⟩

/-- Where sweeps stand between two iterations. A velocity that is up to date comes with the error
of the problem; one left behind comes with a change that was too large to look further. -/
structure SweepsMeasured (problem : FrictionProblem R) (params : SweepParams R)
    (thresholds? : Option (List R)) (progress : Progress (Residual R) (SweepState R problem.size)) :
    Prop where
  error_eq : progress.state.current = true →
    progress.error = .measured (problem.errorWith thresholds? progress.state.candidate.reaction)
  settled : progress.state.current = true → problem.IsSettled progress.state.candidate
  change_gt : progress.state.current = false → 0 < progress.iterations →
    ¬progress.error.AtMost params.tolerance

/-- One sweep leaves its state measured, whatever it started from. -/
theorem sweepStep_measured {progress : Progress (Residual R) (SweepState R problem.size)}
    {outcome : Residual R × SweepState R problem.size}
    (h : (problem.sweepStep params solver thresholds? progress).value = .ok outcome) :
    problem.SweepsMeasured params thresholds? (progress.next outcome) := by
  rw [value_sweepStep] at h
  rcases hsweep : (problem.sweepContacts params.relaxation solver thresholds?
    (List.finRange problem.contacts) ⟨progress.state.candidate.reaction, 0⟩).value with
      (_ | _) | swept
  · rw [hsweep] at h; cases h
  · rw [hsweep] at h; cases h
  · rw [hsweep] at h
    obtain rfl := Except.ok.inj h
    simp only [sweepError, measureWith_eq, Progress.next]
    -- the sweep has looked at the error, or its change was larger than the tolerance
    by_cases hlook : params.evaluation = .full ∨ relativeChange swept ≤ params.tolerance
    · rw [if_pos hlook]
      refine ⟨fun _ => rfl, fun _ => rfl, fun hcurrent => ?_⟩
      cases hcurrent
    · rw [if_neg hlook]
      refine ⟨fun hcurrent => ?_, fun hcurrent => ?_, fun _ _ hle => hlook (.inr hle)⟩
      · cases hcurrent
      · cases hcurrent

theorem sweepsMeasured_of_reaches {due : Residual R → Prop}
    {ended : Progress (Residual R) (SweepState R problem.size)}
    (reached : Progress.Reaches due (problem.sweepStep params solver thresholds?) (sweepStart start)
      ended) :
    problem.SweepsMeasured params thresholds? ended := by
  refine reached.preserves (problem.SweepsMeasured params thresholds?) ⟨nofun, nofun, ?_⟩ ?_
  · exact fun _ h0 => absurd h0 (Nat.lt_irrefl 0)
  · exact fun _ _ _ _ hok => sweepStep_measured hok

/-- Sweeps that count as converged have looked at the error: a change within the tolerance is never
the last word. -/
theorem SweepsMeasured.error_eq_of_atMost
    {progress : Progress (Residual R) (SweepState R problem.size)}
    (h : problem.SweepsMeasured params thresholds? progress) (hpos : 0 < progress.iterations)
    (hle : progress.error.AtMost params.tolerance) :
    progress.error =
      .measured (problem.errorWith thresholds? progress.state.candidate.reaction) := by
  cases hcurrent : progress.state.current with
  | true => exact h.error_eq hcurrent
  | false => exact absurd hle (h.change_gt hcurrent hpos)

theorem sweepCandidate_isSettled {progress : Progress (Residual R) (SweepState R problem.size)}
    (h : problem.SweepsMeasured params thresholds? progress) :
    problem.IsSettled (problem.sweepCandidate progress.state) := by
  unfold sweepCandidate IsSettled
  cases hcurrent : progress.state.current with
  | true => exact h.settled hcurrent
  | false => rfl

/-- A run of sweeps gives up at a degenerate contact or ends where its loop does. -/
theorem gaussSeidel_cases
    (h : (problem.gaussSeidel params solver thresholds? start).value = .ok run) :
    (∃ count ≤ params.iterationCap, GivesUp count run) ∨
    ∃ ended, Progress.final (Residual.Exceeds params.tolerance)
        (problem.sweepStep params solver thresholds?) params.iterationCap (sweepStart start) =
          .ok ended ∧
      run = (problem.sweepCandidate ended.state).ending
        (ended.error.outcome params.tolerance ended.iterations) := by
  rw [value_gaussSeidel] at h
  split at h
  · cases h
  · rename_i _ hfinal
    obtain rfl := Except.ok.inj h
    obtain ⟨progress, -, -, hlt, hstep⟩ := Progress.gives_up_of_final hfinal
    refine .inl ⟨progress.iterations + 1, ?_, givesUp_of_sweepStep hstep⟩
    simpa [sweepStart, Nat.succ_le_iff] using hlt
  · rename_i ended hfinal
    exact .inr ⟨ended, hfinal, (Except.ok.inj h).symm⟩

/-- Whichever way sweeps end, the velocity is the one of the reaction. -/
theorem gaussSeidel_isSettled
    (h : (problem.gaussSeidel params solver thresholds? start).value = .ok run) :
    problem.IsSettled run.toCandidate := by
  rcases gaussSeidel_cases h with ⟨_, -, hup⟩ | ⟨ended, hfinal, rfl⟩
  · exact hup.settled
  · exact sweepCandidate_isSettled
      (sweepsMeasured_of_reaches (Progress.ends_of_final hfinal).reached)

/-! ### What outer iterations know -/

variable {tresca : TrescaParams R}

theorem trescaStep_measures (tresca : TrescaParams R) :
    problem.Measures TrescaState.candidate (problem.trescaStep tresca) := by
  intro progress outcome hok
  rw [value_trescaStep] at hok
  dsimp only at hok
  split at hok
  · cases hok
  · split at hok
    · cases hok
    · cases hok
      exact ⟨rfl, rfl⟩

theorem givesUp_of_trescaStep {progress : Progress (Residual R) (TrescaState R problem.size)}
    (h : (problem.trescaStep tresca progress).value = .error (.degenerate run)) :
    GivesUp (progress.iterations + 1) run := by
  rw [value_trescaStep] at h
  dsimp only at h
  split at h
  · cases h
  · rename_i inner hinner
    split at h
    · cases h
      -- the vectors are handed on as the inner run left them
      have hsettled : problem.IsSettled inner.toCandidate := gaussSeidel_isSettled hinner
      exact ⟨rfl, rfl, rfl, hsettled⟩
    · cases h

/-- A run of the Tresca method gives up in an inner solve or ends where its loop does. -/
theorem trescaFixedPoint_cases (h : (problem.trescaFixedPoint tresca start).value = .ok run) :
    (∃ count ≤ tresca.iterationCap, GivesUp count run) ∨
    ∃ ended, Progress.final (Residual.Exceeds tresca.tolerance) (problem.trescaStep tresca)
        tresca.iterationCap (trescaStart tresca start) = .ok ended ∧
      run = (problem.settleVelocity ended.iterations ended.state.candidate).ending
        (ended.error.outcome tresca.tolerance ended.iterations) := by
  rw [value_trescaFixedPoint] at h
  split at h
  · cases h
  · rename_i _ hfinal
    obtain rfl := Except.ok.inj h
    obtain ⟨progress, -, -, hlt, hstep⟩ := Progress.gives_up_of_final hfinal
    refine .inl ⟨progress.iterations + 1, ?_, givesUp_of_trescaStep hstep⟩
    simpa [trescaStart, Nat.succ_le_iff] using hlt
  · rename_i ended hfinal
    exact .inr ⟨ended, hfinal, (Except.ok.inj h).symm⟩

/-- Whichever way the outer iterations end, the velocity is the one of the reaction. -/
theorem trescaFixedPoint_isSettled (h : (problem.trescaFixedPoint tresca start).value = .ok run) :
    problem.IsSettled run.toCandidate := by
  rcases trescaFixedPoint_cases h with ⟨_, -, hup⟩ | ⟨ended, hfinal, rfl⟩
  · exact hup.settled
  · exact problem.settleVelocity_isSettled
      ((trescaStep_measures tresca).isMeasured (Progress.ends_of_final hfinal).reached)

end Complementarity.FrictionProblem
