import Complementarity.Proofs.AdaptedSteps
import Complementarity.Proofs.LoopEvents

/-!
Velocities that are carried over.

Three methods do not evaluate the corrected velocity of the reaction they start an iteration from: it
is left over from the iteration before, or from the search in it. It is never out of date, however
often the search has rejected a step, and the same goes for the error of the repeated projection of
one contact. So each of them comes to the same end as a plain method that evaluates everything anew
at the head of each iteration (`carried_velocities_current`). No law of arithmetic is used.
-/

namespace Complementarity

variable {R : Type}

/-! ### Loops that carry less -/

theorem Traced.eq_of_parts {A : Type} {run other : Traced R A} (hvalue : run.value = other.value)
    (hevents : run.events = other.events) : run = other := by
  cases run
  cases other
  rw [mk.injEq]
  exact ⟨hvalue, hevents⟩

namespace Progress

variable {E H S T : Type}

/-- The position with less in its state. -/
def mapState (forget : S → T) (progress : Progress E S) : Progress E T :=
  { iterations := progress.iterations, error := progress.error, state := forget progress.state }

/-- As long as the invariant holds, the iterations of the second loop do and report the same as those
of the first one, without what is forgotten of its state. -/
structure Forgets (advance : Iteration R E H S) (plain : Iteration R E H T) (forget : S → T)
    (Inv : Progress E S → Prop) : Prop where
  step_eq (progress : Progress E S) : Inv progress → plain (progress.mapState forget) =
    ⟨(advance progress).value.map (Prod.map id forget), (advance progress).events⟩
  keeps (progress : Progress E S) (outcome : E × S) : Inv progress →
    (advance progress).value = .ok outcome → Inv (progress.next outcome)

namespace Forgets

variable {advance : Iteration R E H S} {plain : Iteration R E H T} {forget : S → T}
  {Inv : Progress E S → Prop} {due : E → Prop} {start progress : Progress E S}

/-- The invariant holds wherever the first loop comes. -/
theorem holds (h : Forgets advance plain forget Inv) (hstart : Inv start)
    (reached : Reaches due advance start progress) : Inv progress :=
  reached.preserves Inv hstart fun _ _ hinv _ hok => h.keeps _ _ hinv hok

variable [DecidablePred due]

theorem final_eq (h : Forgets advance plain forget Inv) (cap : Nat) (hstart : Inv start) :
    final due plain cap (start.mapState forget) =
      (final due advance cap start).map (mapState forget) := by
  induction cap generalizing start with
  | zero => rfl
  | succ cap ih =>
    rw [final, final, h.step_eq start hstart]
    by_cases hdue : due start.error
    · rw [if_pos hdue, if_pos (show due (start.mapState forget).error from hdue)]
      cases hok : (advance start).value with
      | error halt => rfl
      | ok outcome => exact ih (h.keeps start outcome hstart hok)
    · rw [if_neg hdue, if_neg (show ¬due (start.mapState forget).error from hdue)]
      rfl

theorem trail_eq (h : Forgets advance plain forget Inv) (cap : Nat) (hstart : Inv start) :
    trail due plain cap (start.mapState forget) = trail due advance cap start := by
  induction cap generalizing start with
  | zero => rfl
  | succ cap ih =>
    rw [trail, trail, h.step_eq start hstart]
    by_cases hdue : due start.error
    · rw [if_pos hdue, if_pos (show due (start.mapState forget).error from hdue)]
      cases hok : (advance start).value with
      | error halt => rfl
      | ok outcome => exact congrArg _ (ih (h.keeps start outcome hstart hok))
    · rw [if_neg hdue, if_neg (show ¬due (start.mapState forget).error from hdue)]

/-- The loop that carries less ends where the other one does, and reports the same on its way. -/
theorem iterate_eq (h : Forgets advance plain forget Inv) (cap : Nat) (hstart : Inv start) :
    iterate due plain cap (start.mapState forget) =
      ⟨(iterate due advance cap start).value.map (mapState forget),
        (iterate due advance cap start).events⟩ := by
  refine Traced.eq_of_parts ?_ ?_
  · rw [value_iterate, value_iterate]
    exact h.final_eq cap hstart
  · rw [events_iterate, events_iterate]
    exact h.trail_eq cap hstart

end Forgets

end Progress

variable [Scalar R]

/-! ### Methods on all contacts -/

namespace FrictionProblem

variable {problem : FrictionProblem R} {params : ProjectionParams R}

/-- A method that carries more than it needs runs like one that does not. -/
theorem runMethod_forget {S T : Type} {advance : Iteration R (Residual R) Empty S}
    {plain : Iteration R (Residual R) Empty T} {forget : S → T}
    {Inv : Progress (Residual R) S → Prop} (h : Progress.Forgets advance plain forget Inv)
    (method : Method) (cap : Nat) (tolerance : R) (verbosity : UInt8)
    (candidate : T → Candidate R problem.size) (first : S) (hfirst : Inv ⟨0, .unmeasured, first⟩) :
    problem.runMethod method cap tolerance verbosity candidate plain (forget first) =
      problem.runMethod method cap tolerance verbosity (candidate ∘ forget) advance first := by
  have hiterate : Progress.iterate (Residual.Exceeds tolerance) plain cap
      { iterations := 0, error := .unmeasured, state := forget first } = _ :=
    h.iterate_eq cap hfirst
  rw [runMethod, runMethod, hiterate]
  generalize Progress.iterate (Residual.Exceeds tolerance) advance cap _ = run
  obtain ⟨(halt | ended), events⟩ := run
  · exact halt.elim
  · rfl

/-- What a method with adapted steps has to carry along: the candidate and the step size. -/
structure Bare (R : Type) (n : Nat) where
  candidate : Candidate R n
  step : R

/-- A position without the corrected velocity. -/
def bare {n : Nat} (state : Stepping R n) : Bare R n :=
  ⟨state.candidate, state.step⟩

/-- One step of adapted size, from the corrected velocity of the reaction. -/
def projectionStepAnew (problem : FrictionProblem R) (params : ProjectionParams R) :
    Iteration R (Residual R) Empty (Bare R problem.size) := fun progress => do
  let r := progress.state.candidate.reaction
  let (step, trial) := problem.predict params r (problem.correctedVelocity r) progress.state.step
  let step := grow trial.ratio params.shrink step
  let (error, candidate) := problem.measure trial.point.reaction
  reportIteration .fixedPointProjection params.verbosity (progress.iterations + 1) error step
  return .ok (.measured error, { candidate, step })

/-- Projection steps of adapted size, with the corrected velocity evaluated in each iteration. -/
def fixedPointProjectionAnew (problem : FrictionProblem R) (params : ProjectionParams R)
    (start : Candidate R problem.size) : Traced R (Run R problem.size) :=
  problem.runMethod .fixedPointProjection params.iterationCap params.tolerance params.verbosity
    Bare.candidate (problem.projectionStepAnew params) ⟨start, params.step⟩

/-- One predictor and its corrector, from the corrected velocity of the reaction. -/
def extraGradientStepAnew (problem : FrictionProblem R) (params : ProjectionParams R) :
    Iteration R (Residual R) Empty (Bare R problem.size) := fun progress => do
  let r := progress.state.candidate.reaction
  let (step, trial) := problem.predict params r (problem.correctedVelocity r) progress.state.step
  let reaction := problem.projectedStep r step trial.point.velocity
  let step := grow trial.ratio params.shrink step
  let (error, candidate) := problem.measure reaction
  reportIteration .extraGradient params.verbosity (progress.iterations + 1) error step
  return .ok (.measured error, { candidate, step })

/-- Predictor and corrector steps, with the corrected velocity evaluated in each iteration. -/
def extraGradientAnew (problem : FrictionProblem R) (params : ProjectionParams R)
    (start : Candidate R problem.size) : Traced R (Run R problem.size) :=
  problem.runMethod .extraGradient params.iterationCap params.tolerance params.verbosity
    Bare.candidate (problem.extraGradientStepAnew params) ⟨start, params.step⟩

/-- The corrected velocity is the one of the reaction. -/
def CarriesOwn (problem : FrictionProblem R)
    (progress : Progress (Residual R) (Stepping R problem.size)) : Prop :=
  progress.state.corrected = problem.correctedVelocity progress.state.candidate.reaction

/-- A search hands on a predictor together with the corrected velocity there, whichever of its
trials was the last one. -/
theorem velocity_predict (problem : FrictionProblem R) (params : ProjectionParams R)
    (r f : Vec R problem.size) (step : R) :
    (problem.predict params r f step).2.point.velocity =
      problem.correctedVelocity (problem.predict params r f step).2.point.reaction := by
  obtain ⟨tried, -, hlast⟩ :=
    (searchStep_spec (problem.predictorTrial r f) params.coefficient params.shrink
      (P := fun _ => True) (fun _ _ => trivial) params.retries step trivial).2
  rw [predict, hlast]
  rfl

theorem projectionStep_forgets (problem : FrictionProblem R) (params : ProjectionParams R) :
    Progress.Forgets (problem.projectionStep params) (problem.projectionStepAnew params) bare
      problem.CarriesOwn where
  step_eq progress hcurrent := by
    obtain ⟨iterations, error, candidate, corrected, step⟩ := progress
    obtain rfl : corrected = problem.correctedVelocity candidate.reaction := hcurrent
    rfl
  keeps progress outcome hcurrent hok := by
    cases hok
    exact velocity_predict _ _ _ _ _

theorem extraGradientStep_forgets (problem : FrictionProblem R) (params : ProjectionParams R) :
    Progress.Forgets (problem.extraGradientStep params) (problem.extraGradientStepAnew params) bare
      problem.CarriesOwn where
  step_eq progress hcurrent := by
    obtain ⟨iterations, error, candidate, corrected, step⟩ := progress
    obtain rfl : corrected = problem.correctedVelocity candidate.reaction := hcurrent
    rfl
  keeps progress outcome hcurrent hok := by
    cases hok
    rfl

/-- Nothing that an adapted method carries along is out of date: wherever its iterations begin, the
corrected velocity is the one of the reaction, and its run is the one of the method that evaluates
that velocity in each iteration. -/
structure CarriesCurrent (problem : FrictionProblem R) (params : ProjectionParams R)
    (step : Iteration R (Residual R) Empty (Stepping R problem.size))
    (run anew : Candidate R problem.size → Traced R (Run R problem.size)) : Prop where
  corrected_eq (start : Candidate R problem.size)
      (progress : Progress (Residual R) (Stepping R problem.size)) :
    Progress.Reaches (Residual.Exceeds params.tolerance) step
      ⟨0, .unmeasured, problem.firstStepping params start⟩ progress →
    progress.state.corrected = problem.correctedVelocity progress.state.candidate.reaction
  run_eq (start : Candidate R problem.size) : run start = anew start

theorem fixedPointProjection_carriesCurrent (problem : FrictionProblem R)
    (params : ProjectionParams R) :
    problem.CarriesCurrent params (problem.projectionStep params)
      (problem.fixedPointProjection params) (problem.fixedPointProjectionAnew params) where
  corrected_eq _ _ := (projectionStep_forgets problem params).holds rfl
  run_eq start := (runMethod_forget (projectionStep_forgets problem params) _ _ _ _ Bare.candidate
    (problem.firstStepping params start) rfl).symm

theorem extraGradient_carriesCurrent (problem : FrictionProblem R)
    (params : ProjectionParams R) :
    problem.CarriesCurrent params (problem.extraGradientStep params)
      (problem.extraGradient params) (problem.extraGradientAnew params) where
  corrected_eq _ _ := (extraGradientStep_forgets problem params).holds rfl
  run_eq start := (runMethod_forget (extraGradientStep_forgets problem params) _ _ _ _
    Bare.candidate (problem.firstStepping params start) rfl).symm

end FrictionProblem

/-! ### The repeated projection of one contact -/

namespace ContactProblem

/-- What the repeated projection has to carry along: how often it has projected, the reaction and
the step size. -/
structure BareIterate (R : Type) where
  iterations : Nat
  reaction : Block R 2
  step : R

/-- One projection step of adapted size, from the corrected velocity of the reaction. -/
def coneStepAnew (params : ConeIterationParams R) (problem : ContactProblem R)
    (state : BareIterate R) : BareIterate R :=
  let (step, trial) :=
    searchStep (problem.coneTrial state.reaction (problem.correctedVelocity state.reaction))
      params.coefficient params.shrink params.retries state.step
  { iterations := state.iterations + 1, reaction := trial.point.1
    step := grow trial.ratio params.shrink step }

/-- Projects at most `cap` times, as long as the error of the reaction is too large. -/
def iterateConeAnewFrom (params : ConeIterationParams R) (problem : ContactProblem R) :
    Nat → BareIterate R → BareIterate R
  | 0, state => state
  | cap + 1, state =>
    if params.tolerance < problem.error state.reaction then
      iterateConeAnewFrom params problem cap (problem.coneStepAnew params state)
    else
      state

/-- Projections onto the cone with an adapted step size, with the error and the corrected velocity
evaluated in each iteration. -/
def iterateConeAnew (params : ConeIterationParams R) (problem : ContactProblem R)
    (r : Block R 2) : ContactReport R × Block R 2 :=
  if problem.normalDiagonal ≤ Scalar.diagonalThreshold then
    (.degenerate, r)
  else
    let ended := problem.iterateConeAnewFrom params params.iterationCap
      { iterations := 0, reaction := r, step := params.step / problem.normalDiagonal }
    let error := problem.error ended.reaction
    ({ status := .ofError error params.tolerance, iterations := ended.iterations, error },
      ended.reaction)

/-- Where the repeated projection starts. -/
def coneStart (params : ConeIterationParams R) (problem : ContactProblem R) (r : Block R 2) :
    Progress R (ConeIterate R) :=
  { iterations := 0, error := problem.error r
    state := { reaction := r, corrected := problem.correctedVelocity r
               step := params.step / problem.normalDiagonal } }

/-- The corrected velocity and the error are those of the reaction. -/
structure CarriesOwn (problem : ContactProblem R) (progress : Progress R (ConeIterate R)) :
    Prop where
  corrected_eq : progress.state.corrected = problem.correctedVelocity progress.state.reaction
  error_eq : progress.error = problem.error progress.state.reaction

variable {problem : ContactProblem R} {params : ConeIterationParams R}

theorem coneStep_carriesOwn {progress : Progress R (ConeIterate R)}
    {outcome : R × ConeIterate R} (hok : (problem.coneStep params progress).value = .ok outcome) :
    problem.CarriesOwn (progress.next outcome) := by
  cases hok
  refine ⟨?_, rfl⟩
  -- whichever trial was the last one, it comes with the corrected velocity of its reaction
  obtain ⟨tried, -, hlast⟩ :=
    (searchStep_spec (problem.coneTrial progress.state.reaction progress.state.corrected)
      params.coefficient params.shrink (P := fun _ => True) (fun _ _ => trivial) params.retries
      progress.state.step trivial).2
  simp only [Progress.next, hlast]
  rfl

theorem carriesOwn_of_reaches {due : R → Prop} {r : Block R 2}
    {progress : Progress R (ConeIterate R)}
    (reached : Progress.Reaches due (problem.coneStep params) (coneStart params problem r)
      progress) : problem.CarriesOwn progress :=
  reached.preserves problem.CarriesOwn ⟨rfl, rfl⟩ fun _ _ _ _ hok => coneStep_carriesOwn hok

/-- A position without what belongs to the reaction. -/
def bareIterate (progress : Progress R (ConeIterate R)) : BareIterate R :=
  ⟨progress.iterations, progress.state.reaction, progress.state.step⟩

theorem exists_coneStep_eq (params : ConeIterationParams R)
    {progress : Progress R (ConeIterate R)} (h : problem.CarriesOwn progress) :
    ∃ outcome, (problem.coneStep params progress).value = .ok outcome ∧
      bareIterate (progress.next outcome) = problem.coneStepAnew params (bareIterate progress) := by
  refine ⟨_, rfl, ?_⟩
  simp only [bareIterate, coneStepAnew, Progress.next, h.corrected_eq]

/-- From a position with its own velocity and error, the loop ends where the plain one does, again
with its own velocity and error. -/
theorem exists_final_coneStep_eq (params : ConeIterationParams R) (cap : Nat)
    {progress : Progress R (ConeIterate R)} (h : problem.CarriesOwn progress) :
    ∃ ended, Progress.final (params.tolerance < ·) (problem.coneStep params) cap progress =
        .ok ended ∧ problem.CarriesOwn ended ∧
      bareIterate ended = problem.iterateConeAnewFrom params cap (bareIterate progress) := by
  induction cap generalizing progress with
  | zero => exact ⟨progress, rfl, h, rfl⟩
  | succ cap ih =>
    have herror : progress.error = problem.error (bareIterate progress).reaction := h.error_eq
    rw [Progress.final, iterateConeAnewFrom, herror]
    by_cases hdue : params.tolerance < problem.error (bareIterate progress).reaction
    · obtain ⟨outcome, hok, hbare⟩ := exists_coneStep_eq params h
      rw [if_pos hdue, if_pos hdue, hok, ← hbare]
      exact ih (coneStep_carriesOwn hok)
    · rw [if_neg hdue, if_neg hdue]
      exact ⟨progress, rfl, h, rfl⟩

theorem iterateCone_eq_anew (problem : ContactProblem R) (params : ConeIterationParams R)
    (r : Block R 2) : problem.iterateCone params r = problem.iterateConeAnew params r := by
  have hstart : problem.CarriesOwn (coneStart params problem r) := ⟨rfl, rfl⟩
  obtain ⟨ended, hfinal, hown, hbare⟩ :=
    exists_final_coneStep_eq params params.iterationCap hstart
  have hended : settled (Progress.iterate (params.tolerance < ·) (problem.coneStep params)
      params.iterationCap (coneStart params problem r)).value = ended := by
    rw [Progress.value_iterate, hfinal]
    rfl
  have hanew : problem.iterateConeAnewFrom params params.iterationCap
      { iterations := 0, reaction := r, step := params.step / problem.normalDiagonal } =
        bareIterate ended := hbare.symm
  unfold iterateCone iterateConeAnew
  split
  · rfl
  · rw [coneStart] at hended
    dsimp only
    rw [hended, hanew, hown.error_eq]
    rfl

end ContactProblem

namespace FrictionProblem

/-- Where the pushed contact starts: at no reaction at all. -/
noncomputable def pushedStart : Progress (Residual ℝ) (Stepping ℝ pushedContact.size) :=
  ⟨0, .unmeasured, pushedContact.firstStepping (singleTrial 0.25) ⟨#v[0, 0, 0], #v[0, 0, 0]⟩⟩

/-- The only trial is rejected; the iteration goes on with it all the same, and with a shorter
step. -/
theorem pushedContact_exhausted :
    (pushedContact.projectionStep (singleTrial 0.25) pushedStart).value =
      .ok (.measured (pushedContact.error #v[0.5, 0, 0]),
        { candidate := ⟨#v[0.5, 0, 0], pushedContact.velocity #v[0.5, 0, 0]⟩
          corrected := #v[0.5 - 1, 0, 0], step := 0.25 }) := by
  have hgt : ¬(0.5 : ℝ) ≤ 0.25 := by norm_num
  have hshort : (0.5 : ℝ) * 0.5 = 0.25 := by norm_num
  have hadapted := pushedContact_adapted 0.25
  rw [if_neg hgt, hshort] at hadapted
  have hpredict : pushedContact.predict (singleTrial 0.25) pushedStart.state.candidate.reaction
      pushedStart.state.corrected pushedStart.state.step =
        (0.25, ⟨0.5, ⟨#v[0.5, 0, 0], #v[0.5 - 1, 0, 0]⟩⟩) := hadapted
  have hgrown : grow (0.5 : ℝ) (singleTrial 0.25).shrink 0.25 = 0.25 :=
    if_neg (by norm_num [growthRatio])
  simp only [projectionStep, hpredict, hgrown]
  rfl

end FrictionProblem

/-- Velocities that are carried over are never out of date. In the projection methods with adapted
steps and in the repeated projection of a contact, whatever was rejected on the way, the corrected
velocity carried to an iteration is the one of its reaction, and so is the error of the repeated
projection. So each method returns what it would return if it evaluated them in each iteration. -/
theorem carried_velocities_current (R : Type) [Scalar R] :
    (∀ (problem : FrictionProblem R) (params : ProjectionParams R),
      problem.CarriesCurrent params (problem.projectionStep params)
        (problem.fixedPointProjection params) (problem.fixedPointProjectionAnew params) ∧
      problem.CarriesCurrent params (problem.extraGradientStep params)
        (problem.extraGradient params) (problem.extraGradientAnew params)) ∧
    ∀ (problem : ContactProblem R) (params : ContactProblem.ConeIterationParams R)
      (r : Block R 2),
      (∀ progress, Progress.Reaches (params.tolerance < ·) (problem.coneStep params)
        (ContactProblem.coneStart params problem r) progress → problem.CarriesOwn progress) ∧
      problem.iterateCone params r = problem.iterateConeAnew params r :=
  ⟨fun problem params => ⟨FrictionProblem.fixedPointProjection_carriesCurrent problem params,
      FrictionProblem.extraGradient_carriesCurrent problem params⟩,
    fun problem params r => ⟨fun _ => ContactProblem.carriesOwn_of_reaches,
      ContactProblem.iterateCone_eq_anew problem params r⟩⟩

namespace FrictionProblem

/-- The pushed contact after a search that has run out: the corrected velocity is the one of the
rejected predictor, where the iteration has gone. -/
theorem pushedContact_carries :
    ∃ progress, Progress.Reaches (Residual.Exceeds 0)
        (pushedContact.projectionStep (singleTrial 0.25)) pushedStart progress ∧
      progress.iterations = 1 ∧ progress.state.candidate.reaction = #v[0.5, 0, 0] ∧
      progress.state.step = 0.25 ∧
      progress.state.corrected = pushedContact.correctedVelocity #v[0.5, 0, 0] := by
  have hcurrent := ((carried_velocities_current ℝ).1 pushedContact (singleTrial 0.25)).1
  have hreached := Progress.Reaches.start.next
    (Residual.exceeds_unmeasured (singleTrial 0.25).tolerance) pushedContact_exhausted
  exact ⟨_, hreached, rfl, rfl, rfl, hcurrent.corrected_eq _ _ hreached⟩

end FrictionProblem

end Complementarity
