import Complementarity.Dispatch.Stock
import Complementarity.Proofs.DegenerateContacts
import Complementarity.Proofs.LoopEvents

/-!
What a verbosity does to a run.

Two runs of a method that differ in verbosity only are compared with one relation: the values are the
same, and whatever the first one reports is meant for readers at its verbosity
(`Traced.OnlyLogs`). The relation passes through sequencing and through loops, so it follows the text
of each method. Warnings and traces are for every reader, and so are the silent events.
-/

namespace Complementarity

variable {R A B : Type}

/-! ### Readers -/

/-- Who hears of the event: of results a reader at verbosity 1 or more, of iterations one at 2 or
more. -/
structure Event.HeardAt (verbosity : UInt8) (event : Event R) : Prop where
  info : event.level? = some .info → 0 < verbosity
  debug : event.level? = some .debug → 1 < verbosity

namespace Traced

variable {verbosity : UInt8}

/-- A reader at the verbosity hears of every event. -/
def HeardAt (verbosity : UInt8) (run : Traced R A) : Prop :=
  ∀ event ∈ run.events, event.HeardAt verbosity

namespace HeardAt

theorem pure (a : A) : HeardAt verbosity (Pure.pure a : Traced R A) :=
  Reports.pure a

theorem bind {first : Traced R A} {next : A → Traced R B} (hfirst : first.HeardAt verbosity)
    (hnext : ∀ a, (next a).HeardAt verbosity) : (first >>= next).HeardAt verbosity :=
  Reports.bind hfirst hnext

theorem map {run : Traced R A} (f : A → B) (h : run.HeardAt verbosity) :
    (f <$> run).HeardAt verbosity :=
  Reports.map f h

theorem report {event : Event R} (h : event.HeardAt verbosity) :
    (Traced.report event).HeardAt verbosity :=
  Reports.report h

theorem reportIf {condition : Bool} {event : Event R}
    (h : condition = true → event.HeardAt verbosity) :
    (Traced.reportIf condition event).HeardAt verbosity :=
  Reports.reportIf h

theorem iterate {E H S : Type} {due : E → Prop} [DecidablePred due] {advance : Iteration R E H S}
    (hadvance : ∀ progress, (advance progress).HeardAt verbosity) (cap : Nat)
    (start : Progress E S) : (Progress.iterate due advance cap start).HeardAt verbosity :=
  Reports.iterate hadvance cap start

end HeardAt

/-! ### Runs that differ in their logs -/

/-- The runs have the same value, and the first one logs for readers at the verbosity only. -/
structure OnlyLogs (verbosity : UInt8) (talking quiet : Traced R A) : Prop where
  value_eq : talking.value = quiet.value
  heard : talking.HeardAt verbosity

namespace OnlyLogs

theorem refl {run : Traced R A} (h : run.HeardAt verbosity) : OnlyLogs verbosity run run :=
  ⟨rfl, h⟩

theorem pure (a : A) : OnlyLogs verbosity (Pure.pure a : Traced R A) (Pure.pure a) :=
  refl (.pure a)

theorem bind {talking quiet : Traced R A} {next next' : A → Traced R B}
    (h : OnlyLogs verbosity talking quiet) (hnext : ∀ a, OnlyLogs verbosity (next a) (next' a)) :
    OnlyLogs verbosity (talking >>= next) (quiet >>= next') where
  value_eq := by rw [value_bind, value_bind, h.value_eq, (hnext _).value_eq]
  heard := h.heard.bind fun a => (hnext a).heard

theorem map {talking quiet : Traced R A} (f : A → B) (h : OnlyLogs verbosity talking quiet) :
    OnlyLogs verbosity (f <$> talking) (f <$> quiet) where
  value_eq := congrArg f h.value_eq
  heard := h.heard.map f

theorem reportIf {condition condition' : Bool} {event event' : Event R}
    (h : condition = true → event.HeardAt verbosity) :
    OnlyLogs verbosity (Traced.reportIf condition event) (Traced.reportIf condition' event') :=
  ⟨rfl, .reportIf h⟩

/-- Loops whose iterations differ in their logs only do so themselves. -/
theorem iterate {E H S : Type} {due : E → Prop} [DecidablePred due]
    {advance advance' : Iteration R E H S}
    (hadvance : ∀ progress, OnlyLogs verbosity (advance progress) (advance' progress)) (cap : Nat)
    (start : Progress E S) :
    OnlyLogs verbosity (Progress.iterate due advance cap start)
      (Progress.iterate due advance' cap start) where
  value_eq := by
    rw [Progress.value_iterate, Progress.value_iterate]
    induction cap generalizing start with
    | zero => rfl
    | succ cap ih =>
      rw [Progress.final, Progress.final, (hadvance start).value_eq]
      simp only [ih]
  heard := .iterate (fun progress => (hadvance progress).heard) cap start

end OnlyLogs

end Traced

open Traced

/-! ### Methods -/

section Methods

variable [Scalar R] {verbosity bound : UInt8}

theorem onlyLogs_conclude (method : Method) (tolerance : R) (iterations : Nat) (error : Residual R)
    (hle : verbosity ≤ bound) :
    OnlyLogs bound (conclude method verbosity tolerance iterations error)
      (conclude method 0 tolerance iterations error) := by
  refine OnlyLogs.bind (.reportIf fun htalks => ?_) fun _ => .pure _
  exact ⟨fun _ => UInt8.lt_of_lt_of_le (of_decide_eq_true htalks) hle, nofun⟩

omit [Scalar R] in
/-- An iteration reports itself and then returns. -/
theorem onlyLogs_reported (method : Method) (count : Nat) (error : R) (step? : Option R)
    (hle : verbosity ≤ bound) (a : A) :
    OnlyLogs bound (do reportIteration method verbosity count error step?; return a)
      (do reportIteration method 0 count error step?; return a) := by
  refine OnlyLogs.bind (.reportIf fun htalks => ?_) fun _ => .pure _
  exact ⟨nofun, fun _ => UInt8.lt_of_lt_of_le (of_decide_eq_true htalks) hle⟩

/-! ### Single contacts -/

theorem ContactProblem.newtonStep_traces (params : NewtonParams R) (problem : ContactProblem R)
    (rho : Vec R 3) (progress : Progress R (NewtonState R)) :
    (problem.newtonStep params rho progress).Reports fun event => event.level? = some .trace := by
  refine .bind ?_ fun direction => .bind (.report rfl) fun _ => .pure _
  unfold newtonDirection
  dsimp only
  split
  · exact .pure _
  · exact .bind (.report rfl) fun _ => .pure _

/-- The solvers for single contacts report traces only. -/
theorem ContactSolver.IsStock.traces {solver : ContactSolver R} (h : solver.IsStock)
    (problem : ContactProblem R) (r : Block R 2) :
    (solver.solve problem r).Reports fun event => event.level? = some .trace := by
  cases h with
  | coneProjection | coneIteration | cylinderProjection => exact .pure _
  | newton params =>
    change (problem.newton params r).Reports _
    unfold ContactProblem.newton
    split
    · exact .pure _
    · exact .bind (.iterate (ContactProblem.newtonStep_traces params problem _) _ _) fun _ =>
        .pure _

/-- Traces are for every reader. -/
theorem ContactSolver.IsStock.heardAt {solver : ContactSolver R} (h : solver.IsStock)
    (problem : ContactProblem R) (r : Block R 2) : (solver.solve problem r).HeardAt verbosity :=
  (h.traces problem r).mono fun event htrace =>
    ⟨fun hinfo => by simp [htrace] at hinfo, fun hdebug => by simp [htrace] at hdebug⟩

/-! ### Sweeps and projections -/

namespace FrictionProblem

variable {problem : FrictionProblem R} {start : Candidate R problem.size}

theorem onlyLogs_runMethod {S : Type} {advance advance' : Iteration R (Residual R) Empty S}
    (hadvance : ∀ progress, OnlyLogs bound (advance progress) (advance' progress))
    (method : Method) (cap : Nat) (tolerance : R) (hle : verbosity ≤ bound)
    (candidate : S → Candidate R problem.size) (first : S) :
    OnlyLogs bound (problem.runMethod method cap tolerance verbosity candidate advance first)
      (problem.runMethod method cap tolerance 0 candidate advance' first) :=
  .bind (.iterate hadvance cap _) fun _ => .bind (onlyLogs_conclude method _ _ _ hle) fun _ =>
    .pure _

theorem onlyLogs_deSaxceFixedPoint {params : ProjectionParams R} (hle : params.verbosity ≤ bound) :
    OnlyLogs bound (problem.deSaxceFixedPoint params start)
      (problem.deSaxceFixedPoint { params with verbosity := 0 } start) :=
  onlyLogs_runMethod (fun _ => onlyLogs_reported _ _ _ _ hle _) _ _ _ hle _ _

theorem onlyLogs_fixedPointProjection {params : ProjectionParams R}
    (hle : params.verbosity ≤ bound) :
    OnlyLogs bound (problem.fixedPointProjection params start)
      (problem.fixedPointProjection { params with verbosity := 0 } start) :=
  onlyLogs_runMethod (fun _ => onlyLogs_reported _ _ _ _ hle _) _ _ _ hle _ _

theorem onlyLogs_extraGradient {params : ProjectionParams R} (hle : params.verbosity ≤ bound) :
    OnlyLogs bound (problem.extraGradient params start)
      (problem.extraGradient { params with verbosity := 0 } start) :=
  onlyLogs_runMethod (fun _ => onlyLogs_reported _ _ _ _ hle _) _ _ _ hle _ _

theorem onlyLogs_hyperplaneProjection {params : ProjectionParams R} (relaxation : R)
    (hle : params.verbosity ≤ bound) :
    OnlyLogs bound (problem.hyperplaneProjection params relaxation start)
      (problem.hyperplaneProjection { params with verbosity := 0 } relaxation start) :=
  onlyLogs_runMethod (fun _ => onlyLogs_reported _ _ _ _ hle _) _ _ _ hle _ _

theorem onlyLogs_planarGaussSeidel {params : SweepParams R} (hle : params.verbosity ≤ bound) :
    OnlyLogs bound (problem.planarGaussSeidel params start)
      (problem.planarGaussSeidel { params with verbosity := 0 } start) := by
  unfold planarGaussSeidel
  split
  · exact .refl (.bind (.report ⟨nofun, nofun⟩) fun _ => .pure _)
  · exact onlyLogs_runMethod (fun _ => onlyLogs_reported _ _ _ _ hle _) _ _ _ hle _ _

/-! ### Sweeps in space -/

theorem heardAt_settleContact (relaxation : R) (solver : SolverId) (c : Fin problem.contacts)
    (swept : Swept R problem.size) (old : Block R 2) (answer : ContactReport R × Block R 2) :
    (problem.settleContact relaxation solver c swept old answer).HeardAt bound := by
  unfold settleContact
  split
  · exact .bind (.report ⟨nofun, nofun⟩) fun _ => .pure _
  · exact .bind (.reportIf fun _ => ⟨nofun, nofun⟩) fun _ => .pure _

theorem heardAt_updateContact {solver : ContactSolver R} (hsolver : solver.IsStock)
    (relaxation : R) (thresholds? : Option (List R)) (c : Fin problem.contacts)
    (swept : Swept R problem.size) :
    (problem.updateContact relaxation solver thresholds? c swept).HeardAt bound := by
  unfold updateContact
  split
  · exact .pure _
  · split
    · exact .bind (.report ⟨nofun, nofun⟩) fun _ => .bind (hsolver.heardAt _ _) fun _ =>
        heardAt_settleContact _ _ _ _ _ _
    · exact .pure _

theorem heardAt_sweepContacts {solver : ContactSolver R} (hsolver : solver.IsStock)
    (relaxation : R) (thresholds? : Option (List R)) (contacts : List (Fin problem.contacts))
    (swept : Swept R problem.size) :
    (problem.sweepContacts relaxation solver thresholds? contacts swept).HeardAt bound := by
  induction contacts generalizing swept with
  | nil => exact .pure _
  | cons c rest ih =>
    refine .bind (heardAt_updateContact hsolver _ _ _ _) fun outcome => ?_
    cases outcome with
    | error halt => exact .pure _
    | ok swept => exact ih swept

theorem onlyLogs_sweepStep {params : SweepParams R} {solver : ContactSolver R}
    (hsolver : solver.IsStock) (hle : params.verbosity ≤ bound)
    (thresholds? : Option (List R)) (progress : Progress (Residual R) (SweepState R problem.size)) :
    OnlyLogs bound (problem.sweepStep params solver thresholds? progress)
      (problem.sweepStep { params with verbosity := 0 } solver thresholds? progress) := by
  refine .bind (.refl (heardAt_sweepContacts hsolver _ _ _ _)) fun outcome => ?_
  rcases outcome with (⟨_, r⟩ | fault) | swept
  · exact .pure _
  · exact .pure _
  · exact onlyLogs_reported _ _ _ _ hle _

theorem onlyLogs_gaussSeidel {params : SweepParams R} {solver : ContactSolver R}
    (hsolver : solver.IsStock) (hle : params.verbosity ≤ bound)
    (thresholds? : Option (List R)) (start : Candidate R problem.size) :
    OnlyLogs bound (problem.gaussSeidel params solver thresholds? start)
      (problem.gaussSeidel { params with verbosity := 0 } solver thresholds? start) := by
  refine .bind (.iterate (onlyLogs_sweepStep hsolver hle thresholds?) _ _) fun outcome => ?_
  rcases outcome with (run | fault) | ended
  · exact .pure _
  · exact .pure _
  · exact .bind (onlyLogs_conclude _ _ _ _ hle) fun _ => .pure _

/-! ### The Tresca method -/

/-- The parameters without a verbosity, neither outside nor inside. -/
def quietTresca (params : TrescaParams R) : TrescaParams R :=
  { params with verbosity := 0, inner := { params.inner with verbosity := 0 } }

theorem onlyLogs_trescaStep {params : TrescaParams R} (hsolver : params.solver.IsStock)
    (hle : params.verbosity ≤ bound) (hinner : params.inner.verbosity ≤ bound)
    (progress : Progress (Residual R) (TrescaState R problem.size)) :
    OnlyLogs bound (problem.trescaStep params progress)
      (problem.trescaStep (quietTresca params) progress) := by
  have hsweeps (tolerance : R) :
      ({ params.inner with tolerance } : SweepParams R).verbosity ≤ bound :=
    hinner
  refine .bind (.refl (.report ⟨nofun, nofun⟩)) fun _ => ?_
  refine .bind (onlyLogs_gaussSeidel hsolver (hsweeps _) _ _) fun outcome => ?_
  rcases outcome with fault | run
  · exact .pure _
  · dsimp only
    split
    · exact .pure _
    · refine .bind (.reportIf fun htalks => ?_) fun _ => .pure _
      exact ⟨nofun, fun _ => UInt8.lt_of_lt_of_le (of_decide_eq_true htalks) hle⟩

theorem onlyLogs_trescaFixedPoint {params : TrescaParams R} (hsolver : params.solver.IsStock)
    (hle : params.verbosity ≤ bound) (hinner : params.inner.verbosity ≤ bound) :
    OnlyLogs bound (problem.trescaFixedPoint params start)
      (problem.trescaFixedPoint (quietTresca params) start) := by
  refine .bind (.iterate (onlyLogs_trescaStep hsolver hle hinner) _ _) fun outcome => ?_
  rcases outcome with (run | fault) | ended
  · exact .pure _
  · exact .pure _
  · refine .bind (.reportIf fun htalks => ?_) fun _ => .pure _
    exact ⟨fun _ => UInt8.lt_of_lt_of_le (of_decide_eq_true htalks) hle, nofun⟩

end FrictionProblem

namespace RelayProblem

variable {problem : RelayProblem R}

theorem onlyLogs_gaussSeidel {params : RelaySweepParams R} (hle : params.verbosity ≤ bound) :
    OnlyLogs bound (problem.gaussSeidel params)
      (problem.gaussSeidel { params with verbosity := 0 }) := by
  unfold gaussSeidel
  split
  · exact .refl (.bind (.report ⟨nofun, nofun⟩) fun _ => .pure _)
  · exact .bind (.iterate (fun _ => onlyLogs_reported _ _ _ _ hle _) _ _) fun _ =>
      .bind (onlyLogs_conclude _ _ _ _ hle) fun _ => .pure _

theorem onlyLogs_latin {params : LatinParams R} (hle : params.verbosity ≤ bound) :
    OnlyLogs bound (problem.latin params) (problem.latin { params with verbosity := 0 }) := by
  unfold latin
  dsimp only
  split
  · exact .refl (.bind (.report ⟨nofun, nofun⟩) fun _ => .pure _)
  · split
    · exact .refl (.bind (.report ⟨nofun, nofun⟩) fun _ => .pure _)
    · exact .bind (.iterate (fun _ => onlyLogs_reported _ _ _ _ hle _) _ _) fun _ =>
        .bind (onlyLogs_conclude _ _ _ _ hle) fun _ => .pure _

end RelayProblem

end Methods

end Complementarity
