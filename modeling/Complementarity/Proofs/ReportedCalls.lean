import Complementarity.Proofs.FixedThresholds
import Complementarity.Proofs.LoggedRuns

/-!
Which calls a run makes.

Beside its messages to readers, a run tells of every call of a solver for single contacts and of
every change of thresholds. Most methods make no such call. Sweeps call their own solver under the
thresholds they were given, and the Tresca method does so within its outer iterations: each fixes the
thresholds of the reaction it starts from, and then come its sweeps.
-/

namespace Complementarity

variable {R A : Type}

/-- The event is a message to a reader, so neither a call nor a change of thresholds. -/
def Event.IsMessage (event : Event R) : Prop :=
  event.level?.isSome = true

/-- What sweeps report: messages, and calls of their solver under their thresholds. -/
inductive Event.OfSweeps (solver : SolverId) (contacts : Nat) (thresholds? : Option (List R)) :
    Event R → Prop
  | message {event : Event R} (hmessage : event.IsMessage) :
      OfSweeps solver contacts thresholds? event
  | call (c : Fin contacts) {own : ContactProblem R}
      (hthreshold : FrictionProblem.thresholdAt thresholds? c = .ok own.threshold?) :
      OfSweeps solver contacts thresholds? (.contactCall solver c own)

namespace Event.OfSweeps

variable {solver : SolverId} {contacts : Nat} {thresholds? : Option (List R)}

theorem exists_of_call {solver' : SolverId} {contact : Nat} {own : ContactProblem R}
    (h : OfSweeps solver contacts thresholds? (.contactCall solver' contact own)) :
    solver' = solver ∧ ∃ c : Fin contacts, c.val = contact ∧
      FrictionProblem.thresholdAt thresholds? c = .ok own.threshold? := by
  cases h with
  | message hmessage => cases hmessage
  | call c hthreshold => exact ⟨rfl, c, rfl, hthreshold⟩

theorem ne_thresholdsFixed {event : Event R} (h : OfSweeps solver contacts thresholds? event)
    (reaction thresholds : List R) : event ≠ .thresholdsFixed reaction thresholds := by
  rintro rfl
  cases h with
  | message hmessage => cases hmessage

end Event.OfSweeps

open Traced

section Methods

variable [Scalar R]

/-! ### Messages -/

theorem conclude_messages (method : Method) (verbosity : UInt8) (tolerance : R) (iterations : Nat)
    (error : Residual R) :
    (conclude method verbosity tolerance iterations error).Reports Event.IsMessage :=
  .bind (.reportIf fun _ => rfl) fun _ => .pure _

omit [Scalar R] in
/-- An iteration reports itself and then returns. -/
theorem reported_messages (method : Method) (verbosity : UInt8) (count : Nat) (error : R)
    (step? : Option R) (a : A) :
    (do reportIteration method verbosity count error step?; return a : Traced R A).Reports
      Event.IsMessage :=
  .bind (.reportIf fun _ => rfl) fun _ => .pure _

namespace FrictionProblem

variable {problem : FrictionProblem R}

theorem runMethod_messages {S : Type} {advance : Iteration R (Residual R) Empty S}
    (hadvance : ∀ progress, (advance progress).Reports Event.IsMessage) (method : Method)
    (cap : Nat) (tolerance : R) (verbosity : UInt8)
    (candidate : S → Candidate R problem.size) (first : S) :
    (problem.runMethod method cap tolerance verbosity candidate advance first).Reports
      Event.IsMessage :=
  .bind (.iterate hadvance cap _) fun _ => .bind (conclude_messages _ _ _ _ _) fun _ => .pure _

theorem planarGaussSeidel_messages (params : SweepParams R) (start : Candidate R problem.size) :
    (problem.planarGaussSeidel params start).Reports Event.IsMessage := by
  unfold planarGaussSeidel
  split
  · exact .bind (.report rfl) fun _ => .pure _
  · exact runMethod_messages (fun _ => reported_messages _ _ _ _ _ _) _ _ _ _ _ _

omit [Scalar R] in
theorem withParams_messages {B : Type} {params? : Option A} {run : A → Traced R B}
    (hrun : ∀ params, (run params).Reports Event.IsMessage) :
    (withParams params? run).Reports Event.IsMessage := by
  cases params? with
  | none => exact .pure _
  | some params => exact .map _ (hrun params)

end FrictionProblem

namespace RelayProblem

variable (problem : RelayProblem R)

theorem gaussSeidel_messages (params : RelaySweepParams R) :
    (problem.gaussSeidel params).Reports Event.IsMessage := by
  unfold gaussSeidel
  split
  · exact .bind (.report rfl) fun _ => .pure _
  · exact .bind (.iterate (fun _ => reported_messages _ _ _ _ _ _) _ _) fun _ =>
      .bind (conclude_messages _ _ _ _ _) fun _ => .pure _

theorem latin_messages (params : LatinParams R) :
    (problem.latin params).Reports Event.IsMessage := by
  unfold latin
  dsimp only
  split
  · exact .bind (.report rfl) fun _ => .pure _
  · split
    · exact .bind (.report rfl) fun _ => .pure _
    · exact .bind (.iterate (fun _ => reported_messages _ _ _ _ _ _) _ _) fun _ =>
        .bind (conclude_messages _ _ _ _ _) fun _ => .pure _

end RelayProblem

/-! ### Sweeps -/

namespace FrictionProblem

variable {problem : FrictionProblem R} {solver : ContactSolver R}

omit [Scalar R] in
theorem isSome_of_thresholdAt {thresholds? : Option (List R)} {c : Nat} {threshold? : Option R}
    (h : thresholdAt thresholds? c = .ok threshold?) : threshold?.isSome = thresholds?.isSome := by
  unfold thresholdAt at h
  split at h
  · cases h; rfl
  · split at h <;> cases h
    rfl

theorem settleContact_messages (relaxation : R) (solver : SolverId) (c : Fin problem.contacts)
    (swept : Swept R problem.size) (old : Block R 2) (answer : ContactReport R × Block R 2) :
    (problem.settleContact relaxation solver c swept old answer).Reports Event.IsMessage := by
  unfold settleContact
  split
  · exact .bind (.report rfl) fun _ => .pure _
  · exact .bind (.reportIf fun _ => rfl) fun _ => .pure _

theorem updateContact_calls (hsolver : solver.IsStock) (relaxation : R)
    (thresholds? : Option (List R)) (c : Fin problem.contacts) (swept : Swept R problem.size) :
    (problem.updateContact relaxation solver thresholds? c swept).Reports
      (Event.OfSweeps solver.solver problem.contacts thresholds?) := by
  unfold updateContact
  split
  · exact .pure _
  · rename_i threshold? hthreshold
    split
    · refine .bind (.report (.call c hthreshold)) fun _ => .bind ?_ fun _ =>
        (settleContact_messages _ _ _ _ _ _).mono fun _ => .message
      refine (hsolver.traces _ _).mono fun event htrace => .message ?_
      rw [Event.IsMessage, htrace]
      rfl
    · exact .pure _

theorem sweepContacts_calls (hsolver : solver.IsStock) (relaxation : R)
    (thresholds? : Option (List R)) (contacts : List (Fin problem.contacts))
    (swept : Swept R problem.size) :
    (problem.sweepContacts relaxation solver thresholds? contacts swept).Reports
      (Event.OfSweeps solver.solver problem.contacts thresholds?) := by
  induction contacts generalizing swept with
  | nil => exact .pure _
  | cons c rest ih =>
    refine .bind (updateContact_calls hsolver _ _ _ _) fun outcome => ?_
    cases outcome with
    | error halt => exact .pure _
    | ok swept => exact ih swept

theorem sweepStep_calls (hsolver : solver.IsStock) (params : SweepParams R)
    (thresholds? : Option (List R))
    (progress : Progress (Residual R) (SweepState R problem.size)) :
    (problem.sweepStep params solver thresholds? progress).Reports
      (Event.OfSweeps solver.solver problem.contacts thresholds?) := by
  refine .bind (sweepContacts_calls hsolver _ _ _ _) fun outcome => ?_
  rcases outcome with (_ | _) | swept
  · exact .pure _
  · exact .pure _
  · exact (reported_messages _ _ _ _ _ _).mono fun _ => .message

/-- Sweeps call their own solver, under the thresholds they were given. -/
theorem gaussSeidel_calls (hsolver : solver.IsStock) (params : SweepParams R)
    (thresholds? : Option (List R)) (start : Candidate R problem.size) :
    (problem.gaussSeidel params solver thresholds? start).Reports
      (Event.OfSweeps solver.solver problem.contacts thresholds?) := by
  refine .bind (.iterate (sweepStep_calls hsolver params thresholds?) _ _) fun outcome => ?_
  rcases outcome with (_ | _) | ended
  · exact .pure _
  · exact .pure _
  · exact .bind ((conclude_messages _ _ _ _ _).mono fun _ => .message) fun _ => .pure _

/-! ### Outer iterations -/

/-- The threshold of a contact at a reaction. -/
def thresholdOf (problem : FrictionProblem R) (r : Stack R problem.contacts problem.tangents)
    (c : Fin problem.contacts) : R :=
  problem.friction.get c * Scalar.greater (r.block c).normal 0

/-- The event with which an outer iteration begins. -/
def fixing (problem : FrictionProblem R) (r : Vec R problem.size) : Event R :=
  .thresholdsFixed r.toList (problem.thresholdsAt r)

/-- An outer iteration fixes the thresholds of the reaction it starts from; all that follows is its
sweeps under them. -/
theorem exists_trescaStep_events {params : TrescaParams R} (hsolver : params.solver.IsStock)
    (progress : Progress (Residual R) (TrescaState R problem.size)) :
    ∃ inner, (problem.trescaStep params progress).events =
        problem.fixing progress.state.candidate.reaction :: inner ∧
      ∀ event ∈ inner, Event.OfSweeps params.solver.solver problem.contacts
        (some (problem.thresholdsAt progress.state.candidate.reaction)) event := by
  refine ⟨_, rfl, Reports.bind (gaussSeidel_calls hsolver _ _ _) fun outcome => ?_⟩
  rcases outcome with fault | run
  · exact .pure _
  · dsimp only
    split
    · exact .pure _
    · exact .bind (.reportIf fun _ => .message rfl) fun _ => .pure _

/-- The call is made in the outer iteration from a position, to which the method comes: that
iteration has fixed the thresholds of the reaction it starts from, and no others were fixed before
the call. -/
structure IsCalledIn (problem : FrictionProblem R) (params : TrescaParams R)
    (start : Candidate R problem.size) (before : List (Event R)) (call : Event R)
    (progress : Progress (Residual R) (TrescaState R problem.size)) : Prop where
  reached : Progress.Reaches (Residual.Exceeds params.tolerance) (problem.trescaStep params)
    (trescaStart params start) progress
  due : progress.error.Exceeds params.tolerance
  round : ∃ earlier inner rest,
    before = earlier ++ problem.fixing progress.state.candidate.reaction :: inner ∧
    (problem.trescaStep params progress).events =
      problem.fixing progress.state.candidate.reaction :: (inner ++ call :: rest) ∧
    ∀ reaction thresholds, .thresholdsFixed reaction thresholds ∉ inner

theorem IsCalledIn.append {params : TrescaParams R} {start : Candidate R problem.size}
    {before : List (Event R)} {call : Event R}
    {progress : Progress (Residual R) (TrescaState R problem.size)}
    (h : problem.IsCalledIn params start before call progress) (events : List (Event R)) :
    problem.IsCalledIn params start (events ++ before) call progress := by
  obtain ⟨hreached, hdue, earlier, inner, rest, rfl, hround⟩ := h
  exact ⟨hreached, hdue, events ++ earlier, inner, rest, (List.append_assoc ..).symm, hround⟩

/-- Whatever the outer iterations call, they call in one of them, under its thresholds. -/
theorem exists_isCalledIn {params : TrescaParams R} (hsolver : params.solver.IsStock)
    {start : Candidate R problem.size} {before after : List (Event R)} {solver : SolverId}
    {contact : Nat} {own : ContactProblem R}
    (h : (Progress.iterate (Residual.Exceeds params.tolerance) (problem.trescaStep params)
      params.iterationCap (trescaStart params start)).events =
        before ++ .contactCall solver contact own :: after) :
    solver = params.solver.solver ∧ ∃ (c : Fin problem.contacts) (progress : _),
      c.val = contact ∧
      problem.IsCalledIn params start before (.contactCall solver contact own) progress ∧
      thresholdAt (some (problem.thresholdsAt progress.state.candidate.reaction)) c =
        .ok own.threshold? := by
  obtain ⟨progress, earlier, front, rest, hreached, hdue, rfl, hevents⟩ :=
    Progress.exists_iteration h
  obtain ⟨inner, hround, hinner⟩ := exists_trescaStep_events hsolver progress
  rw [hround] at hevents
  -- the call is not the first event, which fixes the thresholds
  cases front with
  | nil => cases hevents
  | cons first inner' =>
    obtain ⟨rfl, rfl⟩ := List.cons.inj hevents
    obtain ⟨rfl, c, hc, hthreshold⟩ := (hinner _ List.mem_append_cons_self).exists_of_call
    refine ⟨rfl, c, progress, hc, ⟨hreached, hdue, earlier, inner', rest, rfl, hround, ?_⟩,
      hthreshold⟩
    intro reaction thresholds hmem
    exact (hinner _ (List.mem_append_left _ hmem)).ne_thresholdsFixed _ _ rfl

theorem thresholdAt_eq_thresholdOf (hspatial : problem.tangents = 2)
    {r : Vec R problem.size} {c : Fin problem.contacts} {threshold? : Option R}
    (h : thresholdAt (some (problem.thresholdsAt r)) c = .ok threshold?) :
    threshold? = some (problem.thresholdOf r c) := by
  have fits := problem.fits_of_spatial hspatial c
  rw [thresholdAt_thresholdsAt fits, normal_ownReaction hspatial] at h
  exact (Except.ok.inj h).symm

theorem exists_finRange_eq_cons {n : Nat} (h : 0 < n) :
    ∃ rest, List.finRange n = ⟨0, h⟩ :: rest := by
  cases n with
  | zero => exact absurd h (Nat.lt_irrefl 0)
  | succ n => exact ⟨_, List.finRange_succ⟩

/-- Sweeps that are made begin with a call for the first contact, as it stands at the start. -/
theorem gaussSeidel_callsFirst (params : SweepParams R) {thresholds? : Option (List R)}
    {threshold? : Option R} (hpos : 0 < problem.contacts) (fits : problem.Fits ⟨0, hpos⟩)
    (hcap : 0 < params.iterationCap) (hdue : Residual.unmeasured.Exceeds params.tolerance)
    (hthreshold : thresholdAt thresholds? 0 = .ok threshold?) (solver : ContactSolver R)
    (start : Candidate R problem.size) :
    [.contactCall solver.solver 0
      (problem.contactProblem ⟨0, hpos⟩ fits start.reaction threshold?)] <+:
      (problem.gaussSeidel params solver thresholds? start).events := by
  obtain ⟨rest, hrest⟩ := exists_finRange_eq_cons hpos
  let swept : Swept R problem.size := ⟨start.reaction, 0⟩
  have hupdate : [.contactCall solver.solver 0
      (problem.contactProblem ⟨0, hpos⟩ fits start.reaction threshold?)] <+:
      (problem.updateContact params.relaxation solver thresholds? ⟨0, hpos⟩ swept).events := by
    simp only [updateContact, hthreshold, dif_pos fits]
    exact List.prefix_append _ _
  have hsweep : (problem.updateContact params.relaxation solver thresholds? ⟨0, hpos⟩ swept).events
      <+: (problem.sweepContacts params.relaxation solver thresholds?
        (List.finRange problem.contacts) swept).events := by
    rw [hrest]
    exact List.prefix_append _ _
  have hstep : (problem.sweepContacts params.relaxation solver thresholds?
      (List.finRange problem.contacts) swept).events <+:
      (problem.sweepStep params solver thresholds? (sweepStart start)).events :=
    List.prefix_append _ _
  have hmethod : (problem.sweepStep params solver thresholds? (sweepStart start)).events <+:
      (problem.gaussSeidel params solver thresholds? start).events :=
    (Progress.prefix_events_iterate hcap hdue).trans (List.prefix_append _ _)
  exact hupdate.trans (hsweep.trans (hstep.trans hmethod))

/-- The first outer iteration that is made fixes the thresholds of the start and calls the solver
for the first contact. -/
theorem trescaFixedPoint_callsFirst (params : TrescaParams R) (hpos : 0 < problem.contacts)
    (hspatial : problem.tangents = 2) (fits : problem.Fits ⟨0, hpos⟩)
    (hcap : 0 < params.iterationCap) (hdue : Residual.unmeasured.Exceeds params.tolerance)
    (hinner : 0 < params.inner.iterationCap)
    (hinnerDue : Residual.unmeasured.Exceeds params.inner.tolerance)
    (start : Candidate R problem.size) :
    [problem.fixing start.reaction, .contactCall params.solver.solver 0
      (problem.contactProblem ⟨0, hpos⟩ fits start.reaction
        (some (problem.thresholdOf start.reaction ⟨0, hpos⟩)))] <+:
      (problem.trescaFixedPoint params start).events := by
  have hthreshold : thresholdAt (some (problem.thresholdsAt start.reaction)) 0 =
      .ok (some (problem.thresholdOf start.reaction ⟨0, hpos⟩)) := by
    rw [thresholdOf, ← normal_ownReaction hspatial _ _ fits]
    exact thresholdAt_thresholdsAt fits start.reaction
  have htolerance :
      innerToleranceAfter params .unmeasured params.inner.tolerance = params.inner.tolerance := by
    unfold innerToleranceAfter
    split
    · rename_i herror
      cases herror
    · rfl
  have hsweeps := gaussSeidel_callsFirst
    { params.inner with
      tolerance := innerToleranceAfter params .unmeasured params.inner.tolerance }
    hpos fits hinner (htolerance.symm ▸ hinnerDue) hthreshold params.solver start
  have hmethod : (problem.trescaStep params (trescaStart params start)).events <+:
      (problem.trescaFixedPoint params start).events :=
    (Progress.prefix_events_iterate hcap hdue).trans (List.prefix_append _ _)
  -- the first iteration fixes its thresholds, and all that follows is what its sweeps report
  refine List.IsPrefix.trans ?_ hmethod
  exact (List.prefix_cons_inj _).mpr (hsweeps.trans (List.prefix_append _ _))

end FrictionProblem

end Methods

end Complementarity
