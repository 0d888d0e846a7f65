import Complementarity.Error
import Complementarity.Friction.Projection
import Complementarity.Friction.SweepParams
import Complementarity.OneContact.Stock

/-!
Nonsmooth Gauss-Seidel sweeps over contacts in space.

A sweep goes through the contacts and hands the problem of each, with all other reactions held
fixed, to a solver for single contacts. The run ends early at a contact whose problem is degenerate.
-/

namespace Complementarity.FrictionProblem

variable {R : Type} [Scalar R]

/-- The problem has three components for the contact. -/
abbrev Fits (problem : FrictionProblem R) (c : Fin problem.contacts) : Prop :=
  c.val * 3 + 3 ≤ problem.contacts * (problem.tangents + 1)

/-- In space every contact has its three components. -/
theorem fits_of_spatial (problem : FrictionProblem R) (h : problem.tangents = 2)
    (c : Fin problem.contacts) : problem.Fits c := by
  have := c.isLt
  simp only [Fits, h]
  omega

/-- The reaction of one contact. -/
@[specialize] def ownReaction (problem : FrictionProblem R) (c : Fin problem.contacts)
    (fits : problem.Fits c) (r : Vec R problem.size) : Block R 2 :=
  Vec.slice r (c.val * 3) fits

/-- The problem of one contact with all other reactions held fixed. -/
@[specialize] def contactProblem (problem : FrictionProblem R) (c : Fin problem.contacts)
    (fits : problem.Fits c) (r : Vec R problem.size) (threshold? : Option R) : ContactProblem R :=
  let matrix : Mat R 3 3 := Mat.diagonalBlock problem.matrix (c.val * 3) fits
  let full : Block R 2 := Vec.add (Vec.slice problem.offset (c.val * 3) fits)
    (Mat.mulVec (Mat.rows problem.matrix (c.val * 3) fits) r)
  { matrix, offset := Vec.sub full (Mat.mulVec matrix (problem.ownReaction c fits r))
    friction := problem.friction.get c, threshold? }

/-- Why a sweep stops at a contact. -/
inductive SweepHalt (R : Type) (n : Nat) where
  /-- The problem of the contact is degenerate. The reaction holds the updates made so far. -/
  | degenerate (contact : Nat) (reaction : Vec R n)
  | fault (fault : Fault)

/-- A reaction in the middle of a sweep, and the square of its change since the sweep began. -/
structure Swept (R : Type) (n : Nat) where
  reaction : Vec R n
  changeSq : R

/-- The threshold of a contact if there are thresholds at all. -/
def thresholdAt (thresholds? : Option (List R)) (c : Nat) : Except Fault (Option R) :=
  match thresholds? with
  | none => .ok none
  | some thresholds =>
    match thresholds[c]? with
    | some threshold => .ok (some threshold)
    | none => .error (.missingThreshold c)

/-- The reaction with the relaxed update of one contact. -/
@[specialize] def relaxContact (problem : FrictionProblem R) (relaxation : R)
    (c : Fin problem.contacts) (swept : Swept R problem.size) (old new : Block R 2) :
    Swept R problem.size :=
  let next := Vec.relax relaxation new old
  { reaction := Vec.splice swept.reaction (c.val * 3) next
    changeSq := swept.changeSq + Vec.normSq (Vec.sub next old) }

/-- What follows from the report on one contact. -/
@[specialize] def settleContact (problem : FrictionProblem R) (relaxation : R) (solver : SolverId)
    (c : Fin problem.contacts) (swept : Swept R problem.size) (old : Block R 2)
    (answer : ContactReport R × Block R 2) :
    Traced R (Except (SweepHalt R problem.size) (Swept R problem.size)) :=
  match answer.1.status with
  | .degenerateInput => do
    Traced.report (.degenerateContact c)
    return .error (.degenerate c swept.reaction)
  | status => do
    Traced.reportIf (status = .notConverged) (.unsolvedContact solver c answer.1.error)
    return .ok (problem.relaxContact relaxation c swept old answer.2)

/-- The update of one contact. -/
@[specialize] def updateContact (problem : FrictionProblem R) (relaxation : R)
    (solver : ContactSolver R) (thresholds? : Option (List R)) (c : Fin problem.contacts)
    (swept : Swept R problem.size) :
    Traced R (Except (SweepHalt R problem.size) (Swept R problem.size)) :=
  match thresholdAt thresholds? c with
  | .error fault => pure (.error (.fault fault))
  | .ok threshold? =>
    if fits : problem.Fits c then do
      let old := problem.ownReaction c fits swept.reaction
      let own := problem.contactProblem c fits swept.reaction threshold?
      Traced.report (.contactCall solver.solver c own)
      let answer ← solver.solve own old
      problem.settleContact relaxation solver.solver c swept old answer
    else
      pure (.error (.fault (.contactOutOfRange c)))

/-- The updates of a list of contacts, one after the other. -/
@[specialize] def sweepContacts (problem : FrictionProblem R) (relaxation : R)
    (solver : ContactSolver R) (thresholds? : Option (List R)) :
    List (Fin problem.contacts) → Swept R problem.size →
      Traced R (Except (SweepHalt R problem.size) (Swept R problem.size))
  | [], swept => pure (.ok swept)
  | c :: rest, swept => do
    match ← problem.updateContact relaxation solver thresholds? c swept with
    | .error halt => return .error halt
    | .ok swept => problem.sweepContacts relaxation solver thresholds? rest swept

/-- The error of a reaction: with respect to fixed thresholds if there are any. -/
@[specialize] def measureWith (problem : FrictionProblem R) (thresholds? : Option (List R))
    (r : Vec R problem.size) : R × Candidate R problem.size :=
  match thresholds? with
  | none => problem.measure r
  | some thresholds =>
    let u := problem.velocity r
    (problem.thresholdErrorOf thresholds r u, ⟨r, u⟩)

/-- Where the sweeps stand. The velocity may be left over from an earlier reaction. -/
structure SweepState (R : Type) (n : Nat) where
  candidate : Candidate R n
  /-- The velocity belongs to the reaction. -/
  current : Bool

/-- The change of a reaction during a sweep relative to its size, unless that is zero. -/
@[specialize] def relativeChange {n : Nat} (swept : Swept R n) : R :=
  let size := Vec.norm swept.reaction
  if 0 < size then Scalar.sqrt swept.changeSq / size else Scalar.sqrt swept.changeSq

/-- The error after a sweep. Light evaluation looks at the error of the problem only when the
reaction has changed by no more than the tolerance. -/
@[specialize] def sweepError (problem : FrictionProblem R) (params : SweepParams R)
    (thresholds? : Option (List R)) (stale : Vec R problem.size) (swept : Swept R problem.size) :
    R × SweepState R problem.size :=
  let change := relativeChange swept
  if params.evaluation = .full ∨ change ≤ params.tolerance then
    let (error, candidate) := problem.measureWith thresholds? swept.reaction
    (error, { candidate, current := true })
  else
    (change, { candidate := ⟨swept.reaction, stale⟩, current := false })

/-- Why the sweeps end before their time: with a result, or outside of the domain. -/
inductive Halt (R : Type) (n : Nat) where
  | degenerate (run : Run R n)
  | fault (fault : Fault)

/-- One sweep, measured. -/
@[specialize] def sweepStep (problem : FrictionProblem R) (params : SweepParams R)
    (solver : ContactSolver R) (thresholds? : Option (List R)) :
    Iteration R (Residual R) (Halt R problem.size) (SweepState R problem.size) :=
  fun progress => do
    let count := progress.iterations + 1
    let start : Swept R problem.size :=
      { reaction := progress.state.candidate.reaction, changeSq := 0 }
    match ← problem.sweepContacts params.relaxation solver thresholds?
        (List.finRange problem.contacts) start with
    | .error (.fault fault) => return .error (.fault fault)
    | .error (.degenerate _ r) =>
      return .error <| .degenerate <| Candidate.ending ⟨r, problem.velocity r⟩
        { status := .degenerateInput, iterations := count, residual := 0 }
    | .ok swept =>
      let (error, state) :=
        problem.sweepError params thresholds? progress.state.candidate.velocity swept
      reportIteration .gaussSeidel params.verbosity count error none
      return .ok (.measured error, state)

/-- Gauss-Seidel sweeps in space. -/
@[specialize] def gaussSeidel (problem : FrictionProblem R) (params : SweepParams R)
    (solver : ContactSolver R) (thresholds? : Option (List R))
    (start : Candidate R problem.size) : Traced R (Except Fault (Run R problem.size)) := do
  match ← Progress.iterate (Residual.Exceeds params.tolerance)
      (problem.sweepStep params solver thresholds?) params.iterationCap
      { iterations := 0, error := .unmeasured, state := { candidate := start, current := false } }
    with
  | .error (.fault fault) => return .error fault
  | .error (.degenerate run) => return .ok run
  | .ok ended =>
    let outcome ←
      conclude .gaussSeidel params.verbosity params.tolerance ended.iterations ended.error
    let r := ended.state.candidate.reaction
    let u := if ended.state.current then ended.state.candidate.velocity else problem.velocity r
    return .ok (Candidate.ending ⟨r, u⟩ outcome)

end Complementarity.FrictionProblem
