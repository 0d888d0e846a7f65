import Complementarity.Config.Validation
import Complementarity.Friction.GaussSeidel

/-!
The Tresca fixed point method.

Friction with thresholds that do not depend on the reaction is an easier problem. The method fixes
the threshold of each contact at `μ max(r_N, 0)`, solves that problem by Gauss-Seidel sweeps, and
starts over with the thresholds of the new reaction.
-/

namespace Complementarity

/-- How the tolerance of the inner solves follows the outer error. -/
inductive InnerTolerance where
  /-- It stays as configured. -/
  | fixed
  /-- It is a tenth of the current outer error, but no less than a tenth of the outer tolerance. -/
  | adaptive
  deriving DecidableEq

/-- The inner tolerance policy of an integer parameter. -/
def InnerTolerance.ofInteger (k : Int32) : InnerTolerance :=
  if k = 1 then adaptive else fixed

/-- The name of an inner tolerance policy. -/
def InnerTolerance.name : InnerTolerance → String
  | fixed => "Fixed"
  | adaptive => "Adaptive"

/-- Parameters of the Tresca method, with those of its inner solves. -/
structure TrescaParams (R : Type) where
  iterationCap : Nat
  tolerance : R
  policy : InnerTolerance
  verbosity : UInt8
  inner : SweepParams R
  solver : ContactSolver R

/-- The parameters of a configuration. -/
def TrescaParams.ofTree {R : Type} [Scalar R] (tree : ConfigTree R) :
    Except (Failure R) (TrescaParams R) := do
  let sweeps ← tree.internal.mapError .error
  let contact ← sweeps.internal.mapError .error
  let solver ← ContactSolver.ofNode contact.root
  let inner ← Failure.ofOption .missingParameter (SweepParams.ofNode? sweeps.root)
  Failure.ofOption .missingParameter do
    let policy ← tree.root.integer? .internalTolerance
    let iterationCap ← tree.root.count? .iterationCap
    let tolerance ← tree.root.real? .tolerance
    return { iterationCap, tolerance, policy := .ofInteger policy
             verbosity := tree.root.verbosity, inner, solver }

namespace FrictionProblem

variable {R : Type} [Scalar R]

/-- Where the outer iterations stand. -/
structure TrescaState (R : Type) (n : Nat) where
  candidate : Candidate R n
  /-- The tolerance of the next inner solve. -/
  innerTolerance : R
  /-- All inner iterations so far, in a counter of 32 bits that wraps around. -/
  innerIterations : UInt32

/-- The thresholds at a reaction. Contacts beyond the whole triples of components have none. -/
@[specialize] def thresholdsAt (problem : FrictionProblem R) (r : Vec R problem.size) : List R :=
  (List.finRange problem.contacts).map fun c =>
    if fits : problem.Fits c then
      problem.friction.get c * Scalar.greater (problem.ownReaction c fits r).normal 0
    else
      0

/-- The tolerance of the next inner solve. -/
@[specialize] def innerToleranceAfter (params : TrescaParams R) (error : Residual R)
    (current : R) : R :=
  match params.policy, error.finite? with
  | .adaptive, some error => Scalar.greater (0.1 * error) (0.1 * params.tolerance)
  | _, _ => current

/-- One inner solve with thresholds fixed at the current reaction, measured. -/
@[specialize] def trescaStep (problem : FrictionProblem R) (params : TrescaParams R) :
    Iteration R (Residual R) (Halt R problem.size) (TrescaState R problem.size) :=
  fun progress => do
    let count := progress.iterations + 1
    let state := progress.state
    let thresholds := problem.thresholdsAt state.candidate.reaction
    Traced.report (.thresholdsFixed state.candidate.reaction.toList thresholds)
    let innerTolerance := innerToleranceAfter params progress.error state.innerTolerance
    match ← problem.gaussSeidel { params.inner with tolerance := innerTolerance } params.solver
        (some thresholds) state.candidate with
    | .error fault => return .error (.fault fault)
    | .ok run =>
      if run.status = .degenerateInput then
        return .error <| .degenerate <| run.toCandidate.ending
          { status := .degenerateInput, iterations := count, residual := 0 }
      else
        let (error, candidate) := problem.measure run.reaction
        Traced.reportIf (1 < params.verbosity) (.outerIteration count error run.iterations)
        return .ok (.measured error,
          { candidate, innerTolerance
            innerIterations := state.innerIterations + .ofNat run.iterations })

/-- A sequence of problems with fixed thresholds. -/
@[specialize] def trescaFixedPoint (problem : FrictionProblem R) (params : TrescaParams R)
    (start : Candidate R problem.size) : Traced R (Except Fault (Run R problem.size)) := do
  match ← Progress.iterate (Residual.Exceeds params.tolerance) (problem.trescaStep params)
      params.iterationCap
      { iterations := 0, error := .unmeasured
        state := { candidate := start, innerTolerance := params.inner.tolerance
                   innerIterations := 0 } } with
  | .error (.fault fault) => return .error fault
  | .error (.degenerate run) => return .ok run
  | .ok ended =>
    let status := ended.error.status params.tolerance
    Traced.reportIf (0 < params.verbosity)
      (.outerFinished status ended.iterations ended.state.innerIterations ended.error)
    return .ok <| (problem.settleVelocity ended.iterations ended.state.candidate).ending
      { status, iterations := ended.iterations, residual := ended.error.reported }

end FrictionProblem

end Complementarity
