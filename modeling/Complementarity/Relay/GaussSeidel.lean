import Complementarity.Config.Tree
import Complementarity.Relay.Box
import Complementarity.Run.Result

/-!
Projected Gauss-Seidel for relay problems.

A sweep goes through the unknowns and solves the scalar problem of each exactly, with all others
held fixed.
-/

namespace Complementarity

variable {R : Type} [Scalar R]

/-- Parameters of projected Gauss-Seidel. -/
structure RelaySweepParams (R : Type) where
  iterationCap : Nat
  tolerance : R
  /-- The relaxation of each update. -/
  relaxation : R
  verbosity : UInt8

/-- The parameters of a node, unless its lists are too short. -/
def RelaySweepParams.ofNode? (node : Node R) : Option (RelaySweepParams R) := do
  let iterationCap ← node.count? .iterationCap
  let tolerance ← node.real? .tolerance
  let relaxation ← node.real? .relaxation
  return { iterationCap, tolerance, relaxation, verbosity := node.verbosity }

namespace RelayProblem

/-- The first index whose diagonal entry is not positive. -/
@[specialize] def flatIndex? (problem : RelayProblem R) : Option (Fin problem.size) :=
  (List.finRange problem.size).find? fun i =>
    Mat.diagonal problem.matrix i ≤ Scalar.diagonalThreshold

/-- The velocity at an index when the unknown of that index is left out. -/
@[specialize] def velocityWithout (problem : RelayProblem R) (z : Vec R problem.size)
    (i : Fin problem.size) : R :=
  Vec.sumProducts (problem.matrix.get i) z - Mat.diagonal problem.matrix i * z.get i -
    problem.offset.get i

/-- The unknown that solves the scalar problem of an index. -/
@[specialize] def exactUnknown (problem : RelayProblem R) (z : Vec R problem.size)
    (i : Fin problem.size) : R :=
  let free := problem.velocityWithout z i
  (projectOnInterval (problem.upper.get i) (problem.lower.get i) free - free) /
    Mat.diagonal problem.matrix i

/-- The update of one unknown. -/
@[specialize] def updateUnknown (problem : RelayProblem R) (relaxation : R)
    (z : Vec R problem.size) (i : Fin problem.size) : Vec R problem.size :=
  Vec.update z i (relaxation * problem.exactUnknown z i + (1 - relaxation) * z.get i)

/-- One sweep over the unknowns. -/
@[specialize] def sweep (problem : RelayProblem R) (relaxation : R) (z : Vec R problem.size) :
    Vec R problem.size :=
  (List.finRange problem.size).foldl (problem.updateUnknown relaxation) z

/-- What errors are measured against: the size of the data, but at least one. -/
@[specialize] def errorScale (problem : RelayProblem R) : R :=
  Scalar.greater (Vec.norm problem.offset) 1

/-- One sweep, measured. -/
@[specialize] def sweepStep (problem : RelayProblem R) (params : RelaySweepParams R) (scale : R) :
    Iteration R (Residual R) Empty (Candidate R problem.size) := fun progress => do
  let z := problem.sweep params.relaxation progress.state.reaction
  let w := problem.velocity z
  let error := problem.errorOf z w / scale
  reportIteration .relayGaussSeidel params.verbosity (progress.iterations + 1) error none
  return .ok (.measured error, ⟨z, w⟩)

/-- Projected Gauss-Seidel from the zero candidate. A vanishing diagonal entry ends the run before
it starts. -/
@[specialize] def gaussSeidel (problem : RelayProblem R) (params : RelaySweepParams R) :
    Traced R (Run R problem.size) :=
  match problem.flatIndex? with
  | some i => do
    Traced.report (.nonPositiveDiagonal i)
    return (Candidate.zero _).ending (.aborted .degenerateInput)
  | none => do
    let ended := settled (← Progress.iterate (Residual.Exceeds params.tolerance)
      (problem.sweepStep params problem.errorScale) params.iterationCap
      { iterations := 0, error := .unmeasured, state := Candidate.zero _ })
    let outcome ←
      conclude .relayGaussSeidel params.verbosity params.tolerance ended.iterations ended.error
    return ended.state.ending outcome

end RelayProblem

end Complementarity
