import Complementarity.Config.Tree
import Complementarity.Friction.Law
import Complementarity.Run.Result
import Complementarity.Run.StepControl

/-!
Parameters and step control of the methods that take projection steps on all contacts at once.
-/

namespace Complementarity

variable {R : Type} [Scalar R]

/-- Parameters of the projection methods. -/
structure ProjectionParams (R : Type) where
  iterationCap : Nat
  tolerance : R
  /-- The first step size. -/
  step : R
  /-- The factor that shortens a rejected step. -/
  shrink : R
  /-- The bound below which a step is accepted. -/
  coefficient : R
  /-- The number of times a step may be shortened and tried again. -/
  retries : Nat
  verbosity : UInt8

/-- The parameters of a node, unless its lists are too short. -/
def ProjectionParams.ofNode? (node : Node R) : Option (ProjectionParams R) := do
  let iterationCap ← node.count? .iterationCap
  let tolerance ← node.real? .tolerance
  let step ← node.real? .step
  let shrink ← node.real? .shrink
  let coefficient ← node.real? .coefficient
  let retries ← node.count? .lineSearchCap
  return { iterationCap, tolerance, step, shrink, coefficient, retries,
           verbosity := node.verbosity }

namespace FrictionProblem

/-- The point a projection step predicts, with its corrected velocity. -/
structure Predictor (R : Type) (n : Nat) where
  reaction : Vec R n
  velocity : Vec R n

/-- The projection step of the given size from a reaction with the corrected velocity `f`. -/
@[specialize] def predictorTrial (problem : FrictionProblem R)
    (r f : Stack R problem.contacts problem.tangents) (step : R) :
    Trial R (Predictor R problem.size) :=
  let reaction := problem.projectedStep r step f
  let velocity := problem.correctedVelocity reaction
  { ratio :=
      moveRatio step (Scalar.sqrt (Vec.distSq f velocity)) (Scalar.sqrt (Vec.distSq r reaction))
    point := { reaction, velocity } }

/-- The predictor with a step size adapted to how fast the corrected velocity changes. -/
@[specialize] def predict (problem : FrictionProblem R) (params : ProjectionParams R)
    (r f : Stack R problem.contacts problem.tangents) (step : R) :
    R × Trial R (Predictor R problem.size) :=
  searchStep (problem.predictorTrial r f) params.coefficient params.shrink params.retries step

end FrictionProblem

namespace FrictionProblem

/-- A reaction with its velocity, and the error of the two. -/
@[specialize] def measure (problem : FrictionProblem R)
    (r : Stack R problem.contacts problem.tangents) : R × Candidate R problem.size :=
  let u := problem.velocity r
  (problem.errorOf r u, ⟨r, u⟩)

/-- The candidate with the velocity of its reaction, in case no iteration has computed it. -/
@[specialize] def settleVelocity (problem : FrictionProblem R) (iterations : Nat)
    (candidate : Candidate R problem.size) : Candidate R problem.size :=
  if iterations = 0 then
    { candidate with velocity := problem.velocity candidate.reaction }
  else
    candidate

/-- Runs a method whose state contains the candidate it has reached. -/
@[specialize] def runMethod {S : Type} (problem : FrictionProblem R) (method : Method) (cap : Nat)
    (tolerance : R) (verbosity : UInt8) (candidate : S → Candidate R problem.size)
    (advance : Iteration R (Residual R) Empty S) (start : S) :
    Traced R (Run R problem.size) := do
  let ended := settled (← Progress.iterate (Residual.Exceeds tolerance) advance cap
    { iterations := 0, error := .unmeasured, state := start })
  let outcome ← conclude method verbosity tolerance ended.iterations ended.error
  return (problem.settleVelocity ended.iterations (candidate ended.state)).ending outcome

end FrictionProblem

end Complementarity
