import Complementarity.Friction.Projection

/-!
The hyperplane projection method.

With the predictor `r̄`, the difference `d = r - r̄` and the direction `D = d - ρ (F(r) - F(r̄))`, the
hyperplane through `r - β D` orthogonal to `D`, where `β = ⟨d, D⟩ / ‖D‖²`, separates the reaction
from the solutions. The next reaction steps towards it along `F(r̄)`.
-/

namespace Complementarity.FrictionProblem

variable {R : Type} [Scalar R]

/-- The direction `(r - r̄) - ρ (f - f̄)` for a given difference `r - r̄`. -/
@[specialize] def separatingDirection {n : Nat} (difference : Vec R n) (rho : R) (f fBar : Vec R n) :
    Vec R n :=
  Vec.sub difference (Vector.zipWith (fun a b => rho * (a - b)) f fBar)

/-- The reaction after a step towards the separating hyperplane. -/
@[specialize] def hyperplaneUpdate (problem : FrictionProblem R) (relaxation : R)
    (r f : Stack R problem.contacts problem.tangents) (rho : R)
    (predictor : Predictor R problem.size) : Stack R problem.contacts problem.tangents :=
  let difference := Vec.sub r predictor.reaction
  let direction := separatingDirection difference rho f predictor.velocity
  let squared := Vec.normSq direction
  if Scalar.IsZero (Vec.norm difference) ∨ squared ≤ Scalar.epsilon * Scalar.epsilon then
    predictor.reaction
  else
    let beta := Vec.dot difference direction / squared
    problem.projectedStep r (relaxation * beta * rho) predictor.velocity

/-- Where the method stands. -/
structure HyperplaneState (R : Type) (n : Nat) where
  candidate : Candidate R n
  step : R

/-- One step towards a separating hyperplane. -/
@[specialize] def hyperplaneStep (problem : FrictionProblem R) (params : ProjectionParams R)
    (relaxation : R) : Iteration R (Residual R) Empty (HyperplaneState R problem.size) :=
  fun progress => do
    let state := progress.state
    let r := state.candidate.reaction
    let f := problem.correctedVelocity r
    let (step, trial) := problem.predict params r f state.step
    let reaction := problem.hyperplaneUpdate relaxation r f step trial.point
    let step := grow trial.ratio params.shrink step
    let (error, candidate) := problem.measure reaction
    reportIteration .hyperplaneProjection params.verbosity (progress.iterations + 1) error step
    return .ok (.measured error, { candidate, step })

/-- Steps towards separating hyperplanes. -/
@[specialize] def hyperplaneProjection (problem : FrictionProblem R) (params : ProjectionParams R)
    (relaxation : R) (start : Candidate R problem.size) : Traced R (Run R problem.size) :=
  problem.runMethod .hyperplaneProjection params.iterationCap params.tolerance params.verbosity
    HyperplaneState.candidate (problem.hyperplaneStep params relaxation)
    { candidate := start, step := params.step }

end Complementarity.FrictionProblem
