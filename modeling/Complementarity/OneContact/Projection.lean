import Complementarity.OneContact.Solver
import Complementarity.Run.Iteration
import Complementarity.Run.StepControl

/-!
Solvers for a single contact that project: once or repeatedly onto the cone, or once onto the
cylinder. All of them give up if the normal diagonal entry vanishes.
-/

namespace Complementarity.ContactProblem

variable {R : Type} [Scalar R]

/-- One projection onto the cone, of step size `1 / W₀₀`. -/
@[specialize] def projectCone (tolerance : R) (problem : ContactProblem R) (r : Block R 2) :
    ContactReport R × Block R 2 :=
  if problem.normalDiagonal ≤ Scalar.diagonalThreshold then
    (.degenerate, r)
  else
    let step := Vec.sub r (Vec.divide (problem.correctedVelocity r) problem.normalDiagonal)
    let r := (projectOnCone problem.friction step).2
    let error := problem.error r
    ({ status := .ofError error tolerance, iterations := 1, error }, r)

/-- One projection onto the cylinder of the threshold, of step size `1 / W₀₀`. The error is the
length of the step. -/
@[specialize] def projectCylinder (tolerance : R) (problem : ContactProblem R) (r : Block R 2) :
    ContactReport R × Block R 2 :=
  if problem.normalDiagonal ≤ Scalar.diagonalThreshold then
    (.degenerate, r)
  else
    let step := Vec.sub r (Vec.divide (problem.velocity r) problem.normalDiagonal)
    let next := projectOnCylinder (problem.threshold?.getD 0) step
    let error := Vec.norm (Vec.sub next r)
    ({ status := .ofError error tolerance, iterations := 1, error }, next)

/-- Parameters of the repeated projection. -/
structure ConeIterationParams (R : Type) where
  iterationCap : Nat
  tolerance : R
  /-- The first step size, relative to `1 / W₀₀`. -/
  step : R
  shrink : R
  /-- The bound on the ratio of an accepted step. -/
  coefficient : R
  retries : Nat

/-- Where the repeated projection stands: a reaction, its corrected velocity, and a step size. -/
structure ConeIterate (R : Type) where
  reaction : Block R 2
  corrected : Block R 2
  step : R

/-- The projection step of the given size from a reaction with the corrected velocity `f`. -/
@[specialize] def coneTrial (problem : ContactProblem R) (r f : Block R 2) (step : R) :
    Trial R (Block R 2 × Block R 2) :=
  let next := (projectOnCone problem.friction (Vec.sub r (Vec.scale step f))).2
  let corrected := problem.correctedVelocity next
  { ratio :=
      moveRatio step (Vec.norm (Vec.sub f corrected)) (Vec.norm (Vec.sub r next))
    point := (next, corrected) }

/-- One projection step of adapted size. -/
@[specialize] def coneStep (params : ConeIterationParams R) (problem : ContactProblem R) :
    Iteration R R Empty (ConeIterate R) := fun progress =>
  let state := progress.state
  let (step, trial) := searchStep (problem.coneTrial state.reaction state.corrected)
    params.coefficient params.shrink params.retries state.step
  let step := grow trial.ratio params.shrink step
  pure <| .ok (problem.error trial.point.1,
    { reaction := trial.point.1, corrected := trial.point.2, step })

/-- Projections onto the cone with an adapted step size, until the error is small. -/
@[specialize] def iterateCone (params : ConeIterationParams R) (problem : ContactProblem R)
    (r : Block R 2) : ContactReport R × Block R 2 :=
  if problem.normalDiagonal ≤ Scalar.diagonalThreshold then
    (.degenerate, r)
  else
    let start : ConeIterate R :=
      { reaction := r, corrected := problem.correctedVelocity r
        step := params.step / problem.normalDiagonal }
    let ended := settled <| Traced.value <|
      Progress.iterate (params.tolerance < ·) (problem.coneStep params) params.iterationCap
        { iterations := 0, error := problem.error r, state := start }
    ({ status := .ofError ended.error params.tolerance, iterations := ended.iterations
       error := ended.error }, ended.state.reaction)

end Complementarity.ContactProblem
