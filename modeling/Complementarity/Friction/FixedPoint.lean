import Complementarity.Friction.Projection

/-!
Fixed point iterations on `r = Π(r - ρ F(r))`, where `F` is the corrected velocity: with a constant
step, and with a step that adapts to how fast `F` changes.
-/

namespace Complementarity.FrictionProblem

variable {R : Type} [Scalar R]

/-- One step of constant size. -/
@[specialize] def deSaxceStep (problem : FrictionProblem R) (params : ProjectionParams R) :
    Iteration R (Residual R) Empty (Candidate R problem.size) := fun progress => do
  let r := progress.state.reaction
  let (error, candidate) := problem.measure <|
    problem.projectedStep r params.step (problem.correctedVelocity r)
  reportIteration .deSaxceFixedPoint params.verbosity (progress.iterations + 1) error none
  return .ok (.measured error, candidate)

/-- Projection steps of constant size. -/
@[specialize] def deSaxceFixedPoint (problem : FrictionProblem R) (params : ProjectionParams R)
    (start : Candidate R problem.size) : Traced R (Run R problem.size) :=
  problem.runMethod .deSaxceFixedPoint params.iterationCap params.tolerance params.verbosity id
    (problem.deSaxceStep params) start

/-- Where a method with adapted steps stands. The corrected velocity is carried over from one
iteration to the next and always belongs to the current reaction. -/
structure Stepping (R : Type) (n : Nat) where
  candidate : Candidate R n
  corrected : Vec R n
  step : R

/-- The first position: the corrected velocity of the starting reaction. -/
@[specialize] def firstStepping (problem : FrictionProblem R) (params : ProjectionParams R)
    (start : Candidate R problem.size) : Stepping R problem.size :=
  { candidate := start, corrected := problem.correctedVelocity start.reaction, step := params.step }

/-- One step of adapted size: the predictor is the next reaction. -/
@[specialize] def projectionStep (problem : FrictionProblem R) (params : ProjectionParams R) :
    Iteration R (Residual R) Empty (Stepping R problem.size) := fun progress => do
  let state := progress.state
  let (step, trial) :=
    problem.predict params state.candidate.reaction state.corrected state.step
  let step := grow trial.ratio params.shrink step
  let (error, candidate) := problem.measure trial.point.reaction
  reportIteration .fixedPointProjection params.verbosity (progress.iterations + 1) error step
  return .ok (.measured error, { candidate, corrected := trial.point.velocity, step })

/-- Projection steps of adapted size. -/
@[specialize] def fixedPointProjection (problem : FrictionProblem R) (params : ProjectionParams R)
    (start : Candidate R problem.size) : Traced R (Run R problem.size) :=
  problem.runMethod .fixedPointProjection params.iterationCap params.tolerance params.verbosity
    Stepping.candidate (problem.projectionStep params) (problem.firstStepping params start)

end Complementarity.FrictionProblem
