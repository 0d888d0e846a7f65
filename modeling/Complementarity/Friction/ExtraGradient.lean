import Complementarity.Friction.FixedPoint

/-!
The extra-gradient method: a predictor step of adapted size, then a corrector step from the same
reaction along the corrected velocity found at the predictor.
-/

namespace Complementarity.FrictionProblem

variable {R : Type} [Scalar R]

/-- One predictor and its corrector. -/
@[specialize] def extraGradientStep (problem : FrictionProblem R) (params : ProjectionParams R) :
    Iteration R (Residual R) Empty (Stepping R problem.size) := fun progress => do
  let state := progress.state
  let r := state.candidate.reaction
  let (step, trial) := problem.predict params r state.corrected state.step
  let reaction := problem.projectedStep r step trial.point.velocity
  let corrected := problem.correctedVelocity reaction
  let step := grow trial.ratio params.shrink step
  let (error, candidate) := problem.measure reaction
  reportIteration .extraGradient params.verbosity (progress.iterations + 1) error step
  return .ok (.measured error, { candidate, corrected, step })

/-- Predictor and corrector steps of adapted size. -/
@[specialize] def extraGradient (problem : FrictionProblem R) (params : ProjectionParams R)
    (start : Candidate R problem.size) : Traced R (Run R problem.size) :=
  problem.runMethod .extraGradient params.iterationCap params.tolerance params.verbosity
    Stepping.candidate (problem.extraGradientStep params) (problem.firstStepping params start)

end Complementarity.FrictionProblem
