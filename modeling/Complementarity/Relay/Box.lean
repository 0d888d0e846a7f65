import Complementarity.Problem.Relay

/-!
The box of a relay problem: projection onto it, velocities, and the error of a candidate.
-/

namespace Complementarity

variable {R : Type} [Scalar R]

/-- Projects a number onto the interval from `-lower` to `upper`. -/
@[specialize] def projectOnInterval (upper lower x : R) : R :=
  Scalar.greater (Scalar.lesser x upper) (-lower)

namespace RelayProblem

/-- The velocity `M z - q`. -/
@[specialize] def velocity (problem : RelayProblem R) (z : Vec R problem.size) :
    Vec R problem.size :=
  Mat.gemv 1 problem.matrix z 1 (Vec.scale (-1) problem.offset)

/-- The distance of a velocity from its projection after a unit step against the reaction. -/
@[specialize] def gapAt (problem : RelayProblem R) (i : Fin problem.size) (z w : R) : R :=
  w - projectOnInterval (problem.upper.get i) (problem.lower.get i) (w - z)

/-- The error of a candidate. It is zero exactly at the solutions. -/
@[specialize] def errorOf (problem : RelayProblem R) (z w : Vec R problem.size) : R :=
  Scalar.sqrt <| Vec.sum <| Vector.ofFn fun i =>
    let gap := problem.gapAt i (z.get i) (w.get i)
    gap * gap

end RelayProblem

end Complementarity
