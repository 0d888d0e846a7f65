import Complementarity.Contact.Cone
import Complementarity.Linear.Vec

/-!
The problem of a single contact in space, which Gauss-Seidel methods solve for one contact after the
other.
-/

namespace Complementarity

/-- A single contact in space: `u = W r + q` with the reaction in its friction cone, or in a
cylinder when a threshold is given. -/
structure ContactProblem (R : Type) where
  matrix : Mat R 3 3
  offset : Block R 2
  friction : R
  threshold? : Option R

namespace ContactProblem

variable {R : Type} [Scalar R]

/-- The velocity at a reaction. -/
@[specialize] def velocity (problem : ContactProblem R) (r : Block R 2) : Block R 2 :=
  Vec.add (Mat.mulVec problem.matrix r) problem.offset

/-- The corrected velocity at a reaction. -/
@[specialize] def correctedVelocity (problem : ContactProblem R) (r : Block R 2) : Block R 2 :=
  deSaxce problem.friction (problem.velocity r)

/-- The error of a reaction with respect to the friction cone. -/
@[specialize] def error (problem : ContactProblem R) (r : Block R 2) : R :=
  Scalar.sqrt (contactErrorSq problem.friction r (problem.velocity r))

/-- The diagonal entry of the normal component. -/
@[inline] def normalDiagonal (problem : ContactProblem R) : R :=
  problem.matrix[0][0]

/-- The diagonal entries of the tangential components. -/
@[inline] def tangentialDiagonal (problem : ContactProblem R) : R × R :=
  (problem.matrix[1][1], problem.matrix[2][2])

end ContactProblem

end Complementarity
