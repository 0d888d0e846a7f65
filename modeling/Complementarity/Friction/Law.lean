import Complementarity.Problem.Friction
import Complementarity.Run.Status

/-!
The friction law of a whole problem: its De Saxcé form, projection steps, and the error functions.

A reaction solves the problem exactly if it is a fixed point of a projection step, whatever the
positive step size, and exactly if its error is zero.
-/

namespace Complementarity.FrictionProblem

variable {R : Type} [Scalar R]

/-- The velocity at a reaction, corrected at every contact. -/
@[specialize] def correctedVelocity (problem : FrictionProblem R)
    (r : Stack R problem.contacts problem.tangents) : Stack R problem.contacts problem.tangents :=
  Stack.mapBlocks (fun c u => deSaxce (problem.friction.get c) u) (problem.velocity r)

/-- Every contact projected onto its friction cone. -/
@[specialize] def project (problem : FrictionProblem R)
    (r : Stack R problem.contacts problem.tangents) : Stack R problem.contacts problem.tangents :=
  Stack.mapBlocks (fun c b => (projectOnCone (problem.friction.get c) b).2) r

/-- A step of the given size against a direction, projected. -/
@[specialize] def projectedStep (problem : FrictionProblem R)
    (r : Stack R problem.contacts problem.tangents) (rho : R)
    (f : Stack R problem.contacts problem.tangents) : Stack R problem.contacts problem.tangents :=
  problem.project (Vec.axpy (-rho) f r)

/-- An error relative to the size of the data, unless the data vanish. -/
@[specialize] def relative (problem : FrictionProblem R) (error : R) : R :=
  let norm := Vec.norm problem.offset
  if Scalar.epsilon < norm then error / norm else error

/-- The error of a reaction with the given velocity. -/
@[specialize] def errorOf (problem : FrictionProblem R)
    (r u : Stack R problem.contacts problem.tangents) : R :=
  problem.relative <| Scalar.sqrt <|
    Stack.sumOver fun c => contactErrorSq (problem.friction.get c) (r.block c) (u.block c)

/-- The error of a reaction. -/
@[specialize] def error (problem : FrictionProblem R)
    (r : Stack R problem.contacts problem.tangents) : R :=
  problem.errorOf r (problem.velocity r)

/-- The sum of a number for every contact that has an entry in the list. -/
@[specialize] def sumListed (entries : List R) {n : Nat} (f : Fin n → R → R) : R :=
  ((List.finRange n).zip entries).foldl (fun total (c, s) => total + f c s) 0

/-- The error of a reaction with the given velocity when the friction thresholds are fixed.
Contacts without a threshold are not counted. -/
@[specialize] def thresholdErrorOf (problem : FrictionProblem R) (thresholds : List R)
    (r u : Stack R problem.contacts problem.tangents) : R :=
  problem.relative <| Scalar.sqrt <|
    sumListed thresholds fun c s => thresholdErrorSq s (r.block c) (u.block c)

/-- The error of a reaction when the friction thresholds are fixed. -/
@[specialize] def thresholdError (problem : FrictionProblem R) (thresholds : List R)
    (r : Stack R problem.contacts problem.tangents) : R :=
  problem.thresholdErrorOf thresholds r (problem.velocity r)

end Complementarity.FrictionProblem
