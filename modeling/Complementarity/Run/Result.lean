import Complementarity.Problem.Basic
import Complementarity.Run.Iteration

/-!
The result of running a method on a problem.
-/

namespace Complementarity

/-- The vectors a run ends with, and its summary. -/
structure Run (R : Type) (n : Nat) extends Candidate R n, Outcome R

/-- A candidate with a summary. -/
def Candidate.ending {R : Type} {n : Nat} (candidate : Candidate R n) (outcome : Outcome R) :
    Run R n :=
  { candidate, outcome with }

/-- Classifies the last error of a run and reports the end of its iterations. -/
@[specialize] def conclude {R : Type} [Scalar R] (method : Method) (verbosity : UInt8)
    (tolerance : R) (iterations : Nat) (error : Residual R) : Traced R (Outcome R) := do
  let status := error.status tolerance
  Traced.reportIf (0 < verbosity) (.finished method status iterations error)
  return { status, iterations, residual := error.reported }

/-- Reports an iteration to a reader who wants to hear of each. -/
@[specialize] def reportIteration {R : Type} (method : Method) (verbosity : UInt8) (count : Nat)
    (error : R) (step? : Option R) : Traced R Unit :=
  Traced.reportIf (1 < verbosity) (.iteration method count error step?)

end Complementarity
