import Complementarity.Linear.Elimination
import Complementarity.Run.Traced

/-!
Solvers for single contacts.

A solver improves the reaction of a contact and reports how far it has come.
-/

namespace Complementarity

/-- Summary of solving a single contact. -/
structure ContactReport (R : Type) where
  status : Status
  iterations : Nat
  error : R

/-- The report for a contact whose diagonal entry vanishes. -/
def ContactReport.degenerate {R : Type} [Scalar R] : ContactReport R :=
  { status := .degenerateInput, iterations := 0, error := 0 }

/-- A way to improve the reaction of a single contact. -/
structure ContactSolver (R : Type) where
  solver : SolverId
  solve : ContactProblem R → Block R 2 → Traced R (ContactReport R × Block R 2)

end Complementarity
