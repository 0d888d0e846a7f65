import Complementarity.Run.Status

/-!
Why a linear system could not be solved, and what that means for a run.
-/

namespace Complementarity

/-- Why a direct method gave up. -/
inductive LinearFailure where
  /-- A Cholesky pivot is not positive. -/
  | notPositiveDefinite
  /-- A pivot of the elimination is zero. -/
  | singular
  deriving DecidableEq

namespace LinearFailure

/-- The text shown to a reader. -/
def message : LinearFailure → String
  | notPositiveDefinite => "Matrix is not positive definite"
  | singular => "Matrix is singular"

/-- The status of a run that fails for this reason. -/
def status : LinearFailure → Status
  | notPositiveDefinite => .factorizationFailed
  | singular => .degenerateInput

end LinearFailure

end Complementarity
