import Complementarity.Scalar

/-!
How a run ends: its status, the last error it measured, and the summary of both.
-/

namespace Complementarity

variable {R : Type} [Scalar R]

/-- The numerical outcome of a run. -/
inductive Status where
  /-- The error dropped to the tolerance or below. -/
  | converged
  /-- The iterations ran out, or the error is undefined. -/
  | notConverged
  /-- A matrix factorisation failed. -/
  | factorizationFailed
  /-- The input is numerically degenerate, such as a vanishing diagonal entry. -/
  | degenerateInput
  deriving DecidableEq

namespace Status

/-- Stable numbers for the outcomes. -/
def code : Status → Nat
  | converged => 0
  | notConverged => 1
  | factorizationFailed => 2
  | degenerateInput => 3

/-- The name shown in reports. -/
def name : Status → String
  | converged => "Converged"
  | notConverged => "NotConverged"
  | factorizationFailed => "FactorizationFailed"
  | degenerateInput => "DegenerateInput"

/-- Classifies a final error against a tolerance. -/
def ofError (error tolerance : R) : Status :=
  if error ≤ tolerance then converged else notConverged

theorem ofError_ne_degenerateInput (error tolerance : R) :
    ofError error tolerance ≠ degenerateInput := by
  unfold ofError
  split <;> exact nofun

end Status

/-- The error of an iterate. Before the first measurement it counts as infinite. -/
inductive Residual (R : Type) where
  | unmeasured
  | measured (error : R)
  deriving DecidableEq

namespace Residual

/-- Larger than the tolerance, so that another iteration is due. -/
def Exceeds (tolerance : R) : Residual R → Prop
  | unmeasured => Scalar.BelowTop tolerance
  | measured error => tolerance < error

instance (tolerance : R) : (e : Residual R) → Decidable (e.Exceeds tolerance)
  | unmeasured => inferInstanceAs (Decidable (Scalar.BelowTop tolerance))
  | measured error => inferInstanceAs (Decidable (tolerance < error))

/-- Converged means not larger than the tolerance. -/
def status (tolerance : R) : Residual R → Status
  | unmeasured => if Scalar.IsTop tolerance then .converged else .notConverged
  | measured error => .ofError error tolerance

/-- The number handed to the caller; an error that is not finite is reported as zero. -/
def reported : Residual R → R
  | unmeasured => 0
  | measured error => if Scalar.isFinite error then error else 0

/-- The error itself when it has been measured and is finite. -/
def finite? : Residual R → Option R
  | unmeasured => none
  | measured error => if Scalar.isFinite error then some error else none

end Residual

/-- Summary of a run without its vectors. -/
structure Outcome (R : Type) where
  status : Status
  /-- Iterations performed. -/
  iterations : Nat
  /-- The last error, as reported. -/
  residual : R

/-- A run that was given up before its first iteration. -/
def Outcome.aborted (status : Status) : Outcome R :=
  { status, iterations := 0, residual := 0 }

end Complementarity
