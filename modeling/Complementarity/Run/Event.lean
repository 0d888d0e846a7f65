import Complementarity.Config.SolverId
import Complementarity.OneContact.Problem
import Complementarity.Run.Status

/-!
What a run reports.

A run returns its events in order, beside its result. Most events are messages for the reader of a
log. A few are silent: they record a call, so that statements can speak about every call of a run.
-/

namespace Complementarity

/-- How much a reader cares about a message. -/
inductive Level where
  | trace
  | debug
  | info
  | warn
  deriving DecidableEq

/-- The name of a level in a log. -/
def Level.name : Level → String
  | trace => "TRACE"
  | debug => "DEBUG"
  | info => "INFO"
  | warn => "WARN"

/-- The iterative methods under the names they use in a log. -/
inductive Method where
  | relayGaussSeidel
  | latin
  | planarGaussSeidel
  | gaussSeidel
  | trescaFixedPoint
  | deSaxceFixedPoint
  | fixedPointProjection
  | extraGradient
  | hyperplaneProjection
  deriving DecidableEq

/-- The short name of a method. -/
def Method.label : Method → String
  | relayGaussSeidel => "PGS"
  | latin => "LATIN"
  | planarGaussSeidel => "F2D NSGS"
  | gaussSeidel => "NSGS"
  | trescaFixedPoint => "TFP"
  | deSaxceFixedPoint => "DSFP"
  | fixedPointProjection => "FPP"
  | extraGradient => "EG"
  | hyperplaneProjection => "HP"

/-- One event of a run. -/
inductive Event (R : Type) where
  /-- The zero reaction solves the problem. -/
  | trivialSolution (solver : SolverId)
  /-- An algorithm starts on a problem with this many unknowns. -/
  | solving (solver : SolverId) (size : Nat)
  /-- An iteration ended with this error; methods with an adapted step tell its size. -/
  | iteration (method : Method) (count : Nat) (error : R) (step? : Option R)
  /-- An iteration of the Tresca method ended after this many inner iterations. -/
  | outerIteration (count : Nat) (error : R) (inner : Nat)
  /-- The iterations ended. -/
  | finished (method : Method) (status : Status) (count : Nat) (error : Residual R)
  /-- The iterations of the Tresca method ended. -/
  | outerFinished (status : Status) (count : Nat) (inner : UInt32) (error : Residual R)
  /-- The relay matrix has no positive diagonal entry at the index. -/
  | nonPositiveDiagonal (index : Nat)
  /-- The planar matrix has no positive diagonal entry at the contact. -/
  | nonPositiveContact (contact : Nat)
  /-- The search direction of the LATIN method vanishes at the index. -/
  | vanishingDirection (index : Nat)
  /-- The matrix of the LATIN method is not positive definite. -/
  | notPositiveDefinite
  /-- The sub-problem of the contact is degenerate. -/
  | degenerateContact (contact : Nat)
  /-- The solver of the sub-problem stopped short of its tolerance. -/
  | unsolvedContact (solver : SolverId) (contact : Nat) (error : R)
  /-- The Jacobian has no inverse, so a fixed point step replaces the Newton step. -/
  | singularJacobian
  /-- A Newton iteration ended with this norm of the residual. -/
  | newtonIteration (count : Nat) (norm : R)
  /-- Silent: a one-contact solver is called for the contact, with this problem. -/
  | contactCall (solver : SolverId) (contact : Nat) (problem : ContactProblem R)
  /-- Silent: the Tresca method fixes new thresholds at this reaction. -/
  | thresholdsFixed (reaction thresholds : List R)

/-- The level of an event; `none` for a silent one. -/
def Event.level? {R : Type} : Event R → Option Level
  | trivialSolution .. | solving .. | finished .. | outerFinished .. => some .info
  | iteration .. | outerIteration .. => some .debug
  | nonPositiveDiagonal .. | nonPositiveContact .. | vanishingDirection .. | notPositiveDefinite
  | degenerateContact .. => some .warn
  | unsolvedContact .. | singularJacobian | newtonIteration .. => some .trace
  | contactCall .. | thresholdsFixed .. => none

end Complementarity
