import Complementarity.Decimal.Layout
import Complementarity.Report.LinearFailure
import Complementarity.Run.Event

/-!
The texts of events, and the log of a run.

Errors and step sizes are written with an exponent. An error that has not been measured is written
as infinity.
-/

namespace Complementarity

/-- A number of a log. -/
abbrev logged (x : Float) : String :=
  Decimal.scientific x

/-- An error as a log shows it. -/
def Residual.text : Residual Float → String
  | unmeasured => "inf"
  | measured error => logged error

/-- The text of an event; a silent one has none. -/
def Event.message? : Event Float → Option String
  | trivialSolution solver => some s!"{solver.name}: trivial solution"
  | solving solver size => some s!"{solver.name}: solving a problem of size {size}"
  | iteration method count error none =>
    some s!"{method.label} iteration {count}: error = {logged error}"
  | iteration method count error (some step) =>
    some s!"{method.label} iteration {count}: error = {logged error}, rho = {logged step}"
  | outerIteration count error inner =>
    some s!"TFP iteration {count}: error = {logged error} ({inner} inner iterations)"
  | finished method status count error =>
    some s!"{method.label}: {status.name} after {count} iterations, error = {error.text}"
  | outerFinished status count inner error =>
    some s!"TFP: {status.name} after {count} iterations ({inner} inner), error = {error.text}"
  | nonPositiveDiagonal index => some s!"PGS: non-positive diagonal entry at index {index}"
  | nonPositiveContact contact =>
    some s!"F2D NSGS: non-positive diagonal entry at contact {contact}"
  | vanishingDirection index => some s!"LATIN: vanishing search direction at index {index}"
  | notPositiveDefinite => some s!"LATIN: {LinearFailure.notPositiveDefinite.message}"
  | degenerateContact contact => some s!"NSGS: degenerate sub-problem at contact {contact}"
  | unsolvedContact solver contact error =>
    some s!"NSGS: {solver.name} did not converge at contact {contact} (error = {logged error})"
  | singularJacobian => some "Alart-Curnier: singular Jacobian, taking a fixed point step"
  | newtonIteration count norm => some s!"Alart-Curnier iteration {count}: |Φ| = {logged norm}"
  | contactCall .. => none
  | thresholdsFixed .. => none

/-- An event as a line of a log: its level and its text. -/
def Event.line? (event : Event Float) : Option String := do
  let level ← event.level?
  let message ← event.message?
  return s!"{level.name} {message}"

/-- The log of a run. -/
def logLines (events : List (Event Float)) : List String :=
  events.filterMap Event.line?

end Complementarity
