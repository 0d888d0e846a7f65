import Complementarity.Config.Tree
import Complementarity.Decimal.Layout
import Complementarity.Error
import Complementarity.Text.Quoted

/-!
The texts of errors.
-/

namespace Complementarity

/-- What a quantity is called. -/
def Quantity.name : Quantity → String
  | matrix => "matrix size"
  | frictionCoefficients => "friction coefficients"
  | upperBounds => "upper bounds"
  | lowerBounds => "lower bounds"

/-- What is wrong with a problem. -/
def ProblemDefect.message : ProblemDefect Float → String
  | contactDimension dimension => s!"contact dimension must be 2 or 3, got {dimension}"
  | partialContact length dimension =>
    s!"vector length {length} is not a multiple of the dimension {dimension}"
  | notSquare rowCount columnCount => s!"matrix is {rowCount}x{columnCount}, expected square"
  | frictionCoefficient value =>
    s!"friction coefficient {Decimal.positional value} is not non-negative"
  | emptyBox index lower upper =>
    s!"empty box at index {index}: [{Decimal.positional lower}, {Decimal.positional upper}]"

/-- What is wrong with a configuration. -/
def ConfigDefect.message : ConfigDefect Float → String
  | integerCount found => s!"expected {Complementarity.integerCount} integer parameters, found {found}"
  | realCount found => s!"expected {Complementarity.realCount} real parameters, found {found}"
  | negativeCap => "negative iteration cap"
  | negativeTolerance => "tolerance must be non-negative"
  | stepSize value => s!"step size must be positive, got {Decimal.positional value}"
  | stepShrink value =>
    s!"step shrink factor must lie in (0, 1), got {Decimal.positional value}"
  | missingThresholds => "projection on cylinder needs thresholds from a Tresca fixed point"
  | unexpectedInternal => "does not take an internal solver"
  | missingInternal => "missing internal solver"
  | unsuitableInternal solver => s!"{solver.name} is not a valid internal solver"
  | needsCylinder => "a Tresca fixed point needs cylinder projections"
  | notOneContact => "not a one contact solver"

/-- The text of an error. -/
def Error.message : Error Float → String
  | sizeMismatch what expected actual =>
    s!"Size mismatch: {what.name} (expected {expected}, got {actual})"
  | invalidProblem defect => s!"Invalid problem: {defect.message}"
  | unknownSolver id => s!"Unknown solver identifier: {Quoted.encode id}"
  | unregisteredSolver solver family =>
    s!"Solver {solver.name} is not registered for {family.name} problems"
  | unsupportedDimension solver dimension =>
    s!"Problem dimension {dimension} is not supported by {solver.name}"
  | invalidConfiguration solver defect =>
    s!"Invalid solver configuration for {solver.name}: {defect.message}"
  | loadConfig _ => "Failed to load solver configuration"

end Complementarity
