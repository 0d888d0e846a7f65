import Complementarity.Config.SolverId

/-!
What a caller can get wrong.

An `Error` is an answer of the library: an unknown algorithm, a problem of the wrong shape, an
unusable configuration. A `Fault` is a call outside of a function's domain, such as a position past
the end of a list. Numerical failure is neither; it is a `Status`.
-/

namespace Complementarity

/-- The data whose sizes must agree. -/
inductive Quantity where
  | matrix
  | frictionCoefficients
  | upperBounds
  | lowerBounds
  deriving DecidableEq

/-- What makes the data of a problem unusable. -/
inductive ProblemDefect (R : Type) where
  /-- Contacts have two or three components. -/
  | contactDimension (dimension : Nat)
  /-- The vector does not consist of whole contacts. -/
  | partialContact (length dimension : Nat)
  /-- The matrix is not square. -/
  | notSquare (rowCount columnCount : Nat)
  /-- A friction coefficient is negative or undefined. -/
  | frictionCoefficient (value : R)
  /-- The bounds at an index leave no room. -/
  | emptyBox (index : Nat) (lower upper : R)

/-- What makes a configuration unusable. -/
inductive ConfigDefect (R : Type) where
  | integerCount (found : Nat)
  | realCount (found : Nat)
  | negativeCap
  | negativeTolerance
  | stepSize (value : R)
  | stepShrink (value : R)
  /-- A projection onto the cylinder needs thresholds, which only the Tresca method fixes. -/
  | missingThresholds
  | unexpectedInternal
  | missingInternal
  | unsuitableInternal (solver : SolverId)
  /-- The Tresca method needs projections onto the cylinder. -/
  | needsCylinder
  | notOneContact

/-- What went wrong between a configuration and its text. -/
inductive LoadError where
  /-- The file cannot be read or written. -/
  | file
  /-- The text is not a configuration. -/
  | parse
  /-- The configuration is nested too deeply to be written. -/
  | serialize
  deriving DecidableEq

/-- The errors of the library. -/
inductive Error (R : Type) where
  | sizeMismatch (what : Quantity) (expected actual : Nat)
  | invalidProblem (defect : ProblemDefect R)
  | unknownSolver (id : String)
  | unregisteredSolver (solver : SolverId) (family : Family)
  | unsupportedDimension (solver : SolverId) (dimension : Nat)
  | invalidConfiguration (solver : SolverId) (defect : ConfigDefect R)
  | loadConfig (source : LoadError)

/-- Calls outside of a function's domain. -/
inductive Fault where
  /-- A list of parameters is too short for the record read from it. -/
  | missingParameter
  /-- The position lies past the end of a list. -/
  | offsetOutOfRange
  /-- The problem has no three components for the contact. -/
  | contactOutOfRange (contact : Nat)
  /-- There is no threshold for the contact. -/
  | missingThreshold (contact : Nat)
  /-- A vector does not have the size of the problem. -/
  | vectorSize
  deriving DecidableEq

/-- Why a call returns no result. -/
inductive Failure (R : Type) where
  | error (error : Error R)
  | fault (fault : Fault)

/-- Reads a missing value as a fault. -/
def Failure.ofOption {R α : Type} (fault : Fault) : Option α → Except (Failure R) α
  | some a => .ok a
  | none => .error (.fault fault)

end Complementarity
