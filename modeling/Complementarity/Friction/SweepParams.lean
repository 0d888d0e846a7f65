import Complementarity.Config.Tree

/-!
Parameters of the Gauss-Seidel methods, which sweep over the contacts.
-/

namespace Complementarity

/-- How a Gauss-Seidel method measures its progress after a sweep. -/
inductive ErrorEvaluation where
  /-- By the error of the problem. -/
  | full
  /-- By the relative change of the reaction, and by the error once the change is small. -/
  | light
  deriving DecidableEq

/-- The error evaluation of an integer parameter. -/
def ErrorEvaluation.ofInteger (k : Int32) : ErrorEvaluation :=
  if k = 1 then light else full

/-- The name of an error evaluation. -/
def ErrorEvaluation.name : ErrorEvaluation → String
  | full => "Full"
  | light => "Light"

/-- Parameters of a Gauss-Seidel method. -/
structure SweepParams (R : Type) where
  iterationCap : Nat
  tolerance : R
  /-- The relaxation of each update. -/
  relaxation : R
  evaluation : ErrorEvaluation
  verbosity : UInt8

/-- The parameters of a node, unless its lists are too short. -/
def SweepParams.ofNode? {R : Type} (node : Node R) : Option (SweepParams R) := do
  let iterationCap ← node.count? .iterationCap
  let tolerance ← node.real? .tolerance
  let relaxation ← node.real? .relaxation
  let evaluation ← node.integer? .errorEvaluation
  return { iterationCap, tolerance, relaxation, evaluation := .ofInteger evaluation,
           verbosity := node.verbosity }

end Complementarity
