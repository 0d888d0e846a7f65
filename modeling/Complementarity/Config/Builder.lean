import Complementarity.Config.Validation

/-!
Ways to make a configuration: step by step from the defaults, or from positional lists.
-/

namespace Complementarity

variable {R : Type} [Scalar R]

/-- The node with another integer at the position, unless the list is too short. -/
def Node.setInteger? (node : Node R) (offset : Nat) (value : Int32) : Option (Node R) :=
  if offset < node.integers.length then some (node.setInteger offset value) else none

/-- The node with another real at the position, unless the list is too short. -/
def Node.setReal? (node : Node R) (offset : Nat) (value : R) : Option (Node R) :=
  if offset < node.reals.length then some (node.setReal offset value) else none

/-- One choice of a caller. -/
inductive BuildStep (R : Type) where
  | iterationCap (cap : Nat)
  | tolerance (value : R)
  | verbosity (value : UInt8)
  | integer (offset : Nat) (value : Int32)
  | real (offset : Nat) (value : R)
  | internal (tree : ConfigTree R)

namespace ConfigTree

/-- Changes the outermost node, unless that fails. -/
def mapRoot? (f : Node R → Option (Node R)) (tree : ConfigTree R) : Option (ConfigTree R) :=
  (f tree.root).map fun node => ofNode node tree.internal?

/-- The configuration after one choice, unless its position does not exist. -/
def withStep? (tree : ConfigTree R) : BuildStep R → Option (ConfigTree R)
  | .iterationCap cap =>
    tree.mapRoot? (·.setInteger? IntegerSlot.iterationCap.offset (Node.integerOfCount cap))
  | .tolerance value => tree.mapRoot? (·.setReal? RealSlot.tolerance.offset value)
  | .verbosity value => some (tree.withVerbosity value)
  | .integer offset value => tree.mapRoot? (·.setInteger? offset value)
  | .real offset value => tree.mapRoot? (·.setReal? offset value)
  | .internal internal => some (tree.withInternal (some internal))

/-- The configuration, completed and checked. -/
def completed (tree : ConfigTree R) : Except (Error R) (ConfigTree R) :=
  let filled := tree.fillDefaults
  filled.validate.map fun _ => filled

/-- Builds a configuration from the defaults of an algorithm. -/
def build (solver : SolverId) (steps : List (BuildStep R)) :
    Except (Failure R) (ConfigTree R) :=
  match steps.foldlM withStep? (ofSolver solver) with
  | none => .error (.fault .offsetOutOfRange)
  | some tree => tree.completed.mapError .error

/-- Builds a configuration from a code and positional lists, which count as set. -/
def ofPositional (code : Int) (integers : List Int32) (reals : List R)
    (internal? : Option (ConfigTree R)) : Except (Error R) (ConfigTree R) :=
  match SolverId.ofCode? code with
  | none => .error (.unknownSolver (toString code))
  | some solver =>
    (ofNode { solver, isSet := true, verbosity := 0, integers, reals } internal?).completed

end ConfigTree

end Complementarity
