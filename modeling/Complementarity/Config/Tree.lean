import Complementarity.Scalar
import Complementarity.Config.SolverId

/-!
Configurations.

An algorithm may run another one inside itself, which may again run a third, so a configuration is
a chain of nodes with the outermost algorithm first. A node keeps its parameters in two positional
lists. A caller may put lists of any length there, so a parameter is read with `integer?` or `real?`.
-/

namespace Complementarity

variable {R : Type}

/-- The positions of the integer parameters. -/
inductive IntegerSlot where
  /-- The largest number of iterations. -/
  | iterationCap
  /-- The number of iterations performed, written by a solve. -/
  | iterationsDone
  /-- The way a Gauss-Seidel method measures its progress. -/
  | errorEvaluation
  /-- The number of trials of a line search. -/
  | lineSearchCap
  /-- The way the tolerance of an inner solve follows the outer error. -/
  | internalTolerance
  deriving DecidableEq

/-- The offset of an integer parameter. -/
def IntegerSlot.offset : IntegerSlot → Nat
  | iterationCap => 0
  | iterationsDone => 1
  | errorEvaluation => 2
  | lineSearchCap => 3
  | internalTolerance => 4

/-- The positions of the real parameters. -/
inductive RealSlot where
  /-- The error at which a run stops. -/
  | tolerance
  /-- The final error, written by a solve. -/
  | residual
  /-- The step size, or the scale of the search direction of the LATIN method. -/
  | step
  /-- The relaxation of an update. -/
  | relaxation
  /-- The factor that shortens a rejected step. -/
  | shrink
  /-- The coefficient of the test that accepts a step. -/
  | coefficient
  deriving DecidableEq

/-- The offset of a real parameter. -/
def RealSlot.offset : RealSlot → Nat
  | tolerance => 0
  | residual => 1
  | step => 2
  | relaxation => 3
  | shrink => 4
  | coefficient => 5

/-- The number of integer parameters of a complete node. -/
def integerCount : Nat := 5

/-- The number of real parameters of a complete node. -/
def realCount : Nat := 6

/-- The configuration of one algorithm. -/
structure Node (R : Type) where
  solver : SolverId
  /-- The parameters have been chosen; otherwise the defaults replace them on first use. -/
  isSet : Bool
  /-- Silent at 0, the result from 1 on, every iteration from 2 on. -/
  verbosity : UInt8
  integers : List Int32
  reals : List R
  deriving BEq

namespace Node

/-- A node whose parameters are still to be chosen. -/
def uninitialized (solver : SolverId) : Node R :=
  { solver, isSet := false, verbosity := 0, integers := [], reals := [] }

/-- An integer parameter, unless the list is too short. -/
def integer? (node : Node R) (slot : IntegerSlot) : Option Int32 :=
  node.integers[slot.offset]?

/-- A real parameter, unless the list is too short. -/
def real? (node : Node R) (slot : RealSlot) : Option R :=
  node.reals[slot.offset]?

/-- An integer parameter that is a count; a negative entry counts as zero. -/
def count? (node : Node R) (slot : IntegerSlot) : Option Nat :=
  (node.integer? slot).map fun k => k.toInt.toNat

/-- The node with another integer at the position, if there is one. -/
def setInteger (node : Node R) (offset : Nat) (value : Int32) : Node R :=
  { node with integers := node.integers.set offset value }

/-- The node with another real at the position, if there is one. -/
def setReal (node : Node R) (offset : Nat) (value : R) : Node R :=
  { node with reals := node.reals.set offset value }

/-- A count as an entry of the integer list; counts beyond its range are cut off at its end. -/
def integerOfCount (k : Nat) : Int32 :=
  if k < Nat.pow 2 31 then Int32.ofNat k else Int32.maxValue

/-- The node with the outcome of a solve in its output entries. -/
def record (node : Node R) (iterations : Nat) (residual : R) : Node R :=
  (node.setInteger IntegerSlot.iterationsDone.offset (integerOfCount iterations)).setReal
    RealSlot.residual.offset residual

end Node

/-- A configuration: a node alone, or a node above the configuration of its internal algorithm. -/
inductive ConfigTree (R : Type) where
  | leaf (node : Node R)
  | above (node : Node R) (internal : ConfigTree R)
  deriving BEq

namespace ConfigTree

/-- The outermost node. -/
def root : ConfigTree R → Node R
  | leaf node => node
  | above node _ => node

/-- The configuration of the internal algorithm. -/
def internal? : ConfigTree R → Option (ConfigTree R)
  | leaf _ => none
  | above _ internal => some internal

/-- A node above an optional internal configuration. -/
def ofNode (node : Node R) : Option (ConfigTree R) → ConfigTree R
  | none => leaf node
  | some internal => above node internal

/-- Changes the outermost node. -/
def mapRoot (f : Node R → Node R) : ConfigTree R → ConfigTree R
  | leaf node => leaf (f node)
  | above node internal => above (f node) internal

/-- The same outermost node above another internal configuration. -/
def withInternal (tree : ConfigTree R) (internal? : Option (ConfigTree R)) : ConfigTree R :=
  ofNode tree.root internal?

/-- The configuration with its outermost verbosity replaced. -/
def withVerbosity (tree : ConfigTree R) (verbosity : UInt8) : ConfigTree R :=
  tree.mapRoot fun node => { node with verbosity }

/-- Changes the configuration found below the given number of nodes. -/
def mapAt (f : ConfigTree R → ConfigTree R) : Nat → ConfigTree R → ConfigTree R
  | 0, tree => f tree
  | depth + 1, above node internal => above node (mapAt f depth internal)
  | _ + 1, leaf node => leaf node

/-- The configuration found below the given number of nodes. -/
def at? : Nat → ConfigTree R → Option (ConfigTree R)
  | 0, tree => some tree
  | depth + 1, above _ internal => internal.at? depth
  | _ + 1, leaf _ => none

/-- The number of nodes below the outermost one. -/
def links : ConfigTree R → Nat
  | leaf _ => 0
  | above _ internal => internal.links + 1

@[simp] theorem root_ofNode (node : Node R) (internal? : Option (ConfigTree R)) :
    (ofNode node internal?).root = node := by
  cases internal? <;> rfl

@[simp] theorem internal?_ofNode (node : Node R) (internal? : Option (ConfigTree R)) :
    (ofNode node internal?).internal? = internal? := by
  cases internal? <;> rfl

theorem ofNode_root (tree : ConfigTree R) : ofNode tree.root tree.internal? = tree := by
  cases tree <;> rfl

end ConfigTree

end Complementarity
