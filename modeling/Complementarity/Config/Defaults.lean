import Complementarity.Config.Tree

/-!
Default parameters.

Filling completes a configuration node by node: a node that is set keeps its parameters, one that is
not gets the defaults of its algorithm and, if it stands alone, the default internal algorithm.
-/

namespace Complementarity

variable {R : Type} [Scalar R]

/-- The default integers: cap, iterations done, error evaluation, search cap, inner tolerance. -/
def SolverId.defaultIntegers : SolverId → List Int32
  | gaussSeidel => [1000, 0, 1, 20, 0]
  | trescaFixedPoint => [100, 0, 0, 20, 1]
  | coneProjection | coneIteration | cylinderProjection => [100, 0, 0, 20, 0]
  | newton => [50, 0, 0, 20, 0]
  | _ => [1000, 0, 0, 20, 0]

/-- The default reals: tolerance, residual, step, relaxation, shrink factor, coefficient. -/
def SolverId.defaultReals : SolverId → List R
  | relayLatin => [1e-6, 0, 0.3, 1, 2.0 / 3.0, 0.9]
  | hyperplaneProjection => [1e-6, 0, 1, 1, 0.6, 0.9]
  | coneProjection | coneIteration | cylinderProjection => [1e-12, 0, 1, 1, 2.0 / 3.0, 0.9]
  | newton => [1e-12, 0, 1, 1, 0.5, 1e-4]
  | _ => [1e-6, 0, 1, 1, 2.0 / 3.0, 0.9]

/-- The node with the default parameters of its algorithm. -/
def Node.withDefaults (node : Node R) : Node R :=
  { node with
    isSet := true
    integers := node.solver.defaultIntegers
    reals := node.solver.defaultReals }

/-- The node, with default parameters unless it is set. -/
def Node.filled (node : Node R) : Node R :=
  if node.isSet then node else node.withDefaults

/-- A complete node of an algorithm. -/
def Node.complete (solver : SolverId) : Node R :=
  (Node.uninitialized solver).withDefaults

/-- The internal configuration that an algorithm runs with by default. -/
def SolverId.defaultInternal? : SolverId → Option (ConfigTree R)
  | gaussSeidel => some (.leaf (.complete coneIteration))
  | trescaFixedPoint => some (.above (.complete gaussSeidel) (.leaf (.complete cylinderProjection)))
  | _ => none

namespace ConfigTree

/-- Completes every node that is not set. -/
def fillDefaults : ConfigTree R → ConfigTree R
  | leaf node =>
    if node.isSet then leaf node else ofNode node.withDefaults node.solver.defaultInternal?
  | above node internal => above node.filled internal.fillDefaults

/-- A configuration whose parameters are chosen on first use. -/
def uninitialized (solver : SolverId) : ConfigTree R :=
  leaf (.uninitialized solver)

/-- The complete default configuration of an algorithm. -/
def ofSolver (solver : SolverId) : ConfigTree R :=
  (uninitialized solver).fillDefaults

end ConfigTree

end Complementarity
