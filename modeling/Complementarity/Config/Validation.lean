import Complementarity.Config.Defaults
import Complementarity.Error

/-!
Which configurations are usable.

A node is checked on its own, then together with what it contains. Thresholds pass through the
Gauss-Seidel layer, so a check is told whether it happens inside the Tresca method.
-/

namespace Complementarity

variable {R : Type} [Scalar R]

namespace Node

/-- The lists must have their full length. -/
def countDefect? (node : Node R) : Option (ConfigDefect R) :=
  if node.integers.length ≠ integerCount then
    some (.integerCount node.integers.length)
  else if node.reals.length ≠ realCount then
    some (.realCount node.reals.length)
  else
    none

/-- The iteration cap must not be negative. -/
def capDefect? (node : Node R) : Option (ConfigDefect R) :=
  (node.integer? .iterationCap).bind fun cap => if cap < 0 then some .negativeCap else none

/-- The tolerance must be a number that is not negative. -/
def toleranceDefect? (node : Node R) : Option (ConfigDefect R) :=
  (node.real? .tolerance).bind fun tolerance =>
    if 0 ≤ tolerance then none else some .negativeTolerance

/-- A step size must be positive. -/
def stepDefect? (node : Node R) : Option (ConfigDefect R) :=
  if node.solver.usesStepSize then
    (node.real? .step).bind fun step => if 0 < step then none else some (.stepSize step)
  else
    none

/-- A shrink factor must lie strictly between zero and one. -/
def shrinkDefect? (node : Node R) : Option (ConfigDefect R) :=
  if node.solver.usesStepShrink then
    (node.real? .shrink).bind fun shrink =>
      if 0 < shrink ∧ shrink < 1 then none else some (.stepShrink shrink)
  else
    none

/-- What is wrong with the parameters of a node. -/
def defect? (node : Node R) : Option (ConfigDefect R) :=
  node.countDefect? <|> node.capDefect? <|> node.toleranceDefect? <|> node.stepDefect? <|>
    node.shrinkDefect?

end Node

namespace SolverId

/-- A projection onto the cylinder is only usable inside the Tresca method. -/
def placeDefect? (solver : SolverId) (insideTresca : Bool) : Option (ConfigDefect R) :=
  if solver = cylinderProjection ∧ insideTresca = false then some .missingThresholds else none

/-- What is wrong with an algorithm that has nothing inside it. -/
def aloneDefect? (solver : SolverId) : Option (ConfigDefect R) :=
  solver.allowedInternal?.map fun _ => .missingInternal

/-- What is wrong with the algorithm inside another one. -/
def internalDefect? (solver : SolverId) (insideTresca : Bool) (internal : SolverId) :
    Option (ConfigDefect R) :=
  match solver.allowedInternal? with
  | none => some .unexpectedInternal
  | some allowed =>
    if internal ∉ allowed then
      some (.unsuitableInternal internal)
    else if solver = gaussSeidel ∧ insideTresca = true ∧ internal ≠ cylinderProjection then
      some .needsCylinder
    else
      none

end SolverId

namespace ConfigTree

/-- The first defect of a configuration, with the algorithm it belongs to. -/
def defect? (insideTresca : Bool) : ConfigTree R → Option (SolverId × ConfigDefect R)
  | leaf node =>
    (node.defect? <|> node.solver.placeDefect? insideTresca <|> node.solver.aloneDefect?).map
      fun defect => (node.solver, defect)
  | above node internal =>
    ((node.defect? <|> node.solver.placeDefect? insideTresca <|>
        node.solver.internalDefect? insideTresca internal.root.solver).map
      fun defect => (node.solver, defect)) <|>
    internal.defect? (insideTresca || node.solver = .trescaFixedPoint)

/-- Checks a whole configuration. -/
def validate (tree : ConfigTree R) : Except (Error R) Unit :=
  match tree.defect? false with
  | none => .ok ()
  | some (solver, defect) => .error (.invalidConfiguration solver defect)

/-- The internal configuration, required. -/
def internal (tree : ConfigTree R) : Except (Error R) (ConfigTree R) :=
  match tree.internal? with
  | some internal => .ok internal
  | none => .error (.invalidConfiguration tree.root.solver .missingInternal)

end ConfigTree

end Complementarity
