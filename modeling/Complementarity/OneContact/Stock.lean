import Complementarity.Config.Tree
import Complementarity.Error
import Complementarity.OneContact.Newton
import Complementarity.OneContact.Projection

/-!
The solvers for a single contact that a configuration can name.
-/

namespace Complementarity

open ContactProblem

variable {R : Type} [Scalar R]

/-- The parameters of the repeated projection, unless the lists are too short. -/
def ContactProblem.ConeIterationParams.ofNode? (node : Node R) :
    Option (ConeIterationParams R) := do
  let tolerance ← node.real? .tolerance
  let iterationCap ← node.count? .iterationCap
  let step ← node.real? .step
  let shrink ← node.real? .shrink
  let coefficient ← node.real? .coefficient
  let retries ← node.count? .lineSearchCap
  return { iterationCap, tolerance, step, shrink, coefficient, retries }

/-- The parameters of Newton's method, unless the lists are too short. -/
def ContactProblem.NewtonParams.ofNode? (node : Node R) : Option (NewtonParams R) := do
  let tolerance ← node.real? .tolerance
  let iterationCap ← node.count? .iterationCap
  let armijo ← node.real? .coefficient
  let factor ← node.real? .shrink
  let trials ← node.count? .lineSearchCap
  return { iterationCap, tolerance, lineSearch := { armijo, factor, trials } }

namespace ContactSolver

/-- The single projection onto the cone. -/
@[specialize] def coneProjection (tolerance : R) : ContactSolver R :=
  { solver := .coneProjection, solve := fun problem r => pure (problem.projectCone tolerance r) }

/-- The repeated projection onto the cone. -/
@[specialize] def coneIteration (params : ConeIterationParams R) : ContactSolver R :=
  { solver := .coneIteration, solve := fun problem r => pure (problem.iterateCone params r) }

/-- The single projection onto the cylinder. -/
@[specialize] def cylinderProjection (tolerance : R) : ContactSolver R :=
  { solver := .cylinderProjection
    solve := fun problem r => pure (problem.projectCylinder tolerance r) }

/-- Newton's method. -/
@[specialize] def newton (params : NewtonParams R) : ContactSolver R :=
  { solver := .newton, solve := fun problem r => problem.newton params r }

/-- The solver a node configures. -/
def ofNode (node : Node R) : Except (Failure R) (ContactSolver R) := do
  let tolerance ← Failure.ofOption .missingParameter (node.real? .tolerance)
  match node.solver with
  | .coneProjection => return coneProjection tolerance
  | .coneIteration =>
    return coneIteration (← Failure.ofOption .missingParameter (ConeIterationParams.ofNode? node))
  | .cylinderProjection => return cylinderProjection tolerance
  | .newton => return newton (← Failure.ofOption .missingParameter (NewtonParams.ofNode? node))
  | solver => throw (.error (.invalidConfiguration solver .notOneContact))

end ContactSolver

end Complementarity
