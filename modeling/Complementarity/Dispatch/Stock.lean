import Complementarity.Dispatch.Dispatcher
import Complementarity.Friction.ExtraGradient
import Complementarity.Friction.FixedPoint
import Complementarity.Friction.Hyperplane
import Complementarity.Friction.PlanarGaussSeidel
import Complementarity.Friction.Tresca
import Complementarity.Relay.GaussSeidel
import Complementarity.Relay.Latin

/-!
The algorithms that come with the library, as a dispatcher runs them.
-/

namespace Complementarity

variable {R : Type} [Scalar R]

namespace FrictionProblem

/-- Refuses problems of another contact dimension. -/
def checkDimension (solver : SolverId) (dimension : Nat) (problem : FrictionProblem R) :
    Except (Error R) Unit :=
  if problem.dimension = dimension then .ok ()
  else .error (.unsupportedDimension solver problem.dimension)

/-- Runs a method with the parameters of a node, which must be complete. -/
def withParams {A B : Type} (params? : Option A) (run : A → Traced R B) :
    Traced R (Except (Failure R) B) :=
  match params? with
  | none => pure (.error (.fault .missingParameter))
  | some params => .ok <$> run params

/-- A run that may leave its domain, as an algorithm answers it. -/
def answering {B : Type} (run : Traced R (Except Fault B)) : Traced R (Except (Failure R) B) :=
  (·.mapError .fault) <$> run

/-- The solver for single contacts and the sweep parameters that a configuration describes. -/
def gaussSeidelParams (tree : ConfigTree R) :
    Except (Failure R) (ContactSolver R × SweepParams R) := do
  let solver ← ContactSolver.ofNode (← tree.internal.mapError .error).root
  return (solver, ← Failure.ofOption .missingParameter (SweepParams.ofNode? tree.root))

/-- Nonsmooth Gauss-Seidel in space with the parameters of a configuration. -/
def gaussSeidelFrom (problem : FrictionProblem R) (tree : ConfigTree R)
    (start : Candidate R problem.size) : Traced R (Except (Failure R) (Run R problem.size)) :=
  match gaussSeidelParams tree with
  | .error failure => pure (.error failure)
  | .ok (solver, params) => answering (problem.gaussSeidel params solver none start)

/-- The Tresca method with the parameters of a configuration. -/
def trescaFrom (problem : FrictionProblem R) (tree : ConfigTree R)
    (start : Candidate R problem.size) : Traced R (Except (Failure R) (Run R problem.size)) :=
  match TrescaParams.ofTree tree with
  | .error failure => pure (.error failure)
  | .ok params => answering (problem.trescaFixedPoint params start)

/-- The parameters of the hyperplane method: those of a projection method and a relaxation. -/
def hyperplaneParams? (node : Node R) : Option (ProjectionParams R × R) := do
  return (← ProjectionParams.ofNode? node, ← node.real? .relaxation)

/-- The algorithms for frictional contact. -/
def stock : List (Algorithm R (FrictionProblem R)) :=
  [{ solver := .planarGaussSeidel
     check := checkDimension .planarGaussSeidel 2
     run := fun problem tree start =>
       withParams (SweepParams.ofNode? tree.root) (problem.planarGaussSeidel · start) },
   { solver := .gaussSeidel
     check := checkDimension .gaussSeidel 3
     run := fun problem tree start => problem.gaussSeidelFrom tree start },
   { solver := .trescaFixedPoint
     check := checkDimension .trescaFixedPoint 3
     run := fun problem tree start => problem.trescaFrom tree start },
   { solver := .deSaxceFixedPoint
     check := checkDimension .deSaxceFixedPoint 3
     run := fun problem tree start =>
       withParams (ProjectionParams.ofNode? tree.root) (problem.deSaxceFixedPoint · start) },
   { solver := .fixedPointProjection
     check := checkDimension .fixedPointProjection 3
     run := fun problem tree start =>
       withParams (ProjectionParams.ofNode? tree.root) (problem.fixedPointProjection · start) },
   { solver := .extraGradient
     check := checkDimension .extraGradient 3
     run := fun problem tree start =>
       withParams (ProjectionParams.ofNode? tree.root) (problem.extraGradient · start) },
   { solver := .hyperplaneProjection
     check := checkDimension .hyperplaneProjection 3
     run := fun problem tree start =>
       withParams (hyperplaneParams? tree.root) fun (params, relaxation) =>
         problem.hyperplaneProjection params relaxation start }]

/-- A dispatcher with every algorithm for frictional contact. -/
def dispatcher : Dispatcher R (FrictionProblem R) :=
  .ofList stock

end FrictionProblem

namespace RelayProblem

/-- The algorithms for relay problems. They start from the zero candidate, wherever they are asked
to start. -/
def stock : List (Algorithm R (RelayProblem R)) :=
  [{ solver := .relayGaussSeidel
     check := fun _ => .ok ()
     run := fun problem tree _ =>
       FrictionProblem.withParams (RelaySweepParams.ofNode? tree.root) problem.gaussSeidel },
   { solver := .relayLatin
     check := fun _ => .ok ()
     run := fun problem tree _ =>
       FrictionProblem.withParams (LatinParams.ofNode? tree.root) problem.latin }]

/-- A dispatcher with every algorithm for relay problems. -/
def dispatcher : Dispatcher R (RelayProblem R) :=
  .ofList stock

end RelayProblem

end Complementarity
