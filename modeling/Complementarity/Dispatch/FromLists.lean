import Complementarity.Dispatch.Stock

/-!
Runs of single methods from plain lists.

A caller who skips the dispatcher may hand in lists of any length. They should have the size of the
problem; what a method finds before it looks beyond the entries that both have is reported all the
same.
-/

namespace Complementarity

variable {R : Type} [Scalar R]

/-- The lists that a run starts from. -/
structure ListStart (R : Type) where
  reaction : List R
  velocity : List R

/-- The lists that a run ends with, and its summary. -/
structure ListRun (R : Type) extends Outcome R where
  reaction : List R
  velocity : List R

/-- The candidate that lists describe, if they have its size. -/
def ListStart.candidate? (start : ListStart R) (n : Nat) : Option (Candidate R n) := do
  return ⟨← Vec.ofList? n start.reaction, ← Vec.ofList? n start.velocity⟩

/-- The vectors of a run as lists. -/
def Run.toLists {n : Nat} (run : Run R n) : ListRun R :=
  { run.toOutcome with reaction := run.reaction.toList, velocity := run.velocity.toList }

/-- A run that ends with zeros. -/
def ListRun.zeros (length : Nat) (outcome : Outcome R) : ListRun R :=
  { outcome with reaction := List.replicate length 0, velocity := List.replicate length 0 }

/-- Runs a method from lists of the right size. -/
def runLists {n : Nat} (start : ListStart R)
    (method : Candidate R n → Traced R (Except (Failure R) (Run R n))) :
    Traced R (Except (Failure R) (ListRun R)) :=
  match start.candidate? n with
  | none => pure (.error (.fault .vectorSize))
  | some candidate => (·.map Run.toLists) <$> method candidate

/-- The Tresca method makes no outer iteration with these parameters. -/
def TrescaParams.isIdle (params : TrescaParams R) : Bool :=
  params.iterationCap = 0 || ¬Residual.unmeasured.Exceeds params.tolerance

namespace FrictionProblem

/-- Reports the sweeps that need no velocity: without a contact nothing changes in a sweep, and light
evaluation never looks further if the tolerance is negative. -/
def reportEmptySweeps (problem : FrictionProblem R) (params : SweepParams R) : Traced R Unit :=
  if problem.contacts = 0 ∧ params.evaluation = .light ∧ params.tolerance < 0 then
    (List.range params.iterationCap).forM fun k =>
      reportIteration .gaussSeidel params.verbosity (k + 1) 0 none
  else
    pure ()

/-- Gauss-Seidel sweeps in the plane, from lists. -/
def planarGaussSeidelLists (problem : FrictionProblem R) (params : SweepParams R)
    (start : ListStart R) : Traced R (Except (Failure R) (ListRun R)) :=
  match problem.flatContact? with
  | some c => do
    Traced.report (.nonPositiveContact c)
    return .ok
      { Outcome.aborted .degenerateInput with
        reaction := start.reaction, velocity := start.velocity }
  | none => runLists start fun candidate => .ok <$> problem.planarGaussSeidel params candidate

/-- Gauss-Seidel sweeps in space with the parameters of a configuration, from lists. -/
def gaussSeidelLists (problem : FrictionProblem R) (tree : ConfigTree R)
    (thresholds? : Option (List R)) (start : ListStart R) :
    Traced R (Except (Failure R) (ListRun R)) :=
  match gaussSeidelParams tree with
  | .error failure => pure (.error failure)
  | .ok (solver, params) => do
    if (start.candidate? problem.size).isNone then
      problem.reportEmptySweeps params
    runLists start fun candidate =>
      answering (problem.gaussSeidel params solver thresholds? candidate)

/-- Reports what the Tresca method does before it looks at a velocity: the first inner sweeps, or
the end if there are none. -/
def reportTrescaStart (problem : FrictionProblem R) (params : TrescaParams R) : Traced R Unit :=
  if params.isIdle then
    Traced.reportIf (0 < params.verbosity)
      (.outerFinished (Residual.unmeasured.status params.tolerance) 0 0 .unmeasured)
  else
    problem.reportEmptySweeps params.inner

/-- The Tresca method with the parameters of a configuration, from lists. -/
def trescaLists (problem : FrictionProblem R) (tree : ConfigTree R) (start : ListStart R) :
    Traced R (Except (Failure R) (ListRun R)) :=
  match TrescaParams.ofTree tree with
  | .error failure => pure (.error failure)
  | .ok params => do
    if (start.candidate? problem.size).isNone then
      problem.reportTrescaStart params
    runLists start fun candidate => answering (problem.trescaFixedPoint params candidate)

end FrictionProblem

namespace RelayProblem

/-- What is left of a run that makes no iteration on fewer entries than the problem has. -/
def idleLists (method : Method) (verbosity : UInt8) (tolerance : R) (error : Residual R)
    (residual : R) (length : Nat) : Traced R (Except (Failure R) (ListRun R)) := do
  let outcome ← conclude method verbosity tolerance 0 error
  return .ok (.zeros length { outcome with residual })

/-- Projected Gauss-Seidel for lists of a length. -/
def gaussSeidelLists (problem : RelayProblem R) (params : RelaySweepParams R) (length : Nat) :
    Traced R (Except (Failure R) (ListRun R)) :=
  if length = problem.size then
    (fun run => .ok run.toLists) <$> problem.gaussSeidel params
  else
    match problem.flatIndex?.filter (·.val < length) with
    | some i => do
      Traced.report (.nonPositiveDiagonal i)
      return .ok (.zeros length (.aborted .degenerateInput))
    | none =>
      if problem.size < length ∨
          (0 < params.iterationCap ∧ (Residual.unmeasured).Exceeds params.tolerance) then
        pure (.error (.fault .vectorSize))
      else
        idleLists .relayGaussSeidel params.verbosity params.tolerance .unmeasured 0 length

/-- The search direction of the LATIN method for so many entries, zero beyond. -/
def partialDirection (problem : RelayProblem R) (scale : R) (length : Nat) :
    Vec R problem.size :=
  Vector.ofFn fun i => if i.val < length then (problem.searchDirection scale).get i else 0

/-- The LATIN method for lists of a length. -/
def latinLists (problem : RelayProblem R) (params : LatinParams R) (length : Nat) :
    Traced R (Except (Failure R) (ListRun R)) :=
  if length = problem.size then
    (fun run => .ok run.toLists) <$> problem.latin params
  else if problem.size < length then
    pure (.error (.fault .vectorSize))
  else
    match (vanishingIndex? (problem.searchDirection params.scale)).filter (·.val < length) with
    | some i => do
      Traced.report (.vanishingDirection i)
      return .ok (.zeros length (.aborted .degenerateInput))
    | none =>
      let k := problem.partialDirection params.scale length
      if (Triangle.factor? (problem.latinMatrix k)).isNone then do
        Traced.report .notPositiveDefinite
        return .ok (.zeros length (.aborted .factorizationFailed))
      else if 0 < params.iterationCap ∧ params.tolerance < 1 then
        pure (.error (.fault .vectorSize))
      else
        idleLists .latin params.verbosity params.tolerance (.measured 1) 1 length

end RelayProblem

end Complementarity
