import Complementarity.Config.Validation
import Complementarity.Run.Result

/-!
Dispatching problems to algorithms.

A dispatcher keeps the algorithms registered for one family of problems and runs the one that a
configuration names. It completes and checks the configuration first, and writes the outcome into
the output entries of its outermost node.
-/

namespace Complementarity

/-- An algorithm for the problems of a family. -/
structure Algorithm (R P : Type) [Problem R P] where
  solver : SolverId
  /-- Refuses problems that the algorithm cannot handle. -/
  check : P → Except (Error R) Unit
  /-- Runs the algorithm from a candidate, with a complete and valid configuration. -/
  run : (problem : P) → ConfigTree R → Candidate R (Problem.size problem) →
    Traced R (Except (Failure R) (Run R (Problem.size problem)))

/-- The algorithms registered for a family of problems, at most one for each identifier. -/
structure Dispatcher (R P : Type) [Problem R P] where
  algorithms : List (Algorithm R P)

namespace Dispatcher

variable {R P : Type} [Problem R P]

/-- No algorithm at all. -/
def empty : Dispatcher R P :=
  ⟨[]⟩

/-- The algorithm registered under an identifier. -/
def find? (dispatcher : Dispatcher R P) (solver : SolverId) : Option (Algorithm R P) :=
  dispatcher.algorithms.find? fun algorithm => algorithm.solver = solver

/-- Registers an algorithm under its own identifier, in place of one it may already have. -/
def register (dispatcher : Dispatcher R P) (algorithm : Algorithm R P) : Dispatcher R P :=
  ⟨algorithm :: dispatcher.algorithms.filter fun other => other.solver ≠ algorithm.solver⟩

/-- Some algorithm is registered under the identifier. -/
def isRegistered (dispatcher : Dispatcher R P) (solver : SolverId) : Bool :=
  (dispatcher.find? solver).isSome

/-- A dispatcher with the given algorithms. -/
def ofList (algorithms : List (Algorithm R P)) : Dispatcher R P :=
  algorithms.foldl register empty

/-- What a call leaves: the result, and the configuration afterwards. -/
structure Answer (R : Type) (n : Nat) where
  result : Except (Failure R) (Run R n)
  tree : ConfigTree R

variable [Scalar R]

/-- The algorithm for a problem under a complete configuration, or the first objection. -/
def select (dispatcher : Dispatcher R P) (problem : P) (tree : ConfigTree R) :
    Except (Error R) (Algorithm R P) := do
  tree.validate
  match dispatcher.find? tree.root.solver with
  | none => .error (.unregisteredSolver tree.root.solver (Problem.family problem))
  | some algorithm => do
    algorithm.check problem
    return algorithm

/-- Runs an algorithm, unless the zero reaction solves the problem. -/
def runAlgorithm (algorithm : Algorithm R P) (problem : P) (tree : ConfigTree R) :
    Traced R (Except (Failure R) (Run R (Problem.size problem))) :=
  let talks : Bool := 0 < tree.root.verbosity
  match Problem.trivialSolution problem (Candidate.zero _) with
  | (true, candidate) => do
    Traced.reportIf talks (.trivialSolution tree.root.solver)
    return .ok (candidate.ending (.aborted .converged))
  | (false, candidate) => do
    Traced.reportIf talks (.solving tree.root.solver (Problem.size problem))
    algorithm.run problem tree candidate

/-- The configuration after a call: a result is written into its output entries. -/
def recorded {n : Nat} (tree : ConfigTree R) (result : Except (Failure R) (Run R n)) :
    ConfigTree R :=
  match result with
  | .error _ => tree
  | .ok run => tree.mapRoot (·.record run.iterations run.residual)

/-- Completes the configuration and solves a problem with the algorithm it names. -/
def attempt (dispatcher : Dispatcher R P) (problem : P) (tree : ConfigTree R) :
    Traced R (Answer R (Problem.size problem)) := do
  let filled := tree.fillDefaults
  match dispatcher.select problem filled with
  | .error error => return { result := .error (.error error), tree := filled }
  | .ok algorithm => do
    let result ← runAlgorithm algorithm problem filled
    return { result, tree := recorded filled result }

/-- The configuration during a call: a given verbosity replaces that of the outermost node. -/
def effective (tree : ConfigTree R) (verbosity? : Option UInt8) : ConfigTree R :=
  tree.withVerbosity (verbosity?.getD tree.root.verbosity)

/-- Solves a problem, under the given verbosity if there is one. However the attempt ends, the
outermost node gets its own verbosity back. -/
def solve (dispatcher : Dispatcher R P) (problem : P) (tree : ConfigTree R)
    (verbosity? : Option UInt8) : Traced R (Answer R (Problem.size problem)) := do
  let answer ← dispatcher.attempt problem (effective tree verbosity?)
  return { answer with tree := answer.tree.withVerbosity tree.root.verbosity }

/-- Solves independent problems, each with a copy of its own configuration. -/
def solveBatch (dispatcher : Dispatcher R P) (items : List (P × ConfigTree R)) :
    Traced R (List ((problem : P) × Except (Failure R) (Run R (Problem.size problem)))) :=
  items.mapM fun (problem, tree) => do
    let answer ← dispatcher.solve problem tree none
    return ⟨problem, answer.result⟩

end Dispatcher

end Complementarity
