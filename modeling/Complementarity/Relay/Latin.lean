import Complementarity.Config.Tree
import Complementarity.Linear.Cholesky
import Complementarity.Relay.Box
import Complementarity.Run.Result

/-!
The LATIN method for relay problems.

A linear stage satisfies `M z - w = q` exactly, by a factorisation of `M + K`; a local stage
satisfies the box constraints exactly. Both stages move along the search direction `K`, a multiple
of the diagonal of `M`.
-/

namespace Complementarity

variable {R : Type} [Scalar R]

/-- Parameters of the LATIN method. -/
structure LatinParams (R : Type) where
  iterationCap : Nat
  tolerance : R
  /-- The factor between the diagonal of the matrix and the search direction. -/
  scale : R
  verbosity : UInt8

/-- The parameters of a node, unless its lists are too short. -/
def LatinParams.ofNode? (node : Node R) : Option (LatinParams R) := do
  let iterationCap ← node.count? .iterationCap
  let tolerance ← node.real? .tolerance
  let scale ← node.real? .step
  return { iterationCap, tolerance, scale, verbosity := node.verbosity }

/-- Where the LATIN method stands: the vectors of the linear stage and those of the local stage. -/
structure LatinState (R : Type) (n : Nat) where
  linear : Candidate R n
  localStage : Candidate R n

namespace RelayProblem

/-- The search direction. -/
@[specialize] def searchDirection (problem : RelayProblem R) (scale : R) : Vec R problem.size :=
  Vector.ofFn fun i => scale * Mat.diagonal problem.matrix i

/-- The first index at which the search direction vanishes. -/
@[specialize] def vanishingIndex? {n : Nat} (k : Vec R n) : Option (Fin n) :=
  (List.finRange n).find? fun i => Scalar.abs (k.get i) ≤ Scalar.diagonalThreshold

/-- The matrix of the linear stage. It is transposed, so its lower triangle is the upper one of the
problem. -/
@[specialize] def latinMatrix (problem : RelayProblem R) (k : Vec R problem.size) :
    Mat R problem.size problem.size :=
  Mat.ofFn fun i j =>
    if i = j then problem.matrix.diagonal i + k.get i else problem.matrix.entry j i

/-- The linear stage, from the vectors of the local one. -/
@[specialize] def linearStage (problem : RelayProblem R) (k : Vec R problem.size)
    (solve : Vec R problem.size → Vec R problem.size) (localStage : Candidate R problem.size) :
    Candidate R problem.size :=
  let push := Vec.add localStage.velocity
    (Vector.zipWith (fun a b => a * b) k localStage.reaction)
  let z := solve (Vec.add problem.offset push)
  ⟨z, Vec.sub push (Vector.zipWith (fun a b => a * b) k z)⟩

/-- The local stage, from the vectors of the linear one. -/
@[specialize] def localStage (problem : RelayProblem R) (k : Vec R problem.size)
    (linear : Candidate R problem.size) : Candidate R problem.size :=
  let pull := Vec.sub linear.velocity (Vector.zipWith (fun a b => a * b) k linear.reaction)
  let w := Vector.ofFn fun i =>
    projectOnInterval (problem.upper.get i) (problem.lower.get i) (pull.get i)
  ⟨Vector.ofFn fun i => (w.get i - pull.get i) / k.get i, w⟩

/-- The gap between the two stages relative to their size, in the norm of the search direction. -/
@[specialize] def latinError {n : Nat} (k : Vec R n) (linear localStage : Candidate R n) : R :=
  let gap : R := Vec.sum <| Vector.ofFn fun i : Fin n =>
    let move := (linear.velocity.get i - localStage.velocity.get i) +
      k.get i * (linear.reaction.get i - localStage.reaction.get i)
    1 / k.get i * move * move
  let size : R := Vec.sum <| Vector.ofFn fun i : Fin n =>
    let w := linear.velocity.get i + localStage.velocity.get i
    let z := linear.reaction.get i + localStage.reaction.get i
    1 / k.get i * w * w + k.get i * z * z
  if 0 < size then Scalar.sqrt (gap / size) else Scalar.sqrt gap

/-- One linear and one local stage. -/
@[specialize] def latinStep (problem : RelayProblem R) (params : LatinParams R)
    (k : Vec R problem.size) (solve : Vec R problem.size → Vec R problem.size) :
    Iteration R R Empty (LatinState R problem.size) := fun progress => do
  let linear := problem.linearStage k solve progress.state.localStage
  let localStage := problem.localStage k linear
  let error := latinError k linear localStage
  reportIteration .latin params.verbosity (progress.iterations + 1) error none
  return .ok (error, { linear, localStage })

/-- The stages in turn, from zero vectors, with a way to solve with `M + K`. -/
@[specialize] def latinWith (problem : RelayProblem R) (params : LatinParams R)
    (k : Vec R problem.size) (solve : Vec R problem.size → Vec R problem.size) :
    Traced R (Run R problem.size) := do
  let ended := settled (← Progress.iterate (params.tolerance < ·)
    (problem.latinStep params k solve) params.iterationCap
    { iterations := 0, error := 1
      state := { linear := Candidate.zero _, localStage := Candidate.zero _ } })
  let outcome ← conclude .latin params.verbosity params.tolerance ended.iterations
    (.measured ended.error)
  return ended.state.linear.ending { outcome with residual := ended.error }

/-- The LATIN method from the zero candidate. A vanishing search direction or a matrix that is not
positive definite ends the run before it starts. -/
@[specialize] def latin (problem : RelayProblem R) (params : LatinParams R) :
    Traced R (Run R problem.size) :=
  let k := problem.searchDirection params.scale
  match vanishingIndex? k with
  | some i => do
    Traced.report (.vanishingDirection i)
    return (Candidate.zero _).ending (.aborted .degenerateInput)
  | none =>
    match Triangle.factor? (problem.latinMatrix k) with
    | none => do
      Traced.report .notPositiveDefinite
      return (Candidate.zero _).ending (.aborted .factorizationFailed)
    | some factor => problem.latinWith params k factor.solve

end RelayProblem

end Complementarity
