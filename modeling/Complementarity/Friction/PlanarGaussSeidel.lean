import Complementarity.Friction.Projection
import Complementarity.Friction.SweepParams

/-!
Nonsmooth Gauss-Seidel sweeps over contacts in the plane.

A contact takes one projection step of size `1 / M_nn`, where `M_nn` is its normal diagonal entry,
at the velocity that includes the latest reactions of all contacts.
-/

namespace Complementarity.FrictionProblem

variable {R : Type} [Scalar R]

theorem planar_fits (problem : FrictionProblem R) (c : Fin problem.contacts) :
    c.val * 2 + 2 ≤ problem.contacts * (problem.tangents + 1) := by
  have ht : 2 ≤ problem.tangents + 1 := by
    rcases problem.tangents_mem with h | h <;> omega
  calc c.val * 2 + 2 = (c.val + 1) * 2 := by omega
    _ ≤ problem.contacts * (problem.tangents + 1) := Nat.mul_le_mul c.isLt ht

/-- The diagonal entry of the normal component of a planar contact. -/
@[specialize] def planarDiagonal (problem : FrictionProblem R) (c : Fin problem.contacts) : R :=
  have := problem.planar_fits c
  problem.matrix[c.val * 2][c.val * 2]

/-- The first contact whose normal diagonal entry is not positive. -/
@[specialize] def flatContact? (problem : FrictionProblem R) : Option (Fin problem.contacts) :=
  (List.finRange problem.contacts).find? fun c =>
    problem.planarDiagonal c ≤ Scalar.diagonalThreshold

/-- The velocity of a planar contact, corrected. -/
@[specialize] def planarVelocity (problem : FrictionProblem R) (c : Fin problem.contacts)
    (r : Vec R problem.size) : Block R 1 :=
  let fits := problem.planar_fits c
  let u : Block R 1 := Vec.add (Vec.slice problem.offset (c.val * 2) fits)
    (Mat.mulVec (Mat.rows problem.matrix (c.val * 2) fits) r)
  Block.ofParts (u.normal + problem.friction.get c * Scalar.abs u.slip) u.tangent

/-- The new reaction of a planar contact. -/
@[specialize] def planarUpdate (problem : FrictionProblem R) (relaxation : R)
    (c : Fin problem.contacts) (r : Vec R problem.size) : Block R 1 :=
  let old : Block R 1 := Vec.slice r (c.val * 2) (problem.planar_fits c)
  let rho := 1 / problem.planarDiagonal c
  let step := Vector.zipWith (fun a b => a - rho * b) old (problem.planarVelocity c r)
  Vec.relax relaxation (projectOnCone (problem.friction.get c) step).2 old

/-- One sweep over the contacts. -/
@[specialize] def planarSweep (problem : FrictionProblem R) (relaxation : R)
    (r : Vec R problem.size) : Vec R problem.size :=
  (List.finRange problem.contacts).foldl
    (fun r c => Vec.splice r (c.val * 2) (problem.planarUpdate relaxation c r)) r

/-- One sweep, measured. -/
@[specialize] def planarStep (problem : FrictionProblem R) (params : SweepParams R) :
    Iteration R (Residual R) Empty (Candidate R problem.size) := fun progress => do
  let (error, candidate) :=
    problem.measure (problem.planarSweep params.relaxation progress.state.reaction)
  reportIteration .planarGaussSeidel params.verbosity (progress.iterations + 1) error none
  return .ok (.measured error, candidate)

/-- Gauss-Seidel sweeps in the plane. A contact with a vanishing diagonal entry ends the run before
it starts. -/
@[specialize] def planarGaussSeidel (problem : FrictionProblem R) (params : SweepParams R)
    (start : Candidate R problem.size) : Traced R (Run R problem.size) :=
  match problem.flatContact? with
  | some c => do
    Traced.report (.nonPositiveContact c)
    return start.ending (.aborted .degenerateInput)
  | none =>
    problem.runMethod .planarGaussSeidel params.iterationCap params.tolerance params.verbosity id
      (problem.planarStep params) start

end Complementarity.FrictionProblem
