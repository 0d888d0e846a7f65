import Complementarity.OneContact.Solver
import Complementarity.Run.Iteration
import Complementarity.Run.LineSearch

/-!
Newton's method for a single contact, on the equation of Alart and Curnier.

The contact law is the nonsmooth equation `Φ(r) = r - P(r - ρ ∘ (W r + q)) = 0`, where `P` projects
the normal component onto the non-negative numbers and the tangential ones onto the disk of radius
`μ` times the projected normal. Steps use an element of the generalised Jacobian of `Φ` and a line
search on `½‖Φ‖²`.
-/

namespace Complementarity.ContactProblem

variable {R : Type} [Scalar R]

/-- Parameters of Newton's method. -/
structure NewtonParams (R : Type) where
  iterationCap : Nat
  tolerance : R
  lineSearch : Backtracking R

/-- The projection `P`, and the matrix of its derivative. -/
@[specialize] def normalDiskProjection (mu : R) (d : Block R 2) : Block R 2 × Mat R 3 3 :=
  let (normal, slope) : R × R := if 0 < d.normal then (d.normal, 1) else (0, 0)
  let radius := mu * normal
  let norm := d.tangentNorm
  if norm ≤ radius then
    (#v[normal, d.first, d.second], #v[#v[slope, 0, 0], #v[0, 1, 0], #v[0, 0, 1]])
  else
    let t₁ := d.first / norm
    let t₂ := d.second / norm
    let bend := radius / norm
    let pull := mu * slope
    (#v[normal, radius * t₁, radius * t₂],
      #v[#v[slope, 0, 0],
        #v[t₁ * pull, (1 - t₁ * t₁) * bend, (0 - t₁ * t₂) * bend],
        #v[t₂ * pull, (0 - t₂ * t₁) * bend, (1 - t₂ * t₂) * bend]])

/-- The value of `Φ` at a reaction and an element of its generalised Jacobian. -/
structure Linearization (R : Type) where
  value : Block R 2
  jacobian : Mat R 3 3

/-- The step sizes `ρ`: one for the normal component and one for both tangential ones, which keeps
the disk a disk. -/
@[specialize] def newtonScaling (problem : ContactProblem R) : Vec R 3 :=
  let (first, second) := problem.tangentialDiagonal
  let tangential := (2.0 : R) / (first + second)
  #v[(1 : R) / problem.normalDiagonal, tangential, tangential]

/-- The equation at a reaction. -/
@[specialize] def linearize (problem : ContactProblem R) (rho : Vec R 3) (r : Block R 2) :
    Linearization R :=
  let u := problem.velocity r
  let d := Vec.sub r (Vector.zipWith (fun a b => a * b) rho u)
  let (p, dp) := normalDiskProjection problem.friction d
  let dd := Mat.sub (Mat.identity 3) (Mat.mul (Mat.ofDiagonal rho) problem.matrix)
  { value := Vec.sub r p, jacobian := Mat.sub (Mat.identity 3) (Mat.mul dp dd) }

/-- Half the squared residual. -/
@[specialize] def merit (problem : ContactProblem R) (rho : Vec R 3) (r : Block R 2) : R :=
  0.5 * Vec.normSq (problem.linearize rho r).value

/-- A diagonal entry vanishes. -/
def IsFlat (problem : ContactProblem R) : Prop :=
  ∃ i : Fin 3, problem.matrix.diagonal i ≤ Scalar.diagonalThreshold

instance (problem : ContactProblem R) : Decidable problem.IsFlat :=
  decidable_of_iff (¬∀ i : Fin 3, ¬problem.matrix.diagonal i ≤ Scalar.diagonalThreshold) <| by
    unfold IsFlat
    exact Classical.not_forall_not

/-- Where Newton's method stands. -/
structure NewtonState (R : Type) where
  reaction : Block R 2
  equation : Linearization R

/-- The Newton direction, or the direction of a fixed point step if the Jacobian is singular. -/
@[specialize] def newtonDirection (equation : Linearization R) : Traced R (Block R 2) :=
  let right := Vec.neg equation.value
  match Elimination.solve? equation.jacobian right with
  | some direction => pure direction
  | none => do
    Traced.report .singularJacobian
    return right

/-- The step length along a direction. -/
@[specialize] def newtonLength (params : NewtonParams R) (problem : ContactProblem R)
    (rho : Vec R 3) (error : R) (r direction : Block R 2) : R :=
  (params.lineSearch.search (0.5 * error * error)
    fun _ length => problem.merit rho (Vec.add r (Vec.scale length direction))).2

/-- One Newton step. -/
@[specialize] def newtonStep (params : NewtonParams R) (problem : ContactProblem R)
    (rho : Vec R 3) : Iteration R R Empty (NewtonState R) := fun progress => do
  let r := progress.state.reaction
  let direction ← newtonDirection progress.state.equation
  let length := problem.newtonLength params rho progress.error r direction
  let reaction := Vec.add r (Vec.scale length direction)
  let equation := problem.linearize rho reaction
  let error := Vec.norm equation.value
  Traced.report (.newtonIteration (progress.iterations + 1) error)
  return .ok (error, { reaction, equation })

/-- Newton's method from a reaction, until the residual is small. -/
@[specialize] def newton (params : NewtonParams R) (problem : ContactProblem R) (r : Block R 2) :
    Traced R (ContactReport R × Block R 2) :=
  if problem.IsFlat then
    pure (.degenerate, r)
  else do
    let rho := problem.newtonScaling
    let equation := problem.linearize rho r
    let ended := settled (← Progress.iterate (params.tolerance < ·)
      (problem.newtonStep params rho) params.iterationCap
      { iterations := 0, error := Vec.norm equation.value, state := { reaction := r, equation } })
    return ({ status := .ofError ended.error params.tolerance, iterations := ended.iterations
              error := ended.error }, ended.state.reaction)

end Complementarity.ContactProblem
