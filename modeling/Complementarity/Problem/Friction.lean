import Complementarity.Contact.Cone
import Complementarity.Problem.Basic

/-!
Frictional contact problems.

Find reactions `r` and velocities `u = M r + q` such that at every contact the reaction lies in the
friction cone, the corrected velocity lies in the dual cone, and the two are orthogonal.
-/

namespace Complementarity

/-- A frictional contact problem in the plane (one tangential component) or in space (two). -/
structure FrictionProblem (R : Type) [Scalar R] where
  contacts : Nat
  tangents : Nat
  matrix : Mat R (contacts * (tangents + 1)) (contacts * (tangents + 1))
  offset : Stack R contacts tangents
  friction : Vec R contacts
  tangents_mem : tangents = 1 ∨ tangents = 2
  friction_nonneg : ∀ c : Fin contacts, 0 ≤ friction.get c

namespace FrictionProblem

variable {R : Type} [Scalar R]

/-- The number of components of a contact. -/
def dimension (problem : FrictionProblem R) : Nat :=
  problem.tangents + 1

/-- The number of unknowns. -/
abbrev size (problem : FrictionProblem R) : Nat :=
  problem.contacts * (problem.tangents + 1)

/-- The first friction coefficient that is not a non-negative number. -/
def badFriction? (friction : List R) : Option R :=
  friction.find? fun mu => ¬0 ≤ mu

theorem nonneg_of_badFriction? {n : Nat} {friction : List R} {v : Vec R n}
    (hv : Vec.ofList? n friction = some v) (h : badFriction? friction = none) (c : Fin n) :
    0 ≤ v.get c := by
  have hsize : friction.toArray.size = n := by
    unfold Vec.ofList? at hv
    split at hv
    · assumption
    · cases hv
  have hval : v = ⟨friction.toArray, hsize⟩ := by
    simp only [Vec.ofList?, hsize, ↓reduceDIte, Option.some.injEq] at hv
    exact hv.symm
  have hmem : v.get c ∈ friction := by
    subst hval
    simp [Vector.get]
  have := List.find?_eq_none.1 h _ hmem
  simpa using this

/-- A problem from its data, or what is wrong with them. -/
def ofData (dimension : Nat) (matrix : DenseMatrix R) (offset friction : List R) :
    Except (Error R) (FrictionProblem R) :=
  if hd : dimension = 2 ∨ dimension = 3 then
    if hm : offset.length % dimension = 0 then
      let tangents := dimension - 1
      let contacts := offset.length / dimension
      have hsize : offset.toArray.size = contacts * (tangents + 1) := by
        have := Nat.div_add_mod offset.length dimension
        rcases hd with rfl | rfl <;> simp [tangents, contacts] <;> omega
      match matrix.square (contacts * (tangents + 1)) with
      | .error error => .error error
      | .ok entries =>
        match hf : Vec.ofList? contacts friction with
        | none => .error (.sizeMismatch .frictionCoefficients contacts friction.length)
        | some coefficients =>
          match hb : badFriction? friction with
          | some value => .error (.invalidProblem (.frictionCoefficient value))
          | none =>
            .ok
              { contacts, tangents, matrix := entries, offset := ⟨offset.toArray, hsize⟩
                friction := coefficients, tangents_mem := by omega
                friction_nonneg := nonneg_of_badFriction? hf hb }
    else
      .error (.invalidProblem (.partialContact offset.length dimension))
  else
    .error (.invalidProblem (.contactDimension dimension))

/-- The velocity `M r + q`. -/
@[specialize] def velocity (problem : FrictionProblem R)
    (r : Stack R problem.contacts problem.tangents) : Stack R problem.contacts problem.tangents :=
  Mat.gemv 1 problem.matrix r 1 problem.offset

/-- Every contact opens on its own. -/
def IsOpen (problem : FrictionProblem R) : Prop :=
  ∀ c : Fin problem.contacts, -Scalar.epsilon ≤ (problem.offset.block c).normal

instance (problem : FrictionProblem R) : Decidable problem.IsOpen :=
  inferInstanceAs (Decidable (∀ _, _))

instance : Problem R (FrictionProblem R) where
  family problem := if problem.tangents = 1 then .frictionContact2D else .frictionContact3D
  size := size
  trivialSolution problem candidate :=
    if problem.IsOpen then (true, ⟨Vec.zero _, problem.offset⟩) else (false, candidate)

end FrictionProblem

end Complementarity
