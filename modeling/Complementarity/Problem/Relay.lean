import Complementarity.Problem.Basic

/-!
Relay problems: complementarity problems with box constraints.

Find `z` and `w` with `M z - w = q` such that `-z` is normal to the box `[-b, a]` at `w`.
-/

namespace Complementarity

/-- A relay problem. The box goes from `-lower` to `upper`. -/
structure RelayProblem (R : Type) [Scalar R] where
  size : Nat
  matrix : Mat R size size
  offset : Vec R size
  upper : Vec R size
  lower : Vec R size
  box_nonempty : ∀ i : Fin size, -lower.get i ≤ upper.get i

namespace RelayProblem

variable {R : Type} [Scalar R]

/-- The first index at which the bounds leave no room. -/
def emptyIndex? {n : Nat} (upper lower : Vec R n) : Option (Fin n) :=
  (List.finRange n).find? fun i => ¬-lower.get i ≤ upper.get i

theorem le_of_emptyIndex? {n : Nat} {upper lower : Vec R n}
    (h : emptyIndex? upper lower = none) (i : Fin n) : -lower.get i ≤ upper.get i := by
  have := List.find?_eq_none.1 h i (List.mem_finRange i)
  simpa using this

/-- A problem from its data, or what is wrong with them. -/
def ofData (matrix : DenseMatrix R) (offset upper lower : List R) :
    Except (Error R) (RelayProblem R) :=
  let size := offset.length
  match matrix.square size with
  | .error error => .error error
  | .ok entries =>
    match Vec.ofList? size upper with
    | none => .error (.sizeMismatch .upperBounds size upper.length)
    | some upper =>
      match Vec.ofList? size lower with
      | none => .error (.sizeMismatch .lowerBounds size lower.length)
      | some lower =>
        match h : emptyIndex? upper lower with
        | some i => .error (.invalidProblem (.emptyBox i (-lower.get i) (upper.get i)))
        | none =>
          .ok
            { size, matrix := entries, offset := Vec.ofList offset, upper, lower
              box_nonempty := le_of_emptyIndex? h }

/-- The velocity of the zero reaction lies in the box, up to rounding. -/
def IsInside (problem : RelayProblem R) : Prop :=
  ∀ i : Fin problem.size,
    -problem.lower.get i - Scalar.epsilon ≤ -problem.offset.get i ∧
      -problem.offset.get i ≤ problem.upper.get i + Scalar.epsilon

instance (problem : RelayProblem R) : Decidable problem.IsInside :=
  inferInstanceAs (Decidable (∀ _, _))

instance : Problem R (RelayProblem R) where
  family _ := .relay
  size := size
  trivialSolution problem candidate :=
    if problem.IsInside then (true, ⟨Vec.zero _, Vec.neg problem.offset⟩) else (false, candidate)

end RelayProblem

end Complementarity
