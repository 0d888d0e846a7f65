import Complementarity.Error
import Complementarity.Linear.Vec

/-!
What all families of problems have in common: two vectors are sought, a reaction and a velocity, and
sometimes the zero reaction is already a solution.
-/

namespace Complementarity

/-- A reaction together with a velocity. -/
structure Candidate (R : Type) (n : Nat) where
  reaction : Vec R n
  velocity : Vec R n

/-- Both vectors zero. -/
def Candidate.zero {R : Type} [Scalar R] (n : Nat) : Candidate R n :=
  ⟨Vec.zero n, Vec.zero n⟩

/-- A family of problems. -/
class Problem (R : outParam Type) (P : Type) where
  /-- The family of a problem. -/
  family : P → Family
  /-- The number of unknowns in the reaction and in the velocity. -/
  size : P → Nat
  /-- The zero reaction with its velocity if that solves the problem, and otherwise the candidate as
  it was; the flag tells which. -/
  trivialSolution : (problem : P) → Candidate R (size problem) → Bool × Candidate R (size problem)

/-- A square matrix of the given size, or what is wrong with it. -/
def DenseMatrix.square {R : Type} (a : DenseMatrix R) (n : Nat) : Except (Error R) (Mat R n n) :=
  if hs : a.rowCount = a.columnCount then
    if hn : a.rowCount = n then
      .ok (hn ▸ (hs ▸ a.entries : Mat R a.rowCount a.rowCount))
    else
      .error (.sizeMismatch .matrix n a.rowCount)
  else
    .error (.invalidProblem (.notSquare a.rowCount a.columnCount))

end Complementarity
