import Complementarity.Linear.Vec

/-!
Cholesky factors of symmetric positive definite matrices.

The factorisation takes the first column, removes its contribution from the rest and goes on with
the matrix that is one smaller. Only the lower triangle of the input is read.
-/

namespace Complementarity

/-- A lower triangular matrix by columns: a pivot, the entries below it, and the smaller rest. -/
inductive Triangle (R : Type) : Nat → Type where
  | nil : Triangle R 0
  | cons {n : Nat} (pivot : R) (below : Vec R n) (rest : Triangle R n) : Triangle R (n + 1)

namespace Triangle

variable {R : Type} [Scalar R]

/-- The Cholesky factor, unless a pivot fails to be positive. -/
@[specialize] def factor? : {n : Nat} → Mat R n n → Option (Triangle R n)
  | 0, _ => some nil
  | n + 1, a =>
    let corner := a[0][0]
    if Scalar.IsZero corner ∨ ¬0 ≤ corner then
      none
    else
      let pivot := Scalar.sqrt corner
      let below : Vec R n := Vector.ofFn fun i => a[i.val + 1][0] / pivot
      let remainder : Mat R n n :=
        Mat.ofFn fun i j => -below[j] * below[i] + a[i.val + 1][j.val + 1]
      (factor? remainder).map (cons pivot below)

/-- Solves with the triangle itself, from the first unknown to the last. -/
@[specialize] def solveLower : {n : Nat} → Triangle R n → Vec R n → Vec R n
  | 0, nil, b => b
  | _ + 1, cons pivot below rest, b =>
    let x := b[0] / pivot
    Vec.cons x (solveLower rest (Vec.axpy (-x) below (Vec.rest b)))

/-- Solves with the transposed triangle, from the last unknown to the first. -/
@[specialize] def solveUpper : {n : Nat} → Triangle R n → Vec R n → Vec R n
  | 0, nil, b => b
  | _ + 1, cons pivot below rest, b =>
    let tail := solveUpper rest (Vec.rest b)
    Vec.cons ((b[0] - Vec.dot below tail) / pivot) tail

/-- Solves with the matrix whose Cholesky factor this is. -/
@[specialize] def solve {n : Nat} (l : Triangle R n) (b : Vec R n) : Vec R n :=
  l.solveUpper (l.solveLower b)

variable {n : Nat}

theorem solveLower_cons (pivot : R) (below : Vec R n) (rest : Triangle R n) (b : Vec R (n + 1)) :
    (cons pivot below rest).solveLower b =
      Vec.cons (b.get 0 / pivot)
        (rest.solveLower (Vec.axpy (-(b.get 0 / pivot)) below (Vec.rest b))) := rfl

theorem solveUpper_cons (pivot : R) (below : Vec R n) (rest : Triangle R n) (b : Vec R (n + 1)) :
    (cons pivot below rest).solveUpper b =
      Vec.cons ((b.get 0 - Vec.dot below (rest.solveUpper (Vec.rest b))) / pivot)
        (rest.solveUpper (Vec.rest b)) := rfl

end Triangle

end Complementarity
