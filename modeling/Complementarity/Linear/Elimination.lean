import Complementarity.Linear.Cholesky

/-!
Small dense systems by Gaussian elimination with partial pivoting.
-/

namespace Complementarity.Elimination

variable {R : Type} [Scalar R] {n : Nat}

/-- The row with the largest magnitude in the first column, the earliest among equals. -/
@[specialize] def pivotRow (a : Mat R (n + 1) (n + 1)) : Fin (n + 1) :=
  (Vector.ofFn fun i : Fin n => i.succ).foldl
    (fun best i => if Scalar.abs (a.entry best 0) < Scalar.abs (a.entry i 0) then i else best) 0

/-- Two entries of a vector exchanged, the first one being the first of all. -/
@[specialize] def swapFirst {α : Type} (i : Fin (n + 1)) (x : Vector α (n + 1)) :
    Vector α (n + 1) :=
  Vector.ofFn fun j => if j = 0 then x.get i else if j = i then x.get 0 else x.get j

/-- The unknown in front, once the others are known; they are subtracted from the last one on. -/
@[specialize] def frontUnknown (pivot : R) (row : Vec R n) (rest : Vec R n) (b : R) : R :=
  (Vector.zip row rest).foldr (fun (u, x) total => -x * u + total) b / pivot

/-- Solves the system, unless a pivot is exactly zero. -/
@[specialize] def solve? : {n : Nat} → Mat R n n → Vec R n → Option (Vec R n)
  | 0, _, b => some b
  | n + 1, a, b =>
    let i := pivotRow a
    let a := swapFirst i a
    let b := swapFirst i b
    let pivot := a[0][0]
    if Scalar.IsZero pivot then
      none
    else
      let inverse := 1 / pivot
      let row : Vec R n := Vec.rest a[0]
      let multipliers : Vec R n := Vector.ofFn fun i => a[i.val + 1][0] * inverse
      let reduced : Mat R n n :=
        Mat.ofFn fun i j => -row[j] * multipliers[i] + a[i.val + 1][j.val + 1]
      let rightHand : Vec R n := Vector.ofFn fun i => -b[0] * multipliers[i] + b[i.val + 1]
      (solve? reduced rightHand).map fun rest =>
        Vec.cons (frontUnknown pivot row rest b[0]) rest

/-- One elimination, in terms of the entries. -/
theorem solve?_succ (a : Mat R (n + 1) (n + 1)) (b : Vec R (n + 1)) :
    solve? a b =
      let swapped : Mat R (n + 1) (n + 1) := swapFirst (pivotRow a) a
      let right := swapFirst (pivotRow a) b
      let row : Vec R n := Vec.rest (swapped.get 0)
      let multipliers : Vec R n :=
        Vector.ofFn fun i => swapped.entry i.succ 0 * (1 / swapped.entry 0 0)
      if Scalar.IsZero (swapped.entry 0 0) then
        none
      else
        (solve? (Mat.ofFn fun i j => -row.get j * multipliers.get i + swapped.entry i.succ j.succ)
          (Vector.ofFn fun i => -right.get 0 * multipliers.get i + right.get i.succ)).map
            fun rest => Vec.cons (frontUnknown (swapped.entry 0 0) row rest (right.get 0)) rest :=
  rfl

end Complementarity.Elimination
