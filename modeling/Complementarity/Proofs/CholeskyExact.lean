import Mathlib.LinearAlgebra.Matrix.PosDef
import Complementarity.Linear.Cholesky
import Complementarity.Proofs.ExactVectors

/-!
The Cholesky factorisation, in exact arithmetic.

The factor of a symmetric matrix solves with the matrix exactly (`mulVec_solve`), and every positive
definite matrix has one (`exists_factor_of_posDef`). The factorisation takes out the first column;
what is left is the Schur complement of the corner, which is symmetric, and positive definite again.
So the proofs are inductions on the size, and a step rests on one identity: the matrix applied to a
vector, in terms of the column taken out and of what is left (`mulVec_cons_zero`,
`mulVec_cons_succ`). Of a matrix that is not symmetric only the lower triangle counts
(`factor?_congr`).
-/

namespace Complementarity

namespace Mat

variable {m n : Nat}

/-- The entries as a matrix of the mathematical library. -/
def toMatrix (a : Mat ℝ m n) : Matrix (Fin m) (Fin n) ℝ :=
  Matrix.of a.entry

@[simp] theorem toMatrix_apply (a : Mat ℝ m n) (i : Fin m) (j : Fin n) :
    a.toMatrix i j = a.entry i j := rfl

theorem get_mulVec_eq (a : Mat ℝ m n) (x : Vec ℝ n) (i : Fin m) :
    (mulVec a x).get i = a.toMatrix.mulVec x.get i :=
  get_mulVec a x i

theorem toMatrix_mulVec (a : Mat ℝ m n) (x : Fin n → ℝ) (i : Fin m) :
    (a.toMatrix.mulVec x) i = ∑ j, a.entry i j * x j := rfl

theorem entry_symm {a : Mat ℝ n n} (h : a.toMatrix.IsHermitian) (i j : Fin n) :
    a.entry i j = a.entry j i := by
  have hsymm := h.apply j i
  rw [star_trivial] at hsymm
  exact hsymm

end Mat

theorem Vec.get_cons {n : Nat} (x : ℝ) (y : Vec ℝ n) : (Vec.cons x y).get = Fin.cons x y.get := by
  funext i
  cases i using Fin.cases with
  | zero => rw [get_cons_zero, Fin.cons_zero]
  | succ i => rw [get_cons_succ, Fin.cons_succ]

namespace Triangle

variable {n : Nat} {a : Mat ℝ (n + 1) (n + 1)}

/-! ### One step of the factorisation -/

/-- The column below the first pivot. -/
noncomputable def firstColumn (a : Mat ℝ (n + 1) (n + 1)) : Vec ℝ n :=
  let first : Fin (n + 1) := ⟨0, n.succ_pos⟩
  Vector.ofFn fun i => a.entry i.succ first / Scalar.sqrt (a.entry first first)

/-- What is left for the smaller factor. -/
noncomputable def remainder (a : Mat ℝ (n + 1) (n + 1)) : Mat ℝ n n :=
  Mat.ofFn fun i j =>
    -(firstColumn a).get j * (firstColumn a).get i + a.entry i.succ j.succ

theorem factor?_of_pos (h : 0 < a.entry 0 0) :
    factor? a = (factor? (remainder a)).map (cons (Scalar.sqrt (a.entry 0 0)) (firstColumn a)) := by
  have hpositive : ¬(Scalar.IsZero (a.entry 0 0) ∨ ¬0 ≤ a.entry 0 0) := by
    rw [Scalar.isZero_iff, not_or, not_not]
    exact ⟨h.ne', h.le⟩
  exact if_neg hpositive

theorem factor?_of_not_pos (h : ¬0 < a.entry 0 0) : factor? a = none := by
  refine if_pos ?_
  rw [Scalar.isZero_iff]
  rcases (not_lt.mp h).lt_or_eq with hneg | hzero
  · exact .inr hneg.not_ge
  · exact .inl hzero

theorem solve_cons (pivot : ℝ) (below : Vec ℝ n) (rest : Triangle ℝ n) (b : Vec ℝ (n + 1)) :
    (cons pivot below rest).solve b =
      let tail := rest.solve (Vec.axpy (-(b.get 0 / pivot)) below (Vec.rest b))
      Vec.cons ((b.get 0 / pivot - Vec.dot below tail) / pivot) tail := by
  have hrest (x : ℝ) (y : Vec ℝ n) : Vec.rest (Vec.cons x y) = y :=
    Vec.ext_get fun i => by rw [Vec.get_rest, Vec.get_cons_succ]
  rw [solve, solveLower_cons, solveUpper_cons, hrest, Vec.get_cons_zero]
  rfl

/-! ### The matrix in terms of the step -/

/-- The pivot times the column gives the first column of the matrix. -/
theorem pivot_mul_firstColumn (h : 0 < a.entry 0 0) (i : Fin n) :
    Scalar.sqrt (a.entry 0 0) * (firstColumn a).get i = a.entry i.succ 0 := by
  have hpivot : Scalar.sqrt (a.entry 0 0) ≠ 0 := (Real.sqrt_pos.mpr h).ne'
  rw [firstColumn, Vec.get_ofFn]
  exact mul_div_cancel₀ _ hpivot

theorem pivot_sq (h : 0 < a.entry 0 0) :
    Scalar.sqrt (a.entry 0 0) * Scalar.sqrt (a.entry 0 0) = a.entry 0 0 :=
  Real.mul_self_sqrt h.le

theorem entry_remainder (a : Mat ℝ (n + 1) (n + 1)) (i j : Fin n) :
    (remainder a).entry i j = a.entry i.succ j.succ - (firstColumn a).get i * (firstColumn a).get j := by
  have hentry : (remainder a).entry i j =
      -(firstColumn a).get j * (firstColumn a).get i + a.entry i.succ j.succ := Mat.entry_ofFn _ i j
  rw [hentry]
  ring

section Step

variable (hpos : 0 < a.entry 0 0) (x : ℝ) (t : Fin n → ℝ)

include hpos

theorem mulVec_cons_zero (hsymm : ∀ i : Fin n, a.entry 0 i.succ = a.entry i.succ 0) :
    a.toMatrix.mulVec (Fin.cons x t) 0 = Scalar.sqrt (a.entry 0 0) *
      (Scalar.sqrt (a.entry 0 0) * x + ∑ j, (firstColumn a).get j * t j) := by
  rw [Mat.toMatrix_mulVec, Fin.sum_univ_succ, mul_add, Finset.mul_sum]
  congr 1
  · rw [Fin.cons_zero, ← mul_assoc, pivot_sq hpos]
  · refine Finset.sum_congr rfl fun j _ => ?_
    rw [Fin.cons_succ, hsymm, ← mul_assoc, pivot_mul_firstColumn hpos]

theorem mulVec_cons_succ (i : Fin n) :
    a.toMatrix.mulVec (Fin.cons x t) i.succ = (firstColumn a).get i *
        (Scalar.sqrt (a.entry 0 0) * x + ∑ j, (firstColumn a).get j * t j) +
      (remainder a).toMatrix.mulVec t i := by
  rw [Mat.toMatrix_mulVec, Mat.toMatrix_mulVec, Fin.sum_univ_succ, mul_add, Finset.mul_sum,
    add_assoc, ← Finset.sum_add_distrib]
  congr 1
  · rw [Fin.cons_zero, ← pivot_mul_firstColumn hpos]
    ring
  · refine Finset.sum_congr rfl fun j _ => ?_
    rw [Fin.cons_succ, entry_remainder]
    ring

end Step

/-! ### Symmetric matrices -/

theorem isHermitian_remainder (h : a.toMatrix.IsHermitian) :
    (remainder a).toMatrix.IsHermitian := by
  refine Matrix.IsHermitian.ext fun i j => ?_
  rw [star_trivial, Mat.toMatrix_apply, Mat.toMatrix_apply, entry_remainder, entry_remainder,
    Mat.entry_symm h i.succ, mul_comm]

/-- If the smaller factor solves with what is left, then the factor solves with the whole matrix. -/
theorem mulVec_solve_cons (hpos : 0 < a.entry 0 0)
    (hsymm : ∀ i : Fin n, a.entry 0 i.succ = a.entry i.succ 0) {l : Triangle ℝ n}
    (hsolve : ∀ b, Mat.mulVec (remainder a) (l.solve b) = b) (b : Vec ℝ (n + 1)) :
    Mat.mulVec a ((cons (Scalar.sqrt (a.entry 0 0)) (firstColumn a) l).solve b) = b := by
  rw [solve_cons]
  set pivot := Scalar.sqrt (a.entry 0 0) with hpivot
  set right := Vec.axpy (-(b.get 0 / pivot)) (firstColumn a) (Vec.rest b) with hright
  set tail := l.solve right
  set front := (b.get 0 / pivot - Vec.dot (firstColumn a) tail) / pivot
  have hpivot_ne : pivot ≠ 0 := (Real.sqrt_pos.mpr hpos).ne'
  -- both kinds of rows contain the same combination of the new unknown and the others
  have hfront : pivot * front + ∑ j, (firstColumn a).get j * tail.get j = b.get 0 / pivot := by
    rw [mul_div_cancel₀ _ hpivot_ne, Vec.dot_eq_sum, sub_add_cancel]
  refine Vec.ext_get fun i => ?_
  rw [Mat.get_mulVec_eq, Vec.get_cons]
  cases i using Fin.cases with
  | zero => rw [mulVec_cons_zero hpos _ _ hsymm, ← hpivot, hfront, mul_div_cancel₀ _ hpivot_ne]
  | succ i =>
    have hleft : (remainder a).toMatrix.mulVec tail.get i = right.get i := by
      rw [← Mat.get_mulVec_eq, hsolve right]
    rw [mulVec_cons_succ hpos, ← hpivot, hfront, hleft, hright, Vec.get_axpy, Vec.get_rest]
    ring

/-- A factorisation that succeeds has found a positive corner and a factor of what is left. -/
theorem exists_of_factor? {l : Triangle ℝ (n + 1)} (h : factor? a = some l) :
    0 < a.entry 0 0 ∧ ∃ rest, factor? (remainder a) = some rest ∧
      cons (Scalar.sqrt (a.entry 0 0)) (firstColumn a) rest = l := by
  by_cases hpos : 0 < a.entry 0 0
  · rw [factor?_of_pos hpos] at h
    exact ⟨hpos, Option.map_eq_some_iff.mp h⟩
  · rw [factor?_of_not_pos hpos] at h
    cases h

/-- The factor of a symmetric matrix solves with it exactly. -/
theorem mulVec_solve {n : Nat} {a : Mat ℝ n n} (hsymm : a.toMatrix.IsHermitian)
    {l : Triangle ℝ n} (h : factor? a = some l) (b : Vec ℝ n) : Mat.mulVec a (l.solve b) = b := by
  induction n with
  | zero => exact Vec.ext_get fun i => i.elim0
  | succ n ih =>
    obtain ⟨hpos, rest, hrest, rfl⟩ := exists_of_factor? h
    exact mulVec_solve_cons hpos (fun i => Mat.entry_symm hsymm 0 i.succ)
      (fun b => ih (isHermitian_remainder hsymm) hrest b) b

/-- A matrix with a factor has a positive diagonal, symmetric or not. -/
theorem entry_pos_of_factor? {n : Nat} {a : Mat ℝ n n} {l : Triangle ℝ n} (h : factor? a = some l)
    (i : Fin n) : 0 < a.entry i i := by
  induction n with
  | zero => exact i.elim0
  | succ n ih =>
    obtain ⟨hpos, rest, hrest, -⟩ := exists_of_factor? h
    cases i using Fin.cases with
    | zero => exact hpos
    | succ i =>
      have hleft := ih hrest i
      rw [entry_remainder] at hleft
      linarith [mul_self_nonneg ((firstColumn a).get i)]

/-- A positive number has a factor. -/
theorem exists_factor_one {a : Mat ℝ 1 1} (h : 0 < a.entry 0 0) : ∃ l, factor? a = some l :=
  ⟨_, factor?_of_pos h⟩

/-- The factor of a number divides by it. -/
theorem entry_mul_get_solve {a : Mat ℝ 1 1} {l : Triangle ℝ 1} (h : factor? a = some l)
    (b : Vec ℝ 1) : a.entry 0 0 * (l.solve b).get 0 = b.get 0 := by
  have hsymm : a.toMatrix.IsHermitian := .ext fun i j => by
    rw [star_trivial, Subsingleton.elim i j]
  rw [← mulVec_solve hsymm h b, Mat.get_mulVec, Fin.sum_univ_one, mulVec_solve hsymm h b]

/-- Only the lower triangle decides about the factor. -/
theorem factor?_congr {n : Nat} {a b : Mat ℝ n n} (h : ∀ i j, j ≤ i → a.entry i j = b.entry i j) :
    factor? a = factor? b := by
  induction n with
  | zero => rfl
  | succ n ih =>
    have hcorner : a.entry 0 0 = b.entry 0 0 := h 0 0 le_rfl
    have hcolumn : firstColumn a = firstColumn b := by
      refine Vec.ext_get fun i => ?_
      rw [firstColumn, firstColumn, Vec.get_ofFn, Vec.get_ofFn]
      exact congrArg₂ (· / Scalar.sqrt ·) (h i.succ 0 (Fin.zero_le _)) hcorner
    by_cases hpos : 0 < a.entry 0 0
    · have hremainder : factor? (remainder a) = factor? (remainder b) := by
        refine ih fun i j hji => ?_
        rw [entry_remainder, entry_remainder, hcolumn, h _ _ (Fin.succ_le_succ_iff.mpr hji)]
      rw [factor?_of_pos hpos, factor?_of_pos (hcorner ▸ hpos), hremainder, hcorner, hcolumn]
    · rw [factor?_of_not_pos hpos, factor?_of_not_pos (hcorner ▸ hpos)]

/-! ### Positive definite matrices -/

/-- The Schur complement of the corner is positive definite. -/
theorem posDef_remainder (h : a.toMatrix.PosDef) : (remainder a).toMatrix.PosDef := by
  have hpos : 0 < a.entry 0 0 := h.diag_pos
  have hsymm (i : Fin n) : a.entry 0 i.succ = a.entry i.succ 0 := Mat.entry_symm h.isHermitian 0 i.succ
  refine .of_dotProduct_mulVec_pos (isHermitian_remainder h.isHermitian) fun t ht => ?_
  -- the first component is chosen to make the first row vanish
  set pivot := Scalar.sqrt (a.entry 0 0) with hpivot
  set shift := ∑ j, (firstColumn a).get j * t j with hshift
  have hpivot_ne : pivot ≠ 0 := (Real.sqrt_pos.mpr hpos).ne'
  have hvanish : pivot * (-shift / pivot) + shift = 0 := by
    rw [mul_div_cancel₀ _ hpivot_ne, neg_add_cancel]
  have hx : (Fin.cons (-shift / pivot) t : Fin (n + 1) → ℝ) ≠ 0 := by
    intro hzero
    exact ht (funext fun i => congrFun hzero i.succ)
  have hform := h.dotProduct_mulVec_pos hx
  rw [star_trivial, dotProduct, Fin.sum_univ_succ, mulVec_cons_zero hpos _ _ hsymm, ← hpivot,
    ← hshift, hvanish, mul_zero, mul_zero, zero_add] at hform
  simpa only [mulVec_cons_succ hpos, ← hpivot, ← hshift, hvanish, mul_zero, zero_add,
    Fin.cons_succ, star_trivial, dotProduct] using hform

/-- A positive definite matrix has a Cholesky factor, which solves with it exactly. -/
theorem exists_factor_of_posDef {n : Nat} {a : Mat ℝ n n} (h : a.toMatrix.PosDef) :
    ∃ l, factor? a = some l ∧ ∀ b, Mat.mulVec a (l.solve b) = b := by
  have hexists : ∃ l, factor? a = some l := by
    induction n with
    | zero => exact ⟨nil, rfl⟩
    | succ n ih =>
      obtain ⟨l, hl⟩ := ih (posDef_remainder h)
      exact ⟨_, by rw [factor?_of_pos h.diag_pos, hl, Option.map_some]⟩
  obtain ⟨l, hl⟩ := hexists
  exact ⟨l, hl, mulVec_solve h.isHermitian hl⟩

end Triangle

end Complementarity
