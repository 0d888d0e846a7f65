import Mathlib.Analysis.InnerProductSpace.PiL2
import Complementarity.Contact.Block
import Complementarity.Proofs.ExactReals

/-!
Vectors of exact numbers.

With the reals as scalars, a vector is a point of a Euclidean space. `Vec.coords` reads it as one;
sums, inner products, norms and distances are then the usual ones, so that statements about vectors
can be settled in the inner product space.
-/

namespace Complementarity

namespace Scalar

@[simp] theorem sqrt_eq (x : ℝ) : sqrt x = Real.sqrt x := rfl

theorem abs_eq (x : ℝ) : abs x = |x| := by
  unfold abs
  by_cases hneg : x < 0
  · rw [if_pos hneg, abs_of_neg hneg]
  · rw [if_neg hneg, abs_of_nonneg (not_lt.mp hneg)]

theorem greater_eq_max (x y : ℝ) : greater x y = max x y := by
  unfold greater
  by_cases h : x < y
  · rw [if_pos (.inl h), max_eq_right h.le]
  · rw [if_neg (not_or.mpr ⟨h, not_not.mpr le_rfl⟩), max_eq_left (not_lt.mp h)]

theorem lesser_eq_min (x y : ℝ) : lesser x y = min x y := by
  unfold lesser
  by_cases h : y < x
  · rw [if_pos (.inl h), min_eq_right h.le]
  · rw [if_neg (not_or.mpr ⟨h, not_not.mpr le_rfl⟩), min_eq_left (not_lt.mp h)]

@[simp] theorem isZero_iff (x : ℝ) : IsZero x ↔ x = 0 :=
  ⟨fun h => le_antisymm h.1 h.2, fun h => ⟨h.le, h.ge⟩⟩

theorem epsilon_pos : (0 : ℝ) < epsilon := by
  norm_num [epsilon]

theorem diagonalThreshold_pos : (0 : ℝ) < diagonalThreshold := by
  norm_num [diagonalThreshold]

end Scalar

namespace Vec

variable {n : Nat}

/-! ### Sums -/

theorem sumFrom_eq (start : ℝ) (x : Vec ℝ n) : sumFrom start x = start + ∑ i, x.get i := by
  rw [sumFrom, ← Vector.foldl_toList, toList_eq_ofFn, ← List.sum_ofFn]
  generalize List.ofFn x.get = entries
  induction entries generalizing start with
  | nil => simp
  | cons a rest ih => rw [List.foldl_cons, ih, List.sum_cons, add_assoc]

theorem sum_eq (x : Vec ℝ n) : sum x = ∑ i, x.get i := by
  rw [sum, sumFrom_eq, zero_add]

theorem sumProducts_eq_sum (x y : Vec ℝ n) : sumProducts x y = ∑ i, x.get i * y.get i := by
  simp only [sumProducts, sum_eq, get_zipWith]

/-- A sum over so many whole eights, one place in them after the other. -/
theorem sum_range_eights (f : Nat → ℝ) (eights : Nat) :
    ∑ i ∈ Finset.range (8 * eights), f i =
      ∑ place : Fin 8, ∑ i ∈ Finset.range eights, f (8 * i + place.val) := by
  induction eights with
  | zero => simp
  | succ eights ih =>
    rw [Nat.mul_succ, Finset.sum_range_add, ih,
      ← Fin.sum_univ_eq_sum_range (fun i => f (8 * eights + i)), ← Finset.sum_add_distrib]
    exact Finset.sum_congr rfl fun place _ => (Finset.sum_range_succ _ _).symm

/-- The entries of a vector, and zeros behind them. -/
noncomputable def continued (x : Vec ℝ n) (i : Nat) : ℝ :=
  if h : i < n then x.get ⟨i, h⟩ else 0

theorem continued_of_lt (x : Vec ℝ n) {i : Nat} (h : i < n) : x.continued i = x.get ⟨i, h⟩ :=
  dif_pos h

theorem sum_eq_sum_continued (x : Vec ℝ n) :
    ∑ i, x.get i = ∑ i ∈ Finset.range n, x.continued i := by
  rw [Finset.sum_range]
  exact Finset.sum_congr rfl fun i _ => (x.continued_of_lt i.isLt).symm

theorem laneSum_eq (x : Vec ℝ n) (place : Fin 8) :
    laneSum x place = ∑ i ∈ Finset.range (n / 8), x.continued (8 * i + place.val) := by
  rw [laneSum, sum_eq, Finset.sum_range]
  exact Finset.sum_congr rfl fun i _ => by rw [get_ofFn, continued_of_lt]; rfl

theorem sum_afterLanes (x : Vec ℝ n) :
    ∑ i, (afterLanes x).get i = ∑ i ∈ Finset.range (n % 8), x.continued (8 * (n / 8) + i) := by
  rw [Finset.sum_range]
  exact Finset.sum_congr rfl fun i _ => by rw [afterLanes, get_ofFn, continued_of_lt]; rfl

/-- In exact arithmetic it does not matter that the sum is taken in lanes. -/
theorem sumInLanes_eq (x : Vec ℝ n) : sumInLanes x = ∑ i, x.get i := by
  have hall : ∑ i, x.get i =
      ∑ i ∈ Finset.range (8 * (n / 8) + n % 8), x.continued i := by
    rw [Nat.div_add_mod, sum_eq_sum_continued]
  rw [hall, Finset.sum_range_add, sum_range_eights, Fin.sum_univ_eight, sumInLanes, sumFrom_eq,
    sum_afterLanes]
  simp only [laneSum_eq]
  ring

theorem dot_eq_sum (x y : Vec ℝ n) : dot x y = ∑ i, x.get i * y.get i := by
  simp only [dot, sumInLanes_eq, get_zipWith]

theorem norm_eq_sqrt (x : Vec ℝ n) : norm x = Scalar.sqrt (normSq x) := by
  rw [norm, sumInLanes_eq, normSq, sum_eq]

/-! ### Coordinates -/

/-- A vector as a point of Euclidean space. -/
noncomputable def coords (x : Vec ℝ n) : EuclideanSpace ℝ (Fin n) :=
  WithLp.toLp 2 x.get

@[simp] theorem coords_apply (x : Vec ℝ n) (i : Fin n) : x.coords i = x.get i := rfl

theorem coords_injective : Function.Injective (coords (n := n)) := by
  intro x y h
  refine ext_get fun i => ?_
  rw [← coords_apply, h, coords_apply]

@[simp] theorem coords_zero : (zero n : Vec ℝ n).coords = 0 := by
  ext i
  exact get_zero i

@[simp] theorem coords_sub (x y : Vec ℝ n) : (sub x y).coords = x.coords - y.coords := by
  ext i
  exact get_sub x y i

@[simp] theorem coords_scale (a : ℝ) (x : Vec ℝ n) : (scale a x).coords = a • x.coords := by
  ext i
  rw [coords_apply, get_scale, mul_comm]
  rfl

theorem dot_eq_inner (x y : Vec ℝ n) : dot x y = inner ℝ x.coords y.coords := by
  rw [dot_eq_sum, PiLp.inner_apply]
  exact Finset.sum_congr rfl fun i _ => mul_comm _ _

theorem normSq_eq (x : Vec ℝ n) : normSq x = ‖x.coords‖ ^ 2 := by
  rw [normSq, sum_eq, EuclideanSpace.norm_sq_eq]
  refine Finset.sum_congr rfl fun i _ => ?_
  rw [get_map, coords_apply, Real.norm_eq_abs, sq_abs, sq]

theorem sqrt_normSq (x : Vec ℝ n) : Scalar.sqrt (normSq x) = ‖x.coords‖ := by
  rw [normSq_eq, Scalar.sqrt_eq, Real.sqrt_sq (norm_nonneg _)]

theorem norm_eq (x : Vec ℝ n) : norm x = ‖x.coords‖ := by
  rw [norm_eq_sqrt, sqrt_normSq]

theorem distSq_eq (x y : Vec ℝ n) : distSq x y = ‖x.coords - y.coords‖ ^ 2 := by
  rw [← coords_sub, ← normSq_eq, distSq, normSq, sum_eq, sum_eq]
  exact Finset.sum_congr rfl fun i _ => by simp only [get_zipWith, get_map, get_sub]

theorem distSq_nonneg (x y : Vec ℝ n) : 0 ≤ distSq x y := by
  rw [distSq_eq]
  exact sq_nonneg _

theorem distSq_eq_zero {x y : Vec ℝ n} : distSq x y = 0 ↔ x = y := by
  rw [distSq_eq, sq_eq_zero_iff, norm_eq_zero, sub_eq_zero, coords_injective.eq_iff]

theorem norm_eq_zero_iff {x : Vec ℝ n} : norm x = 0 ↔ x = zero n := by
  rw [norm_eq, norm_eq_zero, ← coords_zero, coords_injective.eq_iff]

theorem sub_eq_zero_iff {x y : Vec ℝ n} : sub x y = zero n ↔ x = y := by
  rw [← coords_injective.eq_iff, coords_sub, coords_zero, sub_eq_zero, coords_injective.eq_iff]

/-- Relaxing towards the point itself changes nothing. -/
@[simp] theorem relax_self (omega : ℝ) (x : Vec ℝ n) : relax omega x x = x := by
  refine ext_get fun i => ?_
  rw [get_relax]
  ring

/-- Relaxing with a factor that is not zero changes something unless the point is already there. -/
theorem relax_eq_right_iff {omega : ℝ} (homega : omega ≠ 0) {new old : Vec ℝ n} :
    relax omega new old = old ↔ new = old := by
  constructor
  · intro h
    refine ext_get fun i => ?_
    have hentry : omega * new.get i + (1 - omega) * old.get i = old.get i := by
      rw [← get_relax, h]
    exact mul_left_cancel₀ homega (by linarith)
  · rintro rfl
    exact relax_self omega _

end Vec

namespace Mat

variable {m n k : Nat}

theorem get_mulVec (a : Mat ℝ m n) (x : Vec ℝ n) (i : Fin m) :
    (mulVec a x).get i = ∑ j, a.entry i j * x.get j := by
  rw [mulVec, Vec.get_map, Vec.sumProducts_eq_sum]
  rfl

/-- The velocities of the problems have this form. -/
theorem get_gemv (a : Mat ℝ m n) (x : Vec ℝ n) (y : Vec ℝ m) (i : Fin m) :
    (gemv 1 a x 1 y).get i = y.get i + ∑ j, a.entry i j * x.get j := by
  have hone : ¬Scalar.IsZero (1 : ℝ) := by simp
  rw [gemv, Vec.get_zipWith, Vec.sumFrom_eq, if_neg hone, one_mul]
  congr 1
  refine Finset.sum_congr rfl fun j _ => ?_
  rw [Vec.get_zipWith, one_mul]
  rfl

theorem ext_entry {a b : Mat ℝ m n} (h : ∀ i j, a.entry i j = b.entry i j) : a = b :=
  Vec.ext_get fun i => Vec.ext_get fun j => h i j

theorem entry_identity (i j : Fin n) :
    (identity n : Mat ℝ n n).entry i j = if i = j then 1 else 0 :=
  entry_ofFn _ i j

theorem entry_ofDiagonal (x : Vec ℝ n) (i j : Fin n) :
    (ofDiagonal x).entry i j = if i = j then x.get i else 0 :=
  entry_ofFn _ i j

theorem entry_sub (a b : Mat ℝ m n) (i : Fin m) (j : Fin n) :
    (sub a b).entry i j = a.entry i j - b.entry i j := by
  change ((sub a b).get i).get j = _
  rw [sub, Vec.get_zipWith, Vec.get_sub]
  rfl

theorem entry_mul (a : Mat ℝ m k) (b : Mat ℝ k n) (i : Fin m) (j : Fin n) :
    (mul a b).entry i j = ∑ l, a.entry i l * b.entry l j := by
  have hcolumn (l : Fin k) : ((transpose b).get j).get l = b.entry l j := entry_ofFn _ j l
  change ((mul a b).get i).get j = _
  rw [mul, Vec.get_map, Vec.get_map, Vec.sumProducts_eq_sum]
  exact Finset.sum_congr rfl fun l _ => by rw [hcolumn]; rfl

theorem mulVec_identity (x : Vec ℝ n) : mulVec (identity n) x = x := by
  refine Vec.ext_get fun i => ?_
  simp only [get_mulVec, entry_identity, ite_mul, one_mul, zero_mul, Finset.sum_ite_eq,
    Finset.mem_univ, if_true]

end Mat

end Complementarity
