import Mathlib.Analysis.Calculus.Deriv.Abs
import Mathlib.Analysis.Calculus.Deriv.Inv
import Mathlib.Analysis.InnerProductSpace.Calculus
import Mathlib.Analysis.SpecialFunctions.Sqrt
import Complementarity.Proofs.CholeskyExact
import Complementarity.Proofs.NewtonEquation

/-!
The derivatives of Newton's method, in exact arithmetic.

The projection onto half-line and disk clips the normal part at zero. It leaves a tangential part
inside of the disk alone and shrinks one outside of it to the rim. Off the plane of zero and off the
rims, the matrix that comes with it is its derivative (`hasFDerivAt_projectionMap_iff`). On the
plane and on a rim the projection has a kink, but not where the disk has shrunk to its centre
(`differentiableAt_projectionMap_iff`). There it takes the centre for a point inside of the disk,
and its matrix is not the derivative.
-/

namespace Complementarity

/-! ### Vectors and matrices as points and maps -/

namespace Vec

variable {n : Nat}

/-- A point of Euclidean space as a vector. -/
noncomputable def ofCoords (x : EuclideanSpace ℝ (Fin n)) : Vec ℝ n :=
  Vector.ofFn fun i => x i

@[simp] theorem get_ofCoords (x : EuclideanSpace ℝ (Fin n)) (i : Fin n) :
    (ofCoords x).get i = x i :=
  get_ofFn _ i

@[simp] theorem coords_ofCoords (x : EuclideanSpace ℝ (Fin n)) : (ofCoords x).coords = x := by
  ext i
  exact get_ofCoords x i

@[simp] theorem ofCoords_coords (x : Vec ℝ n) : ofCoords x.coords = x :=
  ext_get fun i => get_ofCoords _ i

end Vec

namespace Mat

variable {m n k : Nat}

/-- The linear map of a matrix. -/
noncomputable def toLinear (a : Mat ℝ m n) :
    EuclideanSpace ℝ (Fin n) →L[ℝ] EuclideanSpace ℝ (Fin m) :=
  LinearMap.toContinuousLinearMap (Matrix.toEuclideanLin a.toMatrix)

theorem toLinear_apply (a : Mat ℝ m n) (x : EuclideanSpace ℝ (Fin n)) (i : Fin m) :
    a.toLinear x i = ∑ j, a.entry i j * x j := rfl

theorem toLinear_identity : (identity n : Mat ℝ n n).toLinear = ContinuousLinearMap.id ℝ _ := by
  ext x i
  rw [toLinear_apply]
  simp only [entry_identity, ite_mul, one_mul, zero_mul, Finset.sum_ite_eq, Finset.mem_univ,
    if_true]
  rfl

theorem toLinear_sub (a b : Mat ℝ m n) : (sub a b).toLinear = a.toLinear - b.toLinear := by
  ext x i
  rw [sub_apply, PiLp.sub_apply, toLinear_apply, toLinear_apply, toLinear_apply,
    ← Finset.sum_sub_distrib]
  exact Finset.sum_congr rfl fun j _ => by rw [entry_sub, sub_mul]

theorem toLinear_mul (a : Mat ℝ m k) (b : Mat ℝ k n) :
    (mul a b).toLinear = a.toLinear.comp b.toLinear := by
  ext x i
  rw [ContinuousLinearMap.comp_apply, toLinear_apply, toLinear_apply]
  simp only [entry_mul, toLinear_apply, Finset.sum_mul, Finset.mul_sum, mul_assoc]
  exact Finset.sum_comm

end Mat

open Topology

/-- A map has a derivative where its entries have theirs. -/
theorem hasFDerivAt_iff_entries {m n : Nat}
    {f : EuclideanSpace ℝ (Fin n) → EuclideanSpace ℝ (Fin m)}
    {f' : EuclideanSpace ℝ (Fin n) →L[ℝ] EuclideanSpace ℝ (Fin m)} {x : EuclideanSpace ℝ (Fin n)} :
    HasFDerivAt f f' x ↔
      ∀ i, HasFDerivAt (fun y => f y i) ((EuclideanSpace.proj i).comp f') x := by
  simp only [← hasFDerivWithinAt_univ]
  exact hasFDerivWithinAt_euclidean

namespace ContactProblem

variable {mu : ℝ} {x : EuclideanSpace ℝ (Fin 3)}

/-! ### Inside and outside of the disk -/

/-- The radius of the disk at a point. -/
noncomputable def diskRadius (mu : ℝ) (x : EuclideanSpace ℝ (Fin 3)) : ℝ :=
  mu * max (x 0) 0

/-- The length of the tangential part of a point. -/
noncomputable def slipLength (x : EuclideanSpace ℝ (Fin 3)) : ℝ :=
  Real.sqrt (x 1 ^ 2 + x 2 ^ 2)

/-- The derivative of the normal part. -/
noncomputable def normalSlope (x : EuclideanSpace ℝ (Fin 3)) : ℝ :=
  if 0 < x 0 then 1 else 0

theorem tangentNorm_ofCoords (x : EuclideanSpace ℝ (Fin 3)) :
    Block.tangentNorm (Vec.ofCoords x) = slipLength x := by
  rw [Block.tangentNorm, Scalar.sqrt_eq, Vec.normSq, Vec.sum_eq, Fin.sum_univ_two, Vec.get_map,
    Vec.get_map, Block.tangent, Vec.get_rest, Vec.get_rest, Vec.get_ofCoords, Vec.get_ofCoords,
    slipLength, sq, sq]
  rfl

theorem normalDiskProjection_inside (h : slipLength x ≤ diskRadius mu x) :
    normalDiskProjection mu (Vec.ofCoords x) = (#v[max (x 0) 0, x 1, x 2],
      #v[#v[normalSlope x, 0, 0], #v[0, 1, 0], #v[0, 0, 1]]) := by
  have hnormal : Block.normal (Vec.ofCoords x) = x 0 := Vec.get_ofCoords x 0
  have hfirst : Block.first (Vec.ofCoords x) = x 1 := Vec.get_ofCoords x 1
  have hsecond : Block.second (Vec.ofCoords x) = x 2 := Vec.get_ofCoords x 2
  rw [normalDiskProjection, hnormal, normalPart_eq, ← normalSlope]
  dsimp only
  rw [tangentNorm_ofCoords, ← diskRadius, if_pos h, hfirst, hsecond]

theorem normalDiskProjection_outside (h : diskRadius mu x < slipLength x) :
    normalDiskProjection mu (Vec.ofCoords x) =
      let t₁ := x 1 / slipLength x
      let t₂ := x 2 / slipLength x
      let bend := diskRadius mu x / slipLength x
      let pull := mu * normalSlope x
      (#v[max (x 0) 0, diskRadius mu x * t₁, diskRadius mu x * t₂],
        #v[#v[normalSlope x, 0, 0],
          #v[t₁ * pull, (1 - t₁ * t₁) * bend, (0 - t₁ * t₂) * bend],
          #v[t₂ * pull, (0 - t₂ * t₁) * bend, (1 - t₂ * t₂) * bend]]) := by
  have hnormal : Block.normal (Vec.ofCoords x) = x 0 := Vec.get_ofCoords x 0
  have hfirst : Block.first (Vec.ofCoords x) = x 1 := Vec.get_ofCoords x 1
  have hsecond : Block.second (Vec.ofCoords x) = x 2 := Vec.get_ofCoords x 2
  rw [normalDiskProjection, hnormal, normalPart_eq, ← normalSlope]
  dsimp only
  rw [tangentNorm_ofCoords, ← diskRadius, if_neg h.not_ge, hfirst, hsecond]

/-- The projection of Newton's method on Euclidean space. -/
noncomputable def projectionMap (mu : ℝ) (x : EuclideanSpace ℝ (Fin 3)) :
    EuclideanSpace ℝ (Fin 3) :=
  Vec.coords (normalDiskProjection mu (Vec.ofCoords x)).1

/-- The matrix that comes with the projection. -/
noncomputable def projectionMatrix (mu : ℝ) (x : EuclideanSpace ℝ (Fin 3)) : Mat ℝ 3 3 :=
  (normalDiskProjection mu (Vec.ofCoords x)).2

theorem projectionMap_normal (mu : ℝ) (x : EuclideanSpace ℝ (Fin 3)) :
    projectionMap mu x 0 = max (x 0) 0 := by
  rw [projectionMap]
  rcases le_or_gt (slipLength x) (diskRadius mu x) with h | h
  · rw [normalDiskProjection_inside h]
    rfl
  · rw [normalDiskProjection_outside h]
    rfl

theorem projectionMap_inside (h : slipLength x ≤ diskRadius mu x) (i : Fin 2) :
    projectionMap mu x i.succ = x i.succ := by
  rw [projectionMap, normalDiskProjection_inside h]
  fin_cases i <;> rfl

theorem projectionMap_outside (h : diskRadius mu x < slipLength x) (i : Fin 2) :
    projectionMap mu x i.succ = diskRadius mu x * (x i.succ / slipLength x) := by
  rw [projectionMap, normalDiskProjection_outside h]
  fin_cases i <;> rfl

theorem projectionMatrix_normal (mu : ℝ) (x v : EuclideanSpace ℝ (Fin 3)) :
    (projectionMatrix mu x).toLinear v 0 = normalSlope x * v 0 := by
  rw [Mat.toLinear_apply, Fin.sum_univ_three, projectionMatrix]
  rcases le_or_gt (slipLength x) (diskRadius mu x) with h | h
  · rw [normalDiskProjection_inside h]
    change normalSlope x * v 0 + 0 * v 1 + 0 * v 2 = _
    ring
  · rw [normalDiskProjection_outside h]
    change normalSlope x * v 0 + 0 * v 1 + 0 * v 2 = _
    ring

theorem projectionMatrix_inside (h : slipLength x ≤ diskRadius mu x)
    (v : EuclideanSpace ℝ (Fin 3)) (i : Fin 2) :
    (projectionMatrix mu x).toLinear v i.succ = v i.succ := by
  rw [Mat.toLinear_apply, Fin.sum_univ_three, projectionMatrix, normalDiskProjection_inside h]
  fin_cases i
  · change 0 * v 0 + 1 * v 1 + 0 * v 2 = v 1
    ring
  · change 0 * v 0 + 0 * v 1 + 1 * v 2 = v 2
    ring

theorem projectionMatrix_outside (h : diskRadius mu x < slipLength x)
    (v : EuclideanSpace ℝ (Fin 3)) (i : Fin 2) :
    (projectionMatrix mu x).toLinear v i.succ =
      mu * normalSlope x * v 0 * (x i.succ / slipLength x) + diskRadius mu x / slipLength x *
        (v i.succ - x i.succ / slipLength x * ((x 1 * v 1 + x 2 * v 2) / slipLength x)) := by
  rw [Mat.toLinear_apply, Fin.sum_univ_three, projectionMatrix, normalDiskProjection_outside h]
  set t₁ := x 1 / slipLength x with ht₁
  set t₂ := x 2 / slipLength x with ht₂
  set bend := diskRadius mu x / slipLength x
  set pull := mu * normalSlope x
  rw [add_div, mul_div_right_comm, mul_div_right_comm, ← ht₁, ← ht₂]
  fin_cases i
  · change t₁ * pull * v 0 + (1 - t₁ * t₁) * bend * v 1 + (0 - t₁ * t₂) * bend * v 2 =
      pull * v 0 * t₁ + bend * (v 1 - t₁ * (t₁ * v 1 + t₂ * v 2))
    ring
  · change t₂ * pull * v 0 + (0 - t₂ * t₁) * bend * v 1 + (1 - t₂ * t₂) * bend * v 2 =
      pull * v 0 * t₂ + bend * (v 2 - t₂ * (t₁ * v 1 + t₂ * v 2))
    ring

/-! ### Where the projection is smooth -/

theorem continuous_diskRadius (mu : ℝ) : Continuous (diskRadius mu) := by
  unfold diskRadius
  fun_prop

theorem continuous_slipLength : Continuous slipLength := by
  unfold slipLength
  fun_prop

theorem diskRadius_nonneg (hmu : 0 ≤ mu) (x : EuclideanSpace ℝ (Fin 3)) : 0 ≤ diskRadius mu x :=
  mul_nonneg hmu (le_max_right _ _)

theorem hasFDerivAt_entry (i : Fin 3) :
    HasFDerivAt (fun y : EuclideanSpace ℝ (Fin 3) => y i)
      (EuclideanSpace.proj i : EuclideanSpace ℝ (Fin 3) →L[ℝ] ℝ) x :=
  (EuclideanSpace.proj i : EuclideanSpace ℝ (Fin 3) →L[ℝ] ℝ).hasFDerivAt

/-- The normal part is smooth off the plane of zero. -/
theorem hasFDerivAt_normal (hx : x 0 ≠ 0) :
    HasFDerivAt (fun y : EuclideanSpace ℝ (Fin 3) => max (y 0) 0)
      (normalSlope x • (EuclideanSpace.proj 0 : EuclideanSpace ℝ (Fin 3) →L[ℝ] ℝ)) x := by
  have hcontinuous : ContinuousAt (fun y : EuclideanSpace ℝ (Fin 3) => y 0) x := by fun_prop
  rcases lt_or_gt_of_ne hx with hneg | hpos
  · have hnear : ∀ᶠ y in 𝓝 x, y 0 < 0 := hcontinuous.eventually_lt_const hneg
    rw [normalSlope, if_neg hneg.not_gt, zero_smul]
    refine (hasFDerivAt_const (0 : ℝ) x).congr_of_eventuallyEq ?_
    filter_upwards [hnear] with y hy
    exact max_eq_right hy.le
  · have hnear : ∀ᶠ y in 𝓝 x, 0 < y 0 := hcontinuous.eventually_const_lt hpos
    rw [normalSlope, if_pos hpos, one_smul]
    refine (hasFDerivAt_entry 0).congr_of_eventuallyEq ?_
    filter_upwards [hnear] with y hy
    exact max_eq_left hy.le

theorem hasFDerivAt_slipLength (hx : slipLength x ≠ 0) :
    HasFDerivAt slipLength ((slipLength x)⁻¹ •
      (x 1 • EuclideanSpace.proj 1 + x 2 • EuclideanSpace.proj 2 :
        EuclideanSpace ℝ (Fin 3) →L[ℝ] ℝ)) x := by
  have hsq : x 1 ^ 2 + x 2 ^ 2 ≠ 0 := fun h => hx (by rw [slipLength, h, Real.sqrt_zero])
  have hroot : Real.sqrt (x 1 ^ 2 + x 2 ^ 2) = slipLength x := rfl
  have hsum := ((hasFDerivAt_entry (x := x) 1).pow 2).add ((hasFDerivAt_entry 2).pow 2)
  refine (hsum.sqrt hsq).congr_fderiv ?_
  ext v
  simp only [Pi.add_apply, hroot, one_div, mul_inv_rev, Nat.add_one_sub_one, pow_one, nsmul_eq_mul,
    Nat.cast_ofNat, smul_add, add_apply, smul_apply, PiLp.proj_apply, smul_eq_mul]
  field_simp

/-- Well inside of the disk the tangential part moves with the point. -/
theorem hasFDerivAt_sticking (h : slipLength x < diskRadius mu x) (i : Fin 2) :
    HasFDerivAt (fun y => projectionMap mu y i.succ)
      ((EuclideanSpace.proj i.succ).comp (projectionMatrix mu x).toLinear) x := by
  have hnear : ∀ᶠ y in 𝓝 x, slipLength y < diskRadius mu y :=
    continuous_slipLength.continuousAt.eventually_lt (continuous_diskRadius mu).continuousAt h
  have hentry : HasFDerivAt (fun y => projectionMap mu y i.succ)
      (EuclideanSpace.proj i.succ : EuclideanSpace ℝ (Fin 3) →L[ℝ] ℝ) x := by
    refine (hasFDerivAt_entry i.succ).congr_of_eventuallyEq ?_
    filter_upwards [hnear] with y hy
    exact projectionMap_inside hy.le i
  refine hentry.congr_fderiv ?_
  ext v
  exact (projectionMatrix_inside h.le v i).symm

/-- Outside of the disk the tangential part moves along the rim and with the radius. -/
theorem hasFDerivAt_sliding (hx : x 0 ≠ 0) (hslip : slipLength x ≠ 0)
    (h : diskRadius mu x < slipLength x) (i : Fin 2) :
    HasFDerivAt (fun y => projectionMap mu y i.succ)
      ((EuclideanSpace.proj i.succ).comp (projectionMatrix mu x).toLinear) x := by
  have hnear : ∀ᶠ y in 𝓝 x, diskRadius mu y < slipLength y :=
    (continuous_diskRadius mu).continuousAt.eventually_lt continuous_slipLength.continuousAt h
  have hradius := (hasFDerivAt_normal hx).const_mul mu
  have hinverse := (hasDerivAt_inv hslip).comp_hasFDerivAt x (hasFDerivAt_slipLength hslip)
  have hdirection := (hasFDerivAt_entry i.succ).mul hinverse
  have hformula : (fun y => projectionMap mu y i.succ) =ᶠ[𝓝 x]
      fun y => mu * max (y 0) 0 * (y i.succ * (slipLength y)⁻¹) := by
    filter_upwards [hnear] with y hy
    rw [projectionMap_outside hy, diskRadius, div_eq_mul_inv]
  refine ((hradius.mul hdirection).congr_of_eventuallyEq hformula).congr_fderiv ?_
  have hradius : mu * max (x 0) 0 = diskRadius mu x := rfl
  ext v
  rw [ContinuousLinearMap.comp_apply]
  change _ = (projectionMatrix mu x).toLinear v i.succ
  rw [projectionMatrix_outside h]
  simp only [hradius, smul_add, neg_smul, smul_neg, Function.comp_apply, Pi.mul_apply, add_apply,
    neg_apply, smul_apply, PiLp.proj_apply, smul_eq_mul]
  field_simp
  ring

theorem slipLength_eq_zero_iff : slipLength x = 0 ↔ ∀ i : Fin 2, x i.succ = 0 := by
  rw [slipLength, Real.sqrt_eq_zero (by positivity),
    add_eq_zero_iff_of_nonneg (sq_nonneg _) (sq_nonneg _), sq_eq_zero_iff, sq_eq_zero_iff]
  exact (Fin.forall_fin_two (p := fun i => x i.succ = 0)).symm

/-- Where the radius is zero no tangential part is left. -/
theorem projectionMap_shrunk (h : diskRadius mu x = 0) (i : Fin 2) :
    projectionMap mu x i.succ = 0 := by
  rcases le_or_gt (slipLength x) (diskRadius mu x) with hin | hout
  · have hslip : slipLength x = 0 := le_antisymm (h ▸ hin) (Real.sqrt_nonneg _)
    rw [projectionMap_inside hin, slipLength_eq_zero_iff.mp hslip]
  · rw [projectionMap_outside hout, h, zero_mul]

/-- Off the plane of zero, a disk that has shrunk to its centre stays so nearby. -/
theorem eventually_diskRadius_eq_zero (hx : x 0 ≠ 0) (h : diskRadius mu x = 0) :
    ∀ᶠ y in 𝓝 x, diskRadius mu y = 0 := by
  rcases mul_eq_zero.mp h with rfl | hmax
  · exact .of_forall fun y => zero_mul _
  · have hneg : x 0 < 0 := lt_of_le_of_ne (max_eq_right_iff.mp hmax) hx
    have hcontinuous : ContinuousAt (fun y : EuclideanSpace ℝ (Fin 3) => y 0) x := by fun_prop
    filter_upwards [hcontinuous.eventually_lt_const hneg] with y hy
    rw [diskRadius, max_eq_right hy.le, mul_zero]

theorem hasFDerivAt_shrunk (hx : x 0 ≠ 0) (h : diskRadius mu x = 0) (i : Fin 2) :
    HasFDerivAt (fun y => projectionMap mu y i.succ) (0 : EuclideanSpace ℝ (Fin 3) →L[ℝ] ℝ) x := by
  refine (hasFDerivAt_const (0 : ℝ) x).congr_of_eventuallyEq ?_
  filter_upwards [eventually_diskRadius_eq_zero hx h] with y hy
  exact projectionMap_shrunk hy i

theorem hasFDerivAt_projectionMap_normal (hx : x 0 ≠ 0) :
    HasFDerivAt (fun y => projectionMap mu y 0)
      ((EuclideanSpace.proj 0).comp (projectionMatrix mu x).toLinear) x := by
  simp only [projectionMap_normal]
  refine (hasFDerivAt_normal hx).congr_fderiv ?_
  ext v
  exact (projectionMatrix_normal mu x v).symm

/-- Off the plane of zero and off the rim the matrix is the derivative. -/
theorem hasFDerivAt_projectionMap (hmu : 0 ≤ mu) (hx : x 0 ≠ 0)
    (hrim : slipLength x ≠ diskRadius mu x) :
    HasFDerivAt (projectionMap mu) (projectionMatrix mu x).toLinear x := by
  refine hasFDerivAt_iff_entries.mpr fun i => ?_
  induction i using Fin.cases with
  | zero => exact hasFDerivAt_projectionMap_normal hx
  | succ i =>
    rcases lt_or_gt_of_ne hrim with hin | hout
    · exact hasFDerivAt_sticking hin i
    · exact hasFDerivAt_sliding hx ((diskRadius_nonneg hmu x).trans_lt hout).ne' hout i

/-! ### Where it has a kink -/

theorem not_differentiableAt_max : ¬DifferentiableAt ℝ (fun s : ℝ => max s 0) 0 := by
  intro h
  have habs (s : ℝ) : |s| = 2 * max s 0 - s := by
    rcases le_total s 0 with hs | hs
    · rw [abs_of_nonpos hs, max_eq_right hs, mul_zero, zero_sub]
    · rw [abs_of_nonneg hs, max_eq_left hs]
      ring
  have hdifference := (h.const_mul 2).sub (differentiableAt_id (x := 0))
  exact not_differentiableAt_abs_zero (hdifference.congr_of_eventuallyEq (.of_forall habs))

/-- A map that is smooth at a point is so along the lines through it. -/
theorem differentiableAt_line {f : EuclideanSpace ℝ (Fin 3) → EuclideanSpace ℝ (Fin 3)}
    (h : DifferentiableAt ℝ f x) (v : EuclideanSpace ℝ (Fin 3)) (i : Fin 3) :
    DifferentiableAt ℝ (fun s : ℝ => f (x + s • v) i) 0 := by
  have hentry : DifferentiableAt ℝ (fun y => f y i) (x + (0 : ℝ) • v) := by
    rw [zero_smul, add_zero]
    exact differentiableAt_euclidean.mp h i
  exact DifferentiableAt.comp (f := fun s : ℝ => x + s • v) 0 hentry (by fun_prop)

theorem normal_ne_zero_of_differentiableAt (h : DifferentiableAt ℝ (projectionMap mu) x) :
    x 0 ≠ 0 := by
  intro hx
  refine not_differentiableAt_max ?_
  have hline := differentiableAt_line h (EuclideanSpace.single 0 1) 0
  simpa [projectionMap_normal, hx] using hline

theorem slipLength_of_scaled {y : EuclideanSpace ℝ (Fin 3)} {a : ℝ} (ha : 0 ≤ a)
    (h : ∀ i : Fin 2, y i.succ = a * x i.succ) : slipLength y = a * slipLength x := by
  have hsq : y 1 ^ 2 + y 2 ^ 2 = a ^ 2 * (x 1 ^ 2 + x 2 ^ 2) := by
    rw [show y 1 = a * x 1 from h 0, show y 2 = a * x 2 from h 1]
    ring
  rw [slipLength, hsq, Real.sqrt_mul (sq_nonneg a), Real.sqrt_sq ha, ← slipLength]

/-- On the line from a point of the rim to the axis, what comes before the point is projected onto
it, and what comes after it is left alone. -/
theorem projectionMap_inward (hrim : slipLength x = diskRadius mu x) (hslip : 0 < slipLength x)
    {s : ℝ} (hs : s < 1) (i : Fin 2) :
    projectionMap mu (x + s • !₂[0, -x 1, -x 2]) i.succ = x i.succ * (1 - max s 0) := by
  set y := x + s • !₂[0, -x 1, -x 2] with hy
  have hscaled (j : Fin 2) : y j.succ = (1 - s) * x j.succ := by
    fin_cases j <;> simp [hy] <;> ring
  have hlength : slipLength y = (1 - s) * slipLength x :=
    slipLength_of_scaled (sub_pos.mpr hs).le hscaled
  have hradius : diskRadius mu y = slipLength x := by
    rw [hrim, diskRadius, diskRadius, hy]
    simp
  rcases le_or_gt 0 s with hinward | houtward
  · have hin : slipLength y ≤ diskRadius mu y := by
      rw [hlength, hradius]
      exact mul_le_of_le_one_left hslip.le (by linarith)
    rw [projectionMap_inside hin, hscaled, max_eq_left hinward, mul_comm]
  · have hout : diskRadius mu y < slipLength y := by
      rw [hlength, hradius]
      exact lt_mul_of_one_lt_left hslip (by linarith)
    have hfactor : 1 - s ≠ 0 := (sub_pos.mpr hs).ne'
    rw [projectionMap_outside hout, hscaled, hlength, hradius, max_eq_right houtward.le,
      mul_div_mul_left _ _ hfactor, mul_div_cancel₀ _ hslip.ne', sub_zero, mul_one]

theorem diskRadius_eq_zero_of_differentiableAt (h : DifferentiableAt ℝ (projectionMap mu) x)
    (hrim : slipLength x = diskRadius mu x) : diskRadius mu x = 0 := by
  rw [← hrim]
  by_contra hslip
  obtain ⟨i, hi⟩ := not_forall.mp (mt slipLength_eq_zero_iff.mpr hslip)
  have hpos : 0 < slipLength x := lt_of_le_of_ne (Real.sqrt_nonneg _) (Ne.symm hslip)
  have hline := differentiableAt_line h !₂[0, -x 1, -x 2] i.succ
  have hmax := (hline.const_mul (x i.succ)⁻¹).const_sub 1
  refine not_differentiableAt_max (hmax.congr_of_eventuallyEq ?_)
  filter_upwards [gt_mem_nhds one_pos] with s hs
  rw [projectionMap_inward hrim hpos hs, inv_mul_cancel_left₀ hi, sub_sub_cancel]

/-- The projection is smooth off the plane of zero and off the rims of the disks that have not
shrunk to their centres. -/
theorem differentiableAt_projectionMap_iff (hmu : 0 ≤ mu) :
    DifferentiableAt ℝ (projectionMap mu) x ↔
      x 0 ≠ 0 ∧ (slipLength x = diskRadius mu x → diskRadius mu x = 0) := by
  refine ⟨fun h => ⟨normal_ne_zero_of_differentiableAt h, diskRadius_eq_zero_of_differentiableAt h⟩,
    fun ⟨hx, hrim⟩ => ?_⟩
  by_cases hon : slipLength x = diskRadius mu x
  · refine differentiableAt_euclidean.mpr fun i => ?_
    induction i using Fin.cases with
    | zero => exact (hasFDerivAt_projectionMap_normal hx).differentiableAt
    | succ i => exact (hasFDerivAt_shrunk hx (hrim hon) i).differentiableAt
  · exact (hasFDerivAt_projectionMap hmu hx hon).differentiableAt

/-- The matrix is the derivative off the plane of zero and off every rim. -/
theorem hasFDerivAt_projectionMap_iff (hmu : 0 ≤ mu) :
    HasFDerivAt (projectionMap mu) (projectionMatrix mu x).toLinear x ↔
      x 0 ≠ 0 ∧ slipLength x ≠ diskRadius mu x := by
  refine ⟨fun h => ?_, fun ⟨hx, hrim⟩ => hasFDerivAt_projectionMap hmu hx hrim⟩
  obtain ⟨hx, hshrunk⟩ := (differentiableAt_projectionMap_iff hmu).mp h.differentiableAt
  refine ⟨hx, fun hrim => ?_⟩
  -- along the first tangential direction the projection stays at zero, and the matrix moves it
  have hzero := (hasFDerivAt_iff_entries.mp h 1).unique (hasFDerivAt_shrunk hx (hshrunk hrim) 0)
  have hone := projectionMatrix_inside hrim.le (EuclideanSpace.single 1 1) 0
  have hstays : (projectionMatrix mu x).toLinear (EuclideanSpace.single 1 1) 1 = 0 :=
    congrArg (fun l : EuclideanSpace ℝ (Fin 3) →L[ℝ] ℝ => l (EuclideanSpace.single 1 1)) hzero
  have hmoves : (projectionMatrix mu x).toLinear (EuclideanSpace.single 1 1) 1 = 1 := by
    simpa using hone
  exact one_ne_zero (hmoves.symm.trans hstays)

/-! ### The equation -/

/-- The disk has shrunk to its centre and the block is right above or below it. -/
structure IsPinched (mu : ℝ) (d : Block ℝ 2) : Prop where
  radius_eq : mu * max d.normal 0 = 0
  tangent_eq : d.tangentNorm = 0

theorem isPinched_iff {d : Block ℝ 2} :
    IsPinched mu d ↔ diskRadius mu d.coords = 0 ∧ slipLength d.coords = 0 := by
  rw [← tangentNorm_ofCoords, Vec.ofCoords_coords]
  exact ⟨fun h => ⟨h.radius_eq, h.tangent_eq⟩, fun h => ⟨h.1, h.2⟩⟩

theorem projectionMatrix_coords (mu : ℝ) (d : Block ℝ 2) :
    projectionMatrix mu d.coords = (normalDiskProjection mu d).2 := by
  rw [projectionMatrix, Vec.ofCoords_coords]

/-- Where the projection is smooth, its matrix fails to be the derivative at pinched blocks only. -/
theorem hasFDerivAt_iff_not_isPinched (hmu : 0 ≤ mu) {d : Block ℝ 2}
    (h : DifferentiableAt ℝ (projectionMap mu) d.coords) :
    HasFDerivAt (projectionMap mu) (normalDiskProjection mu d).2.toLinear d.coords ↔
      ¬IsPinched mu d := by
  obtain ⟨hx, hshrunk⟩ := (differentiableAt_projectionMap_iff hmu).mp h
  rw [← projectionMatrix_coords, hasFDerivAt_projectionMap_iff hmu, isPinched_iff]
  constructor
  · rintro ⟨-, hrim⟩ ⟨hradius, hslip⟩
    exact hrim (hslip.trans hradius.symm)
  · intro hpinched
    exact ⟨hx, fun hrim => hpinched ⟨hshrunk hrim, hrim.trans (hshrunk hrim)⟩⟩

/-- The projected step `r - ρ ∘ (W r + q)`. -/
noncomputable def newtonArgument (problem : ContactProblem ℝ) (rho : Vec ℝ 3) (r : Block ℝ 2) :
    Block ℝ 2 :=
  Vec.sub r (Vector.zipWith (fun a b => a * b) rho (problem.velocity r))

/-- The matrix `I - diag(ρ) W`. -/
noncomputable def argumentMatrix (problem : ContactProblem ℝ) (rho : Vec ℝ 3) : Mat ℝ 3 3 :=
  Mat.sub (Mat.identity 3) (Mat.mul (Mat.ofDiagonal rho) problem.matrix)

theorem linearize_value (problem : ContactProblem ℝ) (rho : Vec ℝ 3) (r : Block ℝ 2) :
    (problem.linearize rho r).value.coords =
      r.coords - projectionMap problem.friction (newtonArgument problem rho r).coords := by
  rw [projectionMap, Vec.ofCoords_coords]
  exact Vec.coords_sub _ _

theorem linearize_jacobian (problem : ContactProblem ℝ) (rho : Vec ℝ 3) (r : Block ℝ 2) :
    (problem.linearize rho r).jacobian = Mat.sub (Mat.identity 3) (Mat.mul
      (normalDiskProjection problem.friction (newtonArgument problem rho r)).2
      (argumentMatrix problem rho)) := rfl

theorem entry_argumentMatrix (problem : ContactProblem ℝ) (rho : Vec ℝ 3) (i j : Fin 3) :
    (argumentMatrix problem rho).entry i j =
      (if i = j then 1 else 0) - rho.get i * problem.matrix.entry i j := by
  rw [argumentMatrix, Mat.entry_sub, Mat.entry_identity, Mat.entry_mul]
  simp only [Mat.entry_ofDiagonal, ite_mul, zero_mul, Finset.sum_ite_eq, Finset.mem_univ, if_true]

theorem coords_newtonArgument (problem : ContactProblem ℝ) (rho : Vec ℝ 3)
    (x : EuclideanSpace ℝ (Fin 3)) :
    (newtonArgument problem rho (Vec.ofCoords x)).coords = (argumentMatrix problem rho).toLinear x -
      Vec.coords (Vector.zipWith (fun a b => a * b) rho problem.offset) := by
  ext i
  rw [PiLp.sub_apply, Mat.toLinear_apply, Vec.coords_apply, Vec.coords_apply, newtonArgument,
    Vec.get_sub, Vec.get_zipWith, Vec.get_zipWith, Vec.get_ofCoords, velocity, Vec.get_add,
    Mat.get_mulVec]
  simp only [entry_argumentMatrix, Vec.get_ofCoords, sub_mul, ite_mul, one_mul, zero_mul,
    Finset.sum_sub_distrib, Finset.sum_ite_eq, Finset.mem_univ, if_true, mul_assoc,
    ← Finset.mul_sum]
  ring

theorem hasFDerivAt_newtonArgument (problem : ContactProblem ℝ) (rho : Vec ℝ 3)
    (x : EuclideanSpace ℝ (Fin 3)) :
    HasFDerivAt (fun y => (newtonArgument problem rho (Vec.ofCoords y)).coords)
      (argumentMatrix problem rho).toLinear x := by
  simp only [coords_newtonArgument]
  exact (argumentMatrix problem rho).toLinear.hasFDerivAt.sub_const _

theorem hasFDerivAt_linearize {problem : ContactProblem ℝ} {rho : Vec ℝ 3} {r : Block ℝ 2}
    (h : HasFDerivAt (projectionMap problem.friction)
      (normalDiskProjection problem.friction (newtonArgument problem rho r)).2.toLinear
      (newtonArgument problem rho r).coords) :
    HasFDerivAt (fun x => (problem.linearize rho (Vec.ofCoords x)).value.coords)
      (problem.linearize rho r).jacobian.toLinear r.coords := by
  have hprojection : HasFDerivAt (projectionMap problem.friction)
      (normalDiskProjection problem.friction (newtonArgument problem rho r)).2.toLinear
      (newtonArgument problem rho (Vec.ofCoords r.coords)).coords := by
    rwa [Vec.ofCoords_coords]
  have hargument := hasFDerivAt_newtonArgument problem rho r.coords
  rw [linearize_jacobian, Mat.toLinear_sub, Mat.toLinear_mul, Mat.toLinear_identity]
  simp only [linearize_value, Vec.coords_ofCoords]
  have hchain := hprojection.comp r.coords hargument
  exact (hasFDerivAt_id r.coords).sub hchain

/-- Where the projection of Newton's method is smooth, the matrix that comes with it is its
derivative, and the Jacobian of the equation is the derivative of the equation, unless the projected
block is pinched: there the matrix is not the derivative. -/
theorem newton_derivatives {mu : ℝ} (hmu : 0 ≤ mu) {d : Block ℝ 2}
    (hsmooth : DifferentiableAt ℝ (fun x => (normalDiskProjection mu (Vec.ofCoords x)).1.coords)
      d.coords) :
    (HasFDerivAt (fun x => (normalDiskProjection mu (Vec.ofCoords x)).1.coords)
      (normalDiskProjection mu d).2.toLinear d.coords ↔ ¬IsPinched mu d) ∧
    ∀ (problem : ContactProblem ℝ) (rho : Vec ℝ 3) (r : Block ℝ 2), problem.friction = mu →
      Vec.sub r (Vector.zipWith (fun a b => a * b) rho (problem.velocity r)) = d →
      ¬IsPinched mu d →
      HasFDerivAt (fun x => (problem.linearize rho (Vec.ofCoords x)).value.coords)
        (problem.linearize rho r).jacobian.toLinear r.coords := by
  have hmatrix := hasFDerivAt_iff_not_isPinched hmu hsmooth
  refine ⟨hmatrix, ?_⟩
  rintro problem rho r rfl rfl hpinched
  exact hasFDerivAt_linearize (hmatrix.mpr hpinched)

/-- A contact whose tangential directions are coupled. -/
noncomputable def coupledContact : ContactProblem ℝ where
  matrix := #v[#v[1, 0, 0], #v[0, 1, 0.5], #v[0, 0.5, 1]]
  offset := #v[-1, -0.5, -0.5]
  friction := 0.5
  threshold? := none

theorem differentiableAt_of_straight (hmu : 0 ≤ mu) {normal slip : ℝ} (hnormal : normal ≠ 0)
    (hrim : |slip| = mu * max normal 0 → slip = 0) :
    DifferentiableAt ℝ (projectionMap mu) (Vec.coords (#v[normal, slip, 0] : Block ℝ 2)) := by
  refine (differentiableAt_projectionMap_iff hmu).mpr ⟨hnormal, ?_⟩
  rw [← tangentNorm_ofCoords, Vec.ofCoords_coords, FrictionProblem.tangentNorm_of_straight]
  intro h
  exact h.symm.trans (abs_eq_zero.mpr (hrim h))

/-- The Jacobian at a reaction whose projected step is outside of the disk. -/
theorem coupledContact_linearized :
    (0 : ℝ) ≤ 0.5 ∧
    Vec.sub #v[0, 1, 3] (Vector.zipWith (fun a b => a * b) #v[1, 1, 1]
      (coupledContact.velocity #v[0, 1, 3])) = (#v[1, -1, 0] : Block ℝ 2) ∧
    DifferentiableAt ℝ (fun x => (normalDiskProjection 0.5 (Vec.ofCoords x)).1.coords)
      (Vec.coords (#v[1, -1, 0] : Block ℝ 2)) ∧
    ¬IsPinched 0.5 #v[1, -1, 0] ∧
    HasFDerivAt (fun x => (normalDiskProjection 0.5 (Vec.ofCoords x)).1.coords)
      (normalDiskProjection (0.5 : ℝ) #v[1, -1, 0]).2.toLinear
      (Vec.coords (#v[1, -1, 0] : Block ℝ 2)) ∧
    HasFDerivAt (fun x => (coupledContact.linearize #v[1, 1, 1] (Vec.ofCoords x)).value.coords)
      (coupledContact.linearize #v[1, 1, 1] #v[0, 1, 3]).jacobian.toLinear
      (Vec.coords (#v[0, 1, 3] : Block ℝ 2)) := by
  have hmu : (0 : ℝ) ≤ 0.5 := by norm_num
  have hstep : Vec.sub #v[0, 1, 3] (Vector.zipWith (fun a b => a * b) #v[1, 1, 1]
      (coupledContact.velocity #v[0, 1, 3])) = (#v[1, -1, 0] : Block ℝ 2) := by
    refine Vec.ext_get fun i => ?_
    rw [Vec.get_sub, Vec.get_zipWith, velocity, Vec.get_add, Mat.get_mulVec, Fin.sum_univ_three]
    fin_cases i
    · change 0 - 1 * (1 * 0 + 0 * 1 + 0 * 3 + -1) = (1 : ℝ)
      norm_num
    · change 1 - 1 * (0 * 0 + 1 * 1 + 0.5 * 3 + -0.5) = (-1 : ℝ)
      norm_num
    · change 3 - 1 * (0 * 0 + 0.5 * 1 + 1 * 3 + -0.5) = (0 : ℝ)
      norm_num
  have hsmooth : DifferentiableAt ℝ (projectionMap 0.5) (Vec.coords (#v[1, -1, 0] : Block ℝ 2)) :=
    differentiableAt_of_straight hmu one_ne_zero (by norm_num)
  have hpinched : ¬IsPinched 0.5 #v[1, -1, 0] := fun h => by
    have hzero := h.tangent_eq
    rw [FrictionProblem.tangentNorm_of_straight] at hzero
    norm_num at hzero
  have hderivatives := newton_derivatives hmu hsmooth
  exact ⟨hmu, hstep, hsmooth, hpinched, hderivatives.1.mpr hpinched,
    hderivatives.2 coupledContact #v[1, 1, 1] #v[0, 1, 3] rfl hstep hpinched⟩

/-- Right below the centre of a disk the projection is constant, but its matrix is not zero. -/
theorem normalDiskProjection_misses_derivative :
    DifferentiableAt ℝ (fun x => (normalDiskProjection 0.5 (Vec.ofCoords x)).1.coords)
      (Vec.coords (#v[-1, 0, 0] : Block ℝ 2)) ∧
    ¬HasFDerivAt (fun x => (normalDiskProjection 0.5 (Vec.ofCoords x)).1.coords)
      (normalDiskProjection (0.5 : ℝ) #v[-1, 0, 0]).2.toLinear
      (Vec.coords (#v[-1, 0, 0] : Block ℝ 2)) := by
  have hmu : (0 : ℝ) ≤ 0.5 := by norm_num
  have hsmooth : DifferentiableAt ℝ (projectionMap 0.5) (Vec.coords (#v[-1, 0, 0] : Block ℝ 2)) :=
    differentiableAt_of_straight hmu (by norm_num) fun _ => rfl
  have hpinched : IsPinched 0.5 #v[-1, 0, 0] := by
    refine ⟨?_, by rw [FrictionProblem.tangentNorm_of_straight, abs_zero]⟩
    have hnormal : Block.normal (#v[-1, 0, 0] : Block ℝ 2) = -1 := rfl
    rw [hnormal]
    norm_num
  exact ⟨hsmooth, fun h => (hasFDerivAt_iff_not_isPinched hmu hsmooth).mp h hpinched⟩

end ContactProblem

end Complementarity
