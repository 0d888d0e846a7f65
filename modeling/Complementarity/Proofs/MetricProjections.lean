import Complementarity.Proofs.AdmissibleReactions
import Complementarity.Proofs.PartialReals

/-!
The projections of a contact are metric projections, in exact arithmetic.

The projection of a block onto a convex set is the one point of the set from which the way to the
block forms no acute angle with the way to any other point of the set. For the cone this follows
from the dual cone, for the cylinder from its half-line and its disk. The divisor of both
projections is the tangential norm. On the way to the cone it is positive wherever it is used; on
the way to the cylinder it is so unless a negative radius meets a block without a tangential part.
-/

namespace Complementarity

variable {t : Nat} {mu radius : ℝ} {b p r : Block ℝ t}

/-! ### Nearest points -/

/-- An admissible point from which the way to `b` forms no acute angle with the way to another
admissible point. -/
structure IsMetricProjection (Admissible : Block ℝ t → Prop) (b p : Block ℝ t) : Prop where
  admissible : Admissible p
  dot_nonpos (y : Block ℝ t) : Admissible y → Vec.dot (Vec.sub b p) (Vec.sub y p) ≤ 0

/-- No admissible point is nearer. -/
theorem IsMetricProjection.distSq_le {Admissible : Block ℝ t → Prop}
    (h : IsMetricProjection Admissible b p) {y : Block ℝ t} (hy : Admissible y) :
    Vec.distSq b p ≤ Vec.distSq b y := by
  have hangle := h.dot_nonpos y hy
  rw [Vec.dot_eq_inner, Vec.coords_sub, Vec.coords_sub] at hangle
  have hsplit : b.coords - y.coords = (b.coords - p.coords) - (y.coords - p.coords) := by abel
  rw [Vec.distSq_eq, Vec.distSq_eq, hsplit, norm_sub_sq_real (b.coords - p.coords)]
  linarith [sq_nonneg ‖y.coords - p.coords‖]

theorem Block.normal_sub (x y : Block ℝ t) :
    Block.normal (Vec.sub x y) = x.normal - y.normal :=
  Vec.get_sub x y 0

theorem Block.tangent_coords_sub (x y : Block ℝ t) :
    (Block.tangent (Vec.sub x y)).coords = x.tangent.coords - y.tangent.coords := by
  ext i
  calc (Block.tangent (Vec.sub x y)).get i = (Vec.sub x y).get i.succ := Vec.get_rest _ i
    _ = x.tangent.get i - y.tangent.get i := by
      rw [Vec.get_sub, ← Vec.get_rest x i, ← Vec.get_rest y i]; rfl

theorem Block.dot_eq (x y : Block ℝ t) :
    Vec.dot x y = x.normal * y.normal + inner ℝ x.tangent.coords y.tangent.coords := by
  rw [← Vec.dot_eq_inner, Vec.dot_eq_sum, Vec.dot_eq_sum, Fin.sum_univ_succ]
  congr 1
  exact Finset.sum_congr rfl fun i _ => by rw [tangent, tangent, Vec.get_rest, Vec.get_rest]

/-- The angle between two ways, by normal and tangential parts. -/
theorem Block.dot_sub_sub (b p y : Block ℝ t) :
    Vec.dot (Vec.sub b p) (Vec.sub y p) =
      (b.normal - p.normal) * (y.normal - p.normal) +
        inner ℝ (b.tangent.coords - p.tangent.coords) (y.tangent.coords - p.tangent.coords) := by
  rw [dot_eq, normal_sub, normal_sub, tangent_coords_sub, tangent_coords_sub]

/-! ### The cone -/

theorem IsConeProjection.isMetricProjection (h : IsConeProjection mu b p) :
    IsMetricProjection (InCone mu) b p where
  admissible := ⟨h.normal_nonneg, (Block.tangentNorm_eq p).trans_le h.tangent_le⟩
  dot_nonpos y hy := by
    have htangent := hy.tangent_le
    rw [Block.tangentNorm_eq] at htangent
    have hdual := inner_nonneg_of_cones hy.normal_nonneg htangent h.dual
    have horth := h.orthogonal
    rw [Block.dot_sub_sub]
    simp only [inner_sub_left, inner_sub_right] at hdual horth ⊢
    linarith [real_inner_comm y.tangent.coords p.tangent.coords,
      real_inner_comm y.tangent.coords b.tangent.coords,
      real_inner_comm p.tangent.coords b.tangent.coords]

/-- A block that forms no acute angle with any point of the cone. -/
def InPolarCone (mu : ℝ) (r : Block ℝ t) : Prop :=
  ∀ y : Block ℝ t, InCone mu y → Vec.dot r y ≤ 0

/-- Against a block that is not in the polar cone stands the point of the cone above its tangential
part. -/
theorem inPolarCone_iff (hmu : 0 ≤ mu) :
    InPolarCone mu r ↔ mu * r.tangentNorm ≤ -r.normal := by
  constructor
  · intro hpolar
    set x := r.tangent.coords with hx
    set y : Block ℝ t := Block.ofParts 1 (Vec.scale (mu / ‖x‖) r.tangent) with hy
    have hnorm : ‖(mu / ‖x‖) • x‖ ≤ mu := by
      rcases (norm_nonneg x).eq_or_lt with h0 | h0
      · rw [norm_eq_zero.mp h0.symm, smul_zero, norm_zero]
        exact hmu
      · exact (norm_shrunk h0 hmu).le
    have hcone : InCone mu y := by
      constructor
      · rw [hy, Block.normal_ofParts]
        exact zero_le_one
      · rw [Block.tangentNorm_eq, hy, Block.tangent_ofParts, Vec.coords_scale, Block.normal_ofParts,
          mul_one]
        exact hnorm
    have hangle := hpolar y hcone
    rw [Block.dot_eq, hy, Block.normal_ofParts, Block.tangent_ofParts, Vec.coords_scale, mul_one,
      real_inner_smul_right, real_inner_self_eq_norm_sq] at hangle
    have hlength : mu / ‖x‖ * ‖x‖ ^ 2 = mu * ‖x‖ := by
      rcases eq_or_ne ‖x‖ 0 with h0 | h0
      · rw [h0]
        ring
      · field_simp
    rw [Block.tangentNorm_eq]
    linarith
  · intro hle y hy
    have htangent := hy.tangent_le
    rw [Block.tangentNorm_eq] at hle htangent
    have hdual := inner_nonneg_of_cones hy.normal_nonneg htangent
      (show mu * ‖-r.tangent.coords‖ ≤ -r.normal by rwa [norm_neg])
    rw [inner_neg_right, real_inner_comm] at hdual
    rw [Block.dot_eq]
    linarith

theorem inCone_iff (hmu : 0 ≤ mu) (hpolar : ¬InPolarCone mu r) :
    InCone mu r ↔ r.tangentNorm ≤ mu * r.normal := by
  rw [inPolarCone_iff hmu, not_le] at hpolar
  constructor
  · exact fun h => h.tangent_le
  · intro hle
    refine ⟨?_, hle⟩
    by_contra hneg
    rw [not_le] at hneg
    have hnorm : r.tangentNorm ≤ 0 := hle.trans (mul_nonpos_of_nonneg_of_nonpos hmu hneg.le)
    linarith [mul_nonpos_of_nonneg_of_nonpos hmu hnorm]

/-- What a region says about a block and its projection. -/
def ConeRegion.Fits (mu : ℝ) (r p : Block ℝ t) : ConeRegion → Prop
  | polar => p = Vec.zero (t + 1) ∧ InPolarCone mu r
  | inside => p = r ∧ InCone mu r
  | boundary => ¬InPolarCone mu r ∧ ¬InCone mu r ∧ p.tangentNorm = mu * p.normal ∧
      0 < r.tangentNorm

theorem region_fits (hmu : 0 ≤ mu) (r : Block ℝ t) :
    (projectOnCone mu r).1.Fits mu r (projectOnCone mu r).2 := by
  have hproject := projectOnCone_isConeProjection hmu r
  unfold projectOnCone at hproject ⊢
  dsimp only at hproject ⊢
  by_cases hpolar : mu * r.tangentNorm ≤ -r.normal
  · rw [if_pos hpolar]
    exact ⟨rfl, (inPolarCone_iff hmu).mpr hpolar⟩
  · have hnotPolar := (inPolarCone_iff hmu).not.mpr hpolar
    rw [if_neg hpolar] at hproject ⊢
    by_cases hinside : r.tangentNorm ≤ mu * r.normal
    · rw [if_pos hinside]
      exact ⟨rfl, (inCone_iff hmu hnotPolar).mpr hinside⟩
    · have hpos := tangentNorm_pos_of_outside hmu (not_le.mp hpolar) (not_le.mp hinside)
      rw [if_neg hinside] at hproject ⊢
      refine ⟨hnotPolar, (inCone_iff hmu hnotPolar).not.mpr hinside, ?_, hpos⟩
      have hnormal := hproject.normal_nonneg
      rw [Block.normal_ofParts] at hnormal ⊢
      rw [Block.tangentNorm_eq r] at hpos hnormal ⊢
      rw [Block.tangentNorm_eq, Block.tangent_ofParts, Vec.coords_scale]
      exact norm_shrunk hpos (mul_nonneg hmu hnormal)

/-- On numbers that may be undefined, the projection has the values it has in the reals. -/
theorem projectOnCone_defined (hmu : 0 ≤ mu) (r : Block ℝ t) :
    projectOnCone (.of mu) r.defined =
      ((projectOnCone mu r).1, (projectOnCone mu r).2.defined) := by
  unfold projectOnCone
  simp only [Block.tangentNorm_defined, Block.normal_defined, Block.tangent_defined,
    PartialReal.of_mul, PartialReal.of_neg, PartialReal.of_le, PartialReal.of_add,
    PartialReal.one_eq]
  by_cases hpolar : mu * r.tangentNorm ≤ -r.normal
  · rw [if_pos hpolar, if_pos hpolar, Vec.zero_defined]
  · rw [if_neg hpolar, if_neg hpolar]
    by_cases hinside : r.tangentNorm ≤ mu * r.normal
    · rw [if_pos hinside, if_pos hinside]
    · have hpos := tangentNorm_pos_of_outside hmu (not_le.mp hpolar) (not_le.mp hinside)
      have hden : mu * mu + 1 ≠ 0 := by positivity
      rw [if_neg hinside, if_neg hinside, PartialReal.of_div hden, PartialReal.of_mul,
        PartialReal.of_div hpos.ne', Vec.scale_defined, Block.ofParts_defined]

/-- Wherever a block lies, its projection onto the cone is the metric one, the region that comes
with it is right, and every division on the way has a divisor that is not zero. -/
theorem projectOnCone_is_metric (hmu : 0 ≤ mu) (r : Block ℝ t) :
    IsMetricProjection (InCone mu) r (projectOnCone mu r).2 ∧
    (∀ y, InCone mu y → Vec.distSq r (projectOnCone mu r).2 ≤ Vec.distSq r y) ∧
    (projectOnCone mu r).1.Fits mu r (projectOnCone mu r).2 ∧
    projectOnCone (.of mu) r.defined =
      ((projectOnCone mu r).1, (projectOnCone mu r).2.defined) := by
  have hmetric := (projectOnCone_isConeProjection hmu r).isMetricProjection
  exact ⟨hmetric, fun _ => hmetric.distSq_le, region_fits hmu r, projectOnCone_defined hmu r⟩

/-- A block that goes to the boundary. -/
theorem projectOnCone_outside :
    (0 : ℝ) ≤ 0.3 ∧
    IsMetricProjection (InCone 0.3) (#v[0.94, -0.5, 0] : Block ℝ 2) #v[1, -0.3, 0] ∧
    ConeRegion.boundary.Fits 0.3 (#v[0.94, -0.5, 0] : Block ℝ 2) #v[1, -0.3, 0] ∧
    projectOnCone (.of 0.3) (Vec.defined #v[0.94, -0.5, 0]) =
      (.boundary, Vec.defined (#v[1, -0.3, 0] : Block ℝ 2)) := by
  have hmu : (0 : ℝ) ≤ 0.3 := by norm_num
  obtain ⟨hmetric, -, hfits, hdefined⟩ :=
    projectOnCone_is_metric hmu (#v[0.94, -0.5, 0] : Block ℝ 2)
  have hproject : projectOnCone 0.3 (#v[0.94, -0.5, 0] : Block ℝ 2) =
      (.boundary, #v[1, -0.3, 0]) := by
    have hnorm : Block.tangentNorm (#v[0.94, -0.5, 0] : Block ℝ 2) = 0.5 := by
      rw [FrictionProblem.tangentNorm_of_straight]
      norm_num [abs_of_nonpos]
    have hnormal : Block.normal (#v[0.94, -0.5, 0] : Block ℝ 2) = 0.94 := rfl
    have hheight : ((0.3 : ℝ) * 0.5 + 0.94) / (0.3 * 0.3 + 1) = 1 := by norm_num
    have hpolar : ¬(0.3 : ℝ) * 0.5 ≤ -0.94 := by norm_num
    have hinside : ¬(0.5 : ℝ) ≤ 0.3 * 0.94 := by norm_num
    rw [projectOnCone, hnorm, hnormal]
    dsimp only
    rw [if_neg hpolar, if_neg hinside, hheight]
    refine congrArg (ConeRegion.boundary, ·) (ContactProblem.eq_ofParts rfl ?_ ?_).symm <;>
      rw [Vec.get_scale, Block.tangent, Vec.get_rest] <;> norm_num [Vector.get]
  rw [hproject] at hmetric hfits hdefined
  exact ⟨hmu, hmetric, hfits, hdefined⟩

/-! ### The cylinder -/

/-- A reaction in the cylinder, which a negative radius shrinks to the half-line. -/
structure InCylinder (radius : ℝ) (r : Block ℝ t) : Prop where
  normal_nonneg : 0 ≤ r.normal
  tangent_le : r.tangentNorm ≤ max radius 0

/-- The way from a disk to a point outside forms no acute angle with the way to another point of the
disk. -/
theorem IsDiskProjection.inner_nonpos {E : Type} [NormedAddCommGroup E] [InnerProductSpace ℝ E]
    {x p y : E} (h : IsDiskProjection radius x p) (hy : ‖y‖ ≤ radius) :
    inner ℝ (x - p) (y - p) ≤ 0 := by
  have hbound : inner ℝ (x - p) y ≤ radius * ‖x - p‖ :=
    calc inner ℝ (x - p) y ≤ ‖x - p‖ * ‖y‖ := real_inner_le_norm _ _
      _ ≤ ‖x - p‖ * radius := mul_le_mul_of_nonneg_left hy (norm_nonneg _)
      _ = radius * ‖x - p‖ := mul_comm _ _
  rw [inner_sub_right, h.inner_eq]
  linarith

/-- The same on the half-line. -/
theorem sub_max_mul_nonpos {a c : ℝ} (hc : 0 ≤ c) : (a - max a 0) * (c - max a 0) ≤ 0 := by
  rcases le_total 0 a with ha | ha
  · rw [max_eq_left ha, sub_self, zero_mul]
  · rw [max_eq_right ha, sub_zero, sub_zero]
    exact mul_nonpos_of_nonpos_of_nonneg ha hc

theorem projectOnCylinder_isMetricProjection (radius : ℝ) (r : Block ℝ t) :
    IsMetricProjection (InCylinder radius) r (projectOnCylinder radius r) := by
  have hnormal := normal_projectOnCylinder radius r
  have hdisk := tangent_projectOnCylinder_max radius r
  refine ⟨⟨hnormal ▸ le_max_right _ _, (Block.tangentNorm_eq _).trans_le hdisk.norm_le⟩, ?_⟩
  intro y hy
  have htangent := hy.tangent_le
  rw [Block.tangentNorm_eq] at htangent
  rw [Block.dot_sub_sub, hnormal]
  exact add_nonpos (sub_max_mul_nonpos hy.normal_nonneg) (hdisk.inner_nonpos htangent)

/-- On numbers that may be undefined, the projection has the values it has in the reals, as long as
the norm is not zero where it divides. -/
theorem projectOnCylinder_defined (hdivisor : radius < r.tangentNorm → r.tangentNorm ≠ 0) :
    projectOnCylinder (.of radius) r.defined = (projectOnCylinder radius r).defined := by
  unfold projectOnCylinder
  simp only [Block.tangentNorm_defined, Block.normal_defined, Block.tangent_defined,
    PartialReal.of_lt, PartialReal.zero_eq, PartialReal.greater_of]
  by_cases hout : radius < r.tangentNorm
  · rw [if_pos hout, if_pos hout, PartialReal.of_div (hdivisor hout), Vec.scale_defined,
      Block.ofParts_defined]
  · rw [if_neg hout, if_neg hout, Block.ofParts_defined]

/-- A negative radius and a block without a tangential part make zero divided by zero. -/
theorem projectOnCylinder_undefined (hradius : radius < 0) (hr : r.tangentNorm = 0) (i : Fin t) :
    (Block.tangent (projectOnCylinder (.of radius) r.defined)).get i = .undefined := by
  unfold projectOnCylinder
  simp only [Block.tangentNorm_defined, Block.normal_defined, Block.tangent_defined,
    PartialReal.of_lt, PartialReal.zero_eq, PartialReal.greater_of, hr, if_pos hradius,
    PartialReal.of_div_zero, Block.tangent_ofParts, Vec.get_scale, PartialReal.mul_undefined]

/-- The projection onto the cylinder is the metric one for every radius, and it divides by no zero
unless a negative radius meets a block without a tangential part. There no tangential component
has a value. -/
theorem projectOnCylinder_is_metric (radius : ℝ) (r : Block ℝ t) :
    (0 ≤ radius ∨ r.tangentNorm ≠ 0 →
      projectOnCylinder (.of radius) r.defined = (projectOnCylinder radius r).defined ∧
      (radius < r.tangentNorm → r.tangentNorm ≠ 0) ∧
      IsMetricProjection (InCylinder radius) r (projectOnCylinder radius r) ∧
      ∀ y, InCylinder radius y → Vec.distSq r (projectOnCylinder radius r) ≤ Vec.distSq r y) ∧
    (radius < 0 → r.tangentNorm = 0 → ∀ i : Fin t,
      (Block.tangent (projectOnCylinder (.of radius) r.defined)).get i = .undefined) := by
  refine ⟨fun h => ?_, projectOnCylinder_undefined⟩
  have hdivisor : radius < r.tangentNorm → r.tangentNorm ≠ 0 := fun hout =>
    h.elim (fun hradius => (hradius.trans_lt hout).ne') id
  have hmetric := projectOnCylinder_isMetricProjection radius r
  exact ⟨projectOnCylinder_defined hdivisor, hdivisor, hmetric, fun _ => hmetric.distSq_le⟩

/-- A negative radius takes the tangential part away. -/
theorem projectOnCylinder_of_negative_radius :
    Block.tangentNorm (#v[1, 2, 0] : Block ℝ 2) ≠ 0 ∧
    projectOnCylinder (.of (-1)) (Vec.defined #v[1, 2, 0]) =
      Vec.defined (#v[1, 0, 0] : Block ℝ 2) ∧
    ∀ y : Block ℝ 2, InCylinder (-1) y →
      Vec.distSq #v[1, 2, 0] #v[1, 0, 0] ≤ Vec.distSq #v[1, 2, 0] y := by
  have hnorm : Block.tangentNorm (#v[1, 2, 0] : Block ℝ 2) = 2 := by
    rw [FrictionProblem.tangentNorm_of_straight, abs_of_pos two_pos]
  have hne : Block.tangentNorm (#v[1, 2, 0] : Block ℝ 2) ≠ 0 := by
    rw [hnorm]
    exact two_ne_zero
  have hpoint : projectOnCylinder (-1) (#v[1, 2, 0] : Block ℝ 2) = #v[1, 0, 0] := by
    have hnormal : Block.normal (#v[1, 2, 0] : Block ℝ 2) = 1 := rfl
    have hout : (-1 : ℝ) < 2 := by norm_num
    have hclamp : Scalar.greater (-1 : ℝ) 0 / 2 = 0 := by norm_num [Scalar.greater_eq_max]
    have hheight : Scalar.greater (1 : ℝ) 0 = 1 := by norm_num [Scalar.greater_eq_max]
    rw [projectOnCylinder, hnorm, hnormal]
    rw [if_pos hout, hclamp, hheight]
    exact (ContactProblem.eq_ofParts rfl ((Vec.get_scale _ _ _).trans (mul_zero _)).symm
      ((Vec.get_scale _ _ _).trans (mul_zero _)).symm).symm
  obtain ⟨hvalue, -, -, hnearest⟩ :=
    (projectOnCylinder_is_metric (-1) (#v[1, 2, 0] : Block ℝ 2)).1 (.inr hne)
  rw [hpoint] at hvalue hnearest
  exact ⟨hne, hvalue, hnearest⟩

/-- The radius `-1` at `(1, 0, 0)`. -/
theorem projectOnCylinder_has_no_value :
    ¬∃ p : Block ℝ 2, projectOnCylinder (.of (-1)) (Vec.defined #v[1, 0, 0]) = p.defined := by
  rintro ⟨p, hp⟩
  have hnorm : Block.tangentNorm (#v[1, 0, 0] : Block ℝ 2) = 0 := by
    rw [FrictionProblem.tangentNorm_of_straight, abs_zero]
  have hvalue := projectOnCylinder_undefined neg_one_lt_zero hnorm 0
  rw [hp, Block.tangent_defined, Vec.get_defined] at hvalue
  cases hvalue

end Complementarity
