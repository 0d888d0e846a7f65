import Complementarity.Proofs.ConeGeometry
import Complementarity.OneContact.Newton

/-!
The geometry of half-line and disk.

Given the normal reaction, friction separates: the normal components complement each other, and the
tangential reaction opposes the slip as much as its disk allows (`obeysLaw_iff`). The projections
onto a disk, onto the cylinder above it and onto half-line times disk all have the same fixed points
in that form (`isDiskProjection_step_iff`, `max_step_eq_iff`).
-/

namespace Complementarity

/-! ### The projection onto a disk -/

section Disk

variable {E : Type} [NormedAddCommGroup E] [InnerProductSpace ℝ E] {radius rho : ℝ} {x p p' u : E}

/-- The point `p` lies in the disk, and the way from there to `x` points straight outwards. -/
structure IsDiskProjection (radius : ℝ) (x p : E) : Prop where
  norm_le : ‖p‖ ≤ radius
  inner_eq : inner ℝ (x - p) p = radius * ‖x - p‖

/-- The projection is unique: two of them are at no distance from each other. -/
theorem IsDiskProjection.eq (h : IsDiskProjection radius x p) (h' : IsDiskProjection radius x p') :
    p = p' := by
  have hcross : inner ℝ (x - p') p ≤ radius * ‖x - p'‖ :=
    calc inner ℝ (x - p') p ≤ ‖x - p'‖ * ‖p‖ := real_inner_le_norm _ _
      _ ≤ ‖x - p'‖ * radius := mul_le_mul_of_nonneg_left h.norm_le (norm_nonneg _)
      _ = radius * ‖x - p'‖ := mul_comm _ _
  have hcross' : inner ℝ (x - p) p' ≤ radius * ‖x - p‖ :=
    calc inner ℝ (x - p) p' ≤ ‖x - p‖ * ‖p'‖ := real_inner_le_norm _ _
      _ ≤ ‖x - p‖ * radius := mul_le_mul_of_nonneg_left h'.norm_le (norm_nonneg _)
      _ = radius * ‖x - p‖ := mul_comm _ _
  have hsplit : p - p' = (x - p') - (x - p) := by abel
  have hdist : ‖p - p'‖ ^ 2 ≤ 0 :=
    calc ‖p - p'‖ ^ 2 = inner ℝ (p - p') (p - p') := (real_inner_self_eq_norm_sq _).symm
      _ = inner ℝ ((x - p') - (x - p)) (p - p') := by rw [← hsplit]
      _ = inner ℝ (x - p') p - inner ℝ (x - p') p' -
          (inner ℝ (x - p) p - inner ℝ (x - p) p') := by
        rw [inner_sub_left, inner_sub_right, inner_sub_right]
      _ ≤ 0 := by rw [h.inner_eq, h'.inner_eq]; linarith
  have hzero : ‖p - p'‖ = 0 := by
    rwa [sq_nonpos_iff] at hdist
  exact sub_eq_zero.mp (norm_eq_zero.mp hzero)

theorem isDiskProjection_self (h : ‖x‖ ≤ radius) : IsDiskProjection radius x x :=
  ⟨h, by simp⟩

/-- A point outside goes to the rim. -/
theorem isDiskProjection_rim (hradius : 0 ≤ radius) (h : radius < ‖x‖) :
    IsDiskProjection radius x ((radius / ‖x‖) • x) := by
  have hx : 0 < ‖x‖ := hradius.trans_lt h
  exact ⟨(norm_shrunk hx hradius).le, by rw [inner_sub_shrunk hx, norm_sub_shrunk hx h.le]⟩

/-- A step projects back onto its start if the start lies in the disk and opposes the direction of
the step as much as the disk allows. -/
theorem isDiskProjection_step_iff (hrho : 0 < rho) :
    IsDiskProjection radius (x - rho • u) x ↔
      ‖x‖ ≤ radius ∧ inner ℝ x u = -(radius * ‖u‖) := by
  have hdiff : x - rho • u - x = -(rho • u) := by abel
  have hinner : inner ℝ (x - rho • u - x) x = -(rho * inner ℝ x u) := by
    rw [hdiff, inner_neg_left, real_inner_smul_left, real_inner_comm]
  have hnorm : radius * ‖x - rho • u - x‖ = -(rho * -(radius * ‖u‖)) := by
    rw [hdiff, norm_neg, norm_smul, Real.norm_of_nonneg hrho.le]
    ring
  constructor
  · rintro ⟨hle, heq⟩
    rw [hinner, hnorm, neg_inj] at heq
    exact ⟨hle, mul_left_cancel₀ hrho.ne' heq⟩
  · rintro ⟨hle, heq⟩
    exact ⟨hle, by rw [hinner, hnorm, heq]⟩

end Disk

/-- A step on the half-line goes back to its start just if start and direction complement each
other. -/
theorem max_step_eq_iff {n v rho : ℝ} (hrho : 0 < rho) :
    max (n - rho * v) 0 = n ↔ 0 ≤ n ∧ 0 ≤ v ∧ n * v = 0 := by
  constructor
  · intro h
    have hn : 0 ≤ n := h ▸ le_max_right _ _
    have hle : n - rho * v ≤ n := (le_max_left _ _).trans_eq h
    have hv : 0 ≤ v := by
      by_contra hneg
      linarith [mul_neg_of_pos_of_neg hrho (not_le.mp hneg)]
    refine ⟨hn, hv, ?_⟩
    rcases max_choice (n - rho * v) 0 with hstay | hzero
    · have hmove : rho * v = 0 := by linarith [hstay.symm.trans h]
      rw [(mul_eq_zero.mp hmove).resolve_left hrho.ne', mul_zero]
    · rw [← hzero.symm.trans h, zero_mul]
  · rintro ⟨hn, hv, hnv⟩
    rcases mul_eq_zero.mp hnv with rfl | rfl
    · rw [zero_sub, max_eq_right (neg_nonpos.mpr (mul_nonneg hrho.le hv))]
    · rw [mul_zero, sub_zero, max_eq_left hn]

/-! ### The law, separated -/

variable {t : Nat} {mu : ℝ} {r u : Block ℝ t}

/-- Complementary normal components, and a tangential reaction that opposes the slip as much as
friction allows. -/
structure IsComplementary (mu : ℝ) (r u : Block ℝ t) : Prop where
  reaction_nonneg : 0 ≤ r.normal
  velocity_nonneg : 0 ≤ u.normal
  normal_mul : r.normal * u.normal = 0
  tangent_le : ‖r.tangent.coords‖ ≤ mu * r.normal
  tangent_inner : inner ℝ r.tangent.coords u.tangent.coords =
    -(mu * r.normal * ‖u.tangent.coords‖)

theorem obeysLaw_iff : ObeysLaw mu r u ↔ IsComplementary mu r u := by
  constructor
  · rintro ⟨hn, ht, hc, ho⟩
    rw [Block.tangentNorm_eq] at ht hc ho
    rw [Vec.dot_eq_inner] at ho
    have hv : 0 ≤ u.normal := by linarith
    -- both parts of the product are non-negative, so each of them vanishes
    have hslip : 0 ≤ r.normal * (mu * ‖u.tangent.coords‖) +
        inner ℝ r.tangent.coords u.tangent.coords := inner_nonneg_of_cones hn ht le_rfl
    have hnv : 0 ≤ r.normal * u.normal := mul_nonneg hn hv
    exact ⟨hn, hv, by linarith, ht, by linarith⟩
  · rintro ⟨hn, hv, hnv, ht, hi⟩
    refine ⟨hn, ?_, ?_, ?_⟩
    · rw [Block.tangentNorm_eq]
      exact ht
    · linarith
    · rw [Block.tangentNorm_eq, Vec.dot_eq_inner, hi, mul_add, hnv]
      ring

/-! ### Cylinder, and half-line times disk -/

variable {b p : Block ℝ t} {radius : ℝ}

theorem normal_projectOnCylinder (radius : ℝ) (b : Block ℝ t) :
    (projectOnCylinder radius b).normal = max b.normal 0 := by
  unfold projectOnCylinder
  simp only [Scalar.greater_eq_max]
  split <;> exact Block.normal_ofParts _ _

/-- The tangential part goes to the disk, and to the centre if the radius is negative. -/
theorem tangent_projectOnCylinder_max (radius : ℝ) (b : Block ℝ t) :
    IsDiskProjection (max radius 0) b.tangent.coords
      (projectOnCylinder radius b).tangent.coords := by
  unfold projectOnCylinder
  simp only [Scalar.greater_eq_max, Block.tangentNorm_eq]
  by_cases hout : radius < ‖b.tangent.coords‖
  · rw [if_pos hout, Block.tangent_ofParts, Vec.coords_scale]
    by_cases hrim : max radius 0 < ‖b.tangent.coords‖
    · exact isDiskProjection_rim (le_max_right _ _) hrim
    · have hcentre : b.tangent.coords = 0 := by
        rcases max_choice radius 0 with hmax | hmax <;> rw [hmax, not_lt] at hrim
        · exact absurd hout hrim.not_gt
        · exact norm_le_zero_iff.mp hrim
      rw [hcentre, smul_zero]
      exact isDiskProjection_self (norm_zero.trans_le (le_max_right _ _))
  · rw [if_neg hout, Block.tangent_ofParts]
    exact isDiskProjection_self ((not_lt.mp hout).trans (le_max_left _ _))

theorem tangent_projectOnCylinder (hradius : 0 ≤ radius) (b : Block ℝ t) :
    IsDiskProjection radius b.tangent.coords (projectOnCylinder radius b).tangent.coords := by
  have hdisk := tangent_projectOnCylinder_max radius b
  rwa [max_eq_left hradius] at hdisk

theorem projectOnCylinder_eq_iff (hradius : 0 ≤ radius) :
    projectOnCylinder radius b = p ↔
      max b.normal 0 = p.normal ∧ IsDiskProjection radius b.tangent.coords p.tangent.coords := by
  constructor
  · rintro rfl
    exact ⟨(normal_projectOnCylinder radius b).symm, tangent_projectOnCylinder hradius b⟩
  · rintro ⟨hnormal, htangent⟩
    refine Block.ext_parts ((normal_projectOnCylinder radius b).trans hnormal) ?_
    exact Vec.coords_injective ((tangent_projectOnCylinder hradius b).eq htangent)

/-- On the cylinder above the disk of its own normal part, a step is projected back onto its start
just where the law holds. Its sizes in the normal and in the tangential direction may differ. -/
theorem projectOnCylinder_step_eq_iff {rhoN rhoT : ℝ} (hmu : 0 ≤ mu) (hN : 0 < rhoN)
    (hT : 0 < rhoT) (hnormal : b.get 0 = r.get 0 - rhoN * u.get 0)
    (htangent : ∀ i : Fin t, b.get i.succ = r.get i.succ - rhoT * u.get i.succ) :
    projectOnCylinder (mu * max b.normal 0) b = r ↔ ObeysLaw mu r u := by
  have hstep : b.normal = r.normal - rhoN * u.normal := hnormal
  rw [obeysLaw_iff, projectOnCylinder_eq_iff (mul_nonneg hmu (le_max_right _ _)),
    Block.tangent_coords_eq htangent, isDiskProjection_step_iff hT, hstep]
  constructor
  · rintro ⟨hmax, hle, hinner⟩
    rw [hmax] at hle hinner
    obtain ⟨hn, hv, hnv⟩ := (max_step_eq_iff hN).mp hmax
    exact ⟨hn, hv, hnv, hle, hinner⟩
  · rintro ⟨hn, hv, hnv, hle, hinner⟩
    rw [(max_step_eq_iff hN).mpr ⟨hn, hv, hnv⟩]
    exact ⟨rfl, hle, hinner⟩

namespace ContactProblem

theorem eq_ofParts {a b c : ℝ} {normal : ℝ} {tangent : Vec ℝ 2} (ha : a = normal)
    (hb : b = tangent.get 0) (hc : c = tangent.get 1) :
    (#v[a, b, c] : Block ℝ 2) = Block.ofParts normal tangent := by
  refine Block.ext_parts ?_ (Vec.ext_get fun i => ?_)
  · rw [Block.normal_ofParts, ← ha]
    rfl
  · rw [Block.tangent_ofParts, Block.tangent, Vec.get_rest]
    fin_cases i
    · exact hb
    · exact hc

/-- The normal part of a projection and its slope. -/
theorem normalPart_eq (normal : ℝ) :
    (if 0 < normal then (normal, (1 : ℝ)) else (0, 0)) =
      (max normal 0, if 0 < normal then 1 else 0) := by
  by_cases hpos : 0 < normal
  · rw [if_pos hpos, if_pos hpos, max_eq_left hpos.le]
  · rw [if_neg hpos, if_neg hpos, max_eq_right (not_lt.mp hpos)]

/-- The projection of Newton's method is the one onto the cylinder above the disk. -/
theorem normalDiskProjection_fst (hmu : 0 ≤ mu) (d : Block ℝ 2) :
    (normalDiskProjection mu d).1 = projectOnCylinder (mu * max d.normal 0) d := by
  have hradius : 0 ≤ mu * max d.normal 0 := mul_nonneg hmu (le_max_right _ _)
  have hfirst : d.first = d.tangent.get 0 := (Vec.get_rest d 0).symm
  have hsecond : d.second = d.tangent.get 1 := (Vec.get_rest d 1).symm
  unfold normalDiskProjection projectOnCylinder
  simp only [normalPart_eq, Scalar.greater_eq_max, max_eq_left hradius]
  by_cases hin : d.tangentNorm ≤ mu * max d.normal 0
  · rw [if_pos hin, if_neg (not_lt.mpr hin)]
    exact eq_ofParts rfl hfirst hsecond
  · rw [if_neg hin, if_pos (not_le.mp hin)]
    refine eq_ofParts rfl ?_ ?_
    · rw [Vec.get_scale, hfirst]
      ring
    · rw [Vec.get_scale, hsecond]
      ring

end ContactProblem

end Complementarity
