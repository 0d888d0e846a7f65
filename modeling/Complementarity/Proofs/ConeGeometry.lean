import Complementarity.Proofs.ExactVectors
import Complementarity.Contact.Cone

/-!
The geometry of the friction cone.

A point is the projection of a block onto the cone just if it lies in the cone, the way back to it
lies in the dual cone, and the two are orthogonal (`projectOnCone_eq_iff`). The friction law follows:
a reaction obeys it just if a step against the corrected velocity projects back onto the reaction,
whatever the size of the step (`projectOnCone_step_eq_iff`).
-/

namespace Complementarity

variable {t : Nat} {mu : ℝ}

theorem Block.tangentNorm_eq (b : Block ℝ t) : b.tangentNorm = ‖b.tangent.coords‖ :=
  Vec.sqrt_normSq _

/-! ### Vectors shrunk to a length -/

section Shrunk

variable {E : Type} [NormedAddCommGroup E] [InnerProductSpace ℝ E] {length : ℝ} {x : E}

theorem norm_shrunk (hx : 0 < ‖x‖) (hlength : 0 ≤ length) : ‖(length / ‖x‖) • x‖ = length := by
  rw [norm_smul, Real.norm_of_nonneg (div_nonneg hlength hx.le), div_mul_cancel₀ _ hx.ne']

theorem norm_sub_shrunk (hx : 0 < ‖x‖) (hle : length ≤ ‖x‖) :
    ‖x - (length / ‖x‖) • x‖ = ‖x‖ - length := by
  have hdiff : x - (length / ‖x‖) • x = (1 - length / ‖x‖) • x := by module
  have hratio : 0 ≤ 1 - length / ‖x‖ := sub_nonneg.mpr ((div_le_one hx).mpr hle)
  rw [hdiff, norm_smul, Real.norm_of_nonneg hratio, sub_mul, one_mul, div_mul_cancel₀ _ hx.ne']

theorem inner_sub_shrunk (hx : 0 < ‖x‖) :
    inner ℝ (x - (length / ‖x‖) • x) ((length / ‖x‖) • x) = length * (‖x‖ - length) := by
  have hscaled : length / ‖x‖ * ‖x‖ = length := div_mul_cancel₀ _ hx.ne'
  rw [inner_sub_left, real_inner_smul_left, real_inner_smul_right, real_inner_self_eq_norm_sq]
  calc length / ‖x‖ * ‖x‖ ^ 2 - length / ‖x‖ * (length / ‖x‖ * ‖x‖ ^ 2)
      = length / ‖x‖ * ‖x‖ * (‖x‖ - length / ‖x‖ * ‖x‖) := by ring
    _ = length * (‖x‖ - length) := by rw [hscaled]

end Shrunk

/-! ### The projection onto the cone -/

/-- The block `p` lies in the cone, `p - b` in the dual cone, and the two are orthogonal. -/
structure IsConeProjection (mu : ℝ) (b p : Block ℝ t) : Prop where
  normal_nonneg : 0 ≤ p.normal
  tangent_le : ‖p.tangent.coords‖ ≤ mu * p.normal
  dual : mu * ‖p.tangent.coords - b.tangent.coords‖ ≤ p.normal - b.normal
  orthogonal : p.normal * (p.normal - b.normal) +
    inner ℝ p.tangent.coords (p.tangent.coords - b.tangent.coords) = 0

/-- A point of the cone and one of the dual cone never form an obtuse angle. -/
theorem inner_nonneg_of_cones {t : Nat} {n m : ℝ} {x y : EuclideanSpace ℝ (Fin t)} (hn : 0 ≤ n)
    (hx : ‖x‖ ≤ mu * n) (hy : mu * ‖y‖ ≤ m) : 0 ≤ n * m + inner ℝ x y := by
  have hinner : -(‖x‖ * ‖y‖) ≤ inner ℝ x y := neg_le_of_abs_le (abs_real_inner_le_norm x y)
  have hnorms : ‖x‖ * ‖y‖ ≤ n * m :=
    calc ‖x‖ * ‖y‖ ≤ mu * n * ‖y‖ := mul_le_mul_of_nonneg_right hx (norm_nonneg y)
      _ = n * (mu * ‖y‖) := by ring
      _ ≤ n * m := mul_le_mul_of_nonneg_left hy hn
  linarith

/-- The projection is unique: two of them are at no distance from each other. -/
theorem IsConeProjection.eq {b p p' : Block ℝ t} (h : IsConeProjection mu b p)
    (h' : IsConeProjection mu b p') : p = p' := by
  have hcross := inner_nonneg_of_cones h.normal_nonneg h.tangent_le h'.dual
  have hcross' := inner_nonneg_of_cones h'.normal_nonneg h'.tangent_le h.dual
  have horth := h.orthogonal
  have horth' := h'.orthogonal
  have hdist : (p.normal - p'.normal) ^ 2 + ‖p.tangent.coords - p'.tangent.coords‖ ^ 2 ≤ 0 := by
    rw [← real_inner_self_eq_norm_sq]
    simp only [inner_sub_left, inner_sub_right] at hcross hcross' horth horth' ⊢
    linarith [real_inner_comm p.tangent.coords p'.tangent.coords]
  have hnormal : (p.normal - p'.normal) ^ 2 = 0 := by
    linarith [sq_nonneg (p.normal - p'.normal),
      sq_nonneg ‖p.tangent.coords - p'.tangent.coords‖]
  have htangent : ‖p.tangent.coords - p'.tangent.coords‖ ^ 2 = 0 := by
    linarith [sq_nonneg ‖p.tangent.coords - p'.tangent.coords‖]
  refine Block.ext_parts ?_ (Vec.coords_injective ?_)
  · exact sub_eq_zero.mp (pow_eq_zero_iff two_ne_zero |>.mp hnormal)
  · exact sub_eq_zero.mp (norm_eq_zero.mp (pow_eq_zero_iff two_ne_zero |>.mp htangent))

/-- A block without a tangential part is in the cone or in its polar. -/
theorem tangentNorm_pos_of_outside (hmu : 0 ≤ mu) {b : Block ℝ t}
    (hpolar : -b.normal < mu * b.tangentNorm) (hinside : mu * b.normal < b.tangentNorm) :
    0 < b.tangentNorm := by
  have hnonneg : 0 ≤ b.tangentNorm := Block.tangentNorm_eq b ▸ norm_nonneg _
  rcases hnonneg.eq_or_lt with h0 | h0
  · rw [← h0, mul_zero] at hpolar
    rw [← h0] at hinside
    linarith [mul_nonneg hmu (neg_lt_zero.mp hpolar).le]
  · exact h0

/-- Outside of the cone and of its polar, the projection lies on the boundary of the cone. -/
theorem isConeProjection_boundary (hmu : 0 ≤ mu) {b : Block ℝ t} {normal : ℝ}
    (hnormal : normal * (mu * mu + 1) = mu * b.tangentNorm + b.normal)
    (hpolar : -b.normal < mu * b.tangentNorm) (hinside : mu * b.normal < b.tangentNorm) :
    IsConeProjection mu b
      (Block.ofParts normal (Vec.scale (mu * normal / b.tangentNorm) b.tangent)) := by
  have hx0 := tangentNorm_pos_of_outside hmu hpolar hinside
  simp only [Block.tangentNorm_eq] at hnormal hpolar hinside hx0 ⊢
  set x := b.tangent.coords with hx
  have hpos : 0 < normal := by
    by_contra hneg
    linarith [mul_nonpos_of_nonpos_of_nonneg (not_lt.mp hneg) (by positivity : 0 ≤ mu * mu + 1)]
  have hlength : 0 ≤ mu * normal := mul_nonneg hmu hpos.le
  have hshorter : mu * normal ≤ ‖x‖ := by
    have hproduct : mu * normal * (mu * mu + 1) ≤ ‖x‖ * (mu * mu + 1) := by
      calc mu * normal * (mu * mu + 1) = mu * (mu * ‖x‖ + b.normal) := by rw [mul_assoc, hnormal]
        _ ≤ ‖x‖ * (mu * mu + 1) := by linarith
    exact le_of_mul_le_mul_right hproduct (by positivity)
  refine ⟨?_, ?_, ?_, ?_⟩ <;>
    simp only [Block.normal_ofParts, Block.tangent_ofParts, Vec.coords_scale, ← hx]
  · exact hpos.le
  · exact (norm_shrunk hx0 hlength).le
  · rw [norm_sub_rev, norm_sub_shrunk hx0 hshorter]
    linarith
  · rw [← neg_sub x, inner_neg_right, real_inner_comm, inner_sub_shrunk hx0]
    calc normal * (normal - b.normal) + -(mu * normal * (‖x‖ - mu * normal))
        = normal * (normal * (mu * mu + 1) - (mu * ‖x‖ + b.normal)) := by ring
      _ = 0 := by rw [hnormal, sub_self, mul_zero]

theorem projectOnCone_isConeProjection (hmu : 0 ≤ mu) (b : Block ℝ t) :
    IsConeProjection mu b (projectOnCone mu b).2 := by
  unfold projectOnCone
  dsimp only
  by_cases hpolar : mu * b.tangentNorm ≤ -b.normal
  · rw [if_pos hpolar]
    rw [Block.tangentNorm_eq] at hpolar
    refine ⟨?_, ?_, ?_, ?_⟩ <;> simp [hpolar]
  · rw [if_neg hpolar]
    rw [not_le] at hpolar
    by_cases hinside : b.tangentNorm ≤ mu * b.normal
    · rw [if_pos hinside]
      have hnormal : 0 ≤ b.normal := by
        by_contra hneg
        rw [not_le] at hneg
        have hle : mu * b.normal ≤ 0 := mul_nonpos_of_nonneg_of_nonpos hmu hneg.le
        have h0 : b.tangentNorm = 0 :=
          le_antisymm (hinside.trans hle) (Block.tangentNorm_eq b ▸ norm_nonneg _)
        rw [h0, mul_zero] at hpolar
        linarith
      rw [Block.tangentNorm_eq] at hinside
      exact ⟨hnormal, hinside, by simp, by simp⟩
    · rw [if_neg hinside]
      have hden : mu * mu + 1 ≠ 0 := by positivity
      exact isConeProjection_boundary hmu (div_mul_cancel₀ _ hden) hpolar (not_le.mp hinside)

theorem projectOnCone_eq_iff (hmu : 0 ≤ mu) {b p : Block ℝ t} :
    (projectOnCone mu b).2 = p ↔ IsConeProjection mu b p := by
  have hproject := projectOnCone_isConeProjection hmu b
  constructor
  · rintro rfl
    exact hproject
  · exact hproject.eq

/-! ### The friction law -/

/-- Friction at a contact: the reaction lies in the cone, the corrected velocity in the dual cone,
and the two are orthogonal. -/
structure ObeysLaw (mu : ℝ) (r u : Block ℝ t) : Prop where
  normal_nonneg : 0 ≤ r.normal
  tangent_le : r.tangentNorm ≤ mu * r.normal
  corrected_ge : mu * u.tangentNorm ≤ u.normal + mu * u.tangentNorm
  orthogonal : r.normal * (u.normal + mu * u.tangentNorm) + Vec.dot r.tangent u.tangent = 0

/-- A step of size `rho` from `r` against the corrected velocity, however it is computed. -/
def IsStep (mu rho : ℝ) (r u b : Block ℝ t) : Prop :=
  ∀ i, b.get i = r.get i - rho * (deSaxce mu u).get i

variable {rho : ℝ} {r u b : Block ℝ t}

theorem IsStep.normal_eq (h : IsStep mu rho r u b) :
    b.normal = r.normal - rho * (u.normal + mu * u.tangentNorm) := by
  have hcorrected : (deSaxce mu u).get 0 = u.normal + mu * u.tangentNorm :=
    Block.normal_ofParts _ _
  rw [← hcorrected]
  exact h 0

/-- A step read off entry by entry moves the tangential part as a whole. -/
theorem Block.tangent_coords_eq {f : Block ℝ t}
    (h : ∀ i : Fin t, b.get i.succ = r.get i.succ - rho * f.get i.succ) :
    b.tangent.coords = r.tangent.coords - rho • f.tangent.coords := by
  ext i
  calc b.tangent.get i = b.get i.succ := Vec.get_rest b i
    _ = r.tangent.get i - rho * f.tangent.get i := by
      rw [h, ← Vec.get_rest r i, ← Vec.get_rest f i]; rfl

theorem IsStep.tangent_eq (h : IsStep mu rho r u b) :
    b.tangent.coords = r.tangent.coords - rho • u.tangent.coords := by
  have htangent : (deSaxce mu u).tangent = u.tangent := Block.tangent_ofParts _ _
  rw [← htangent]
  exact Block.tangent_coords_eq fun i => h i.succ

/-- The reactions that obey the law are those to which every step projects back. -/
theorem projectOnCone_step_eq_iff (hmu : 0 ≤ mu) (hrho : 0 < rho) (hstep : IsStep mu rho r u b) :
    (projectOnCone mu b).2 = r ↔ ObeysLaw mu r u := by
  have hnormal : r.normal - b.normal = rho * (u.normal + mu * u.tangentNorm) := by
    rw [hstep.normal_eq, sub_sub_cancel]
  have htangent : r.tangent.coords - b.tangent.coords = rho • u.tangent.coords := by
    rw [hstep.tangent_eq, sub_sub_cancel]
  have hdual : mu * ‖r.tangent.coords - b.tangent.coords‖ = rho * (mu * u.tangentNorm) := by
    rw [htangent, norm_smul, Real.norm_of_nonneg hrho.le, Block.tangentNorm_eq]
    ring
  have horth : r.normal * (r.normal - b.normal) +
      inner ℝ r.tangent.coords (r.tangent.coords - b.tangent.coords) =
        rho * (r.normal * (u.normal + mu * u.tangentNorm) + Vec.dot r.tangent u.tangent) := by
    rw [htangent, hnormal, real_inner_smul_right, Vec.dot_eq_inner]
    ring
  rw [projectOnCone_eq_iff hmu]
  constructor
  · rintro ⟨hn, ht, hd, ho⟩
    rw [hdual, hnormal, mul_le_mul_iff_right₀ hrho] at hd
    rw [horth] at ho
    exact ⟨hn, (Block.tangentNorm_eq r).trans_le ht, hd,
      (mul_eq_zero.mp ho).resolve_left hrho.ne'⟩
  · rintro ⟨hn, ht, hd, ho⟩
    refine ⟨hn, (Block.tangentNorm_eq r).symm.trans_le ht, ?_, ?_⟩
    · rw [hdual, hnormal]
      exact mul_le_mul_of_nonneg_left hd hrho.le
    · rw [horth, ho, mul_zero]

end Complementarity
