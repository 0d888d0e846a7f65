import Mathlib.Algebra.Order.Star.Real
import Complementarity.Proofs.CholeskyExact
import Complementarity.Relay.Latin

/-!
The two stages of the LATIN method, in exact arithmetic.

Write `p = w + K z` and `m = w - K z` for the vectors a candidate is pushed and pulled along the
search direction. The linear stage keeps `p` and the local stage keeps `m`. For two candidates the
squared distances of `p` and of `m`, weighted by `1 / K`, are `energy ± 2 * work`, where the work is
the inner product of the differences in velocity and in reaction. A semidefinite matrix makes the work
of the linear stage non-negative, and the projection onto the box makes that of the local stage
non-positive. So both stages lead from one distance to the other without increasing it.
-/

namespace Complementarity

/-! ### The box -/

section Interval

variable {upper lower x y p : ℝ}

theorem projectOnInterval_eq_max (upper lower x : ℝ) :
    projectOnInterval upper lower x = max (min x upper) (-lower) := by
  rw [projectOnInterval, Scalar.greater_eq_max, Scalar.lesser_eq_min]

/-- The projection is the point of the interval from which the way to `x` leads to no other one. -/
structure IsIntervalProjection (upper lower x p : ℝ) : Prop where
  lower_le : -lower ≤ p
  le_upper : p ≤ upper
  normal : ∀ v, -lower ≤ v → v ≤ upper → 0 ≤ (p - x) * (v - p)

theorem projectOnInterval_isProjection (h : -lower ≤ upper) (x : ℝ) :
    IsIntervalProjection upper lower x (projectOnInterval upper lower x) := by
  rw [projectOnInterval_eq_max]
  rcases le_total x (-lower) with hbelow | habove
  · rw [min_eq_left (hbelow.trans h), max_eq_right hbelow]
    exact ⟨le_rfl, h, fun v hv _ => mul_nonneg (sub_nonneg.mpr hbelow) (sub_nonneg.mpr hv)⟩
  · rcases le_total x upper with hinside | hbeyond
    · rw [min_eq_left hinside, max_eq_left habove]
      exact ⟨habove, hinside, fun v _ _ => by rw [sub_self, zero_mul]⟩
    · rw [min_eq_right hbeyond, max_eq_left h]
      exact ⟨h, le_rfl, fun v _ hv =>
        mul_nonneg_of_nonpos_of_nonpos (sub_nonpos.mpr hbeyond) (sub_nonpos.mpr hv)⟩

/-- The projection moves no further than its argument, and in the same direction. -/
theorem IsIntervalProjection.firm {q : ℝ} (hp : IsIntervalProjection upper lower x p)
    (hq : IsIntervalProjection upper lower y q) : (p - q) * (p - q) ≤ (p - q) * (x - y) := by
  have hpq := hp.normal q hq.lower_le hq.le_upper
  have hqp := hq.normal p hp.lower_le hp.le_upper
  linarith

theorem projectOnInterval_eq_iff (h : -lower ≤ upper) :
    projectOnInterval upper lower x = p ↔ IsIntervalProjection upper lower x p := by
  have hproject := projectOnInterval_isProjection h x
  constructor
  · rintro rfl
    exact hproject
  · intro hp
    have hfirm := hproject.firm hp
    rw [sub_self, mul_zero] at hfirm
    exact sub_eq_zero.mp (mul_self_eq_zero.mp (le_antisymm hfirm (mul_self_nonneg _)))

end Interval

/-! ### Distances of candidates -/

section Distances

variable {n : Nat} {k : Vec ℝ n} {c d : Candidate ℝ n}

/-- The velocity pushed along the search direction, which is what the linear stage reads. -/
noncomputable def pushed (k : Vec ℝ n) (c : Candidate ℝ n) (i : Fin n) : ℝ :=
  c.velocity.get i + k.get i * c.reaction.get i

/-- The velocity pulled back along the search direction, which is what the local stage reads. -/
noncomputable def pulled (k : Vec ℝ n) (c : Candidate ℝ n) (i : Fin n) : ℝ :=
  c.velocity.get i - k.get i * c.reaction.get i

theorem pushed_zero (k : Vec ℝ n) : pushed k (Candidate.zero n) = 0 := by
  funext i
  rw [pushed, Candidate.zero, Vec.get_zero, mul_zero, add_zero, Pi.zero_apply]

/-- The squared distance between the pushed vectors of two candidates. -/
noncomputable def pushedDistSq (k : Vec ℝ n) (c d : Candidate ℝ n) : ℝ :=
  ∑ i, (pushed k c i - pushed k d i) ^ 2 / k.get i

/-- The squared distance between the pulled vectors of two candidates. -/
noncomputable def pulledDistSq (k : Vec ℝ n) (c d : Candidate ℝ n) : ℝ :=
  ∑ i, (pulled k c i - pulled k d i) ^ 2 / k.get i

/-- The squared distance in velocity and in reaction. -/
noncomputable def energy (k : Vec ℝ n) (c d : Candidate ℝ n) : ℝ :=
  ∑ i, ((c.velocity.get i - d.velocity.get i) ^ 2 / k.get i +
    k.get i * (c.reaction.get i - d.reaction.get i) ^ 2)

/-- The work of the difference in reaction along the difference in velocity. -/
noncomputable def work (c d : Candidate ℝ n) : ℝ :=
  ∑ i, (c.velocity.get i - d.velocity.get i) * (c.reaction.get i - d.reaction.get i)

theorem pushedDistSq_eq (hk : ∀ i, 0 < k.get i) (c d : Candidate ℝ n) :
    pushedDistSq k c d = energy k c d + 2 * work c d := by
  rw [pushedDistSq, energy, work, Finset.mul_sum, ← Finset.sum_add_distrib]
  refine Finset.sum_congr rfl fun i _ => ?_
  have hki := (hk i).ne'
  rw [pushed, pushed]
  field_simp
  ring

theorem pulledDistSq_eq (hk : ∀ i, 0 < k.get i) (c d : Candidate ℝ n) :
    pulledDistSq k c d = energy k c d - 2 * work c d := by
  rw [pulledDistSq, energy, work, Finset.mul_sum, ← Finset.sum_sub_distrib]
  refine Finset.sum_congr rfl fun i _ => ?_
  have hki := (hk i).ne'
  rw [pulled, pulled]
  field_simp
  ring

/-- The energy bounds the difference in every entry. -/
theorem sq_sub_le_of_energy_le (hk : ∀ i, 0 < k.get i) {radius : ℝ} (h : energy k c d ≤ radius)
    (i : Fin n) :
    (c.velocity.get i - d.velocity.get i) ^ 2 ≤ radius * k.get i ∧
      (c.reaction.get i - d.reaction.get i) ^ 2 ≤ radius / k.get i := by
  have hterm (j : Fin n) : 0 ≤ (c.velocity.get j - d.velocity.get j) ^ 2 / k.get j ∧
      0 ≤ k.get j * (c.reaction.get j - d.reaction.get j) ^ 2 :=
    ⟨div_nonneg (sq_nonneg _) (hk j).le, mul_nonneg (hk j).le (sq_nonneg _)⟩
  have hle := (Finset.single_le_sum (fun j _ => add_nonneg (hterm j).1 (hterm j).2)
    (Finset.mem_univ i)).trans h
  constructor
  · rw [← div_le_iff₀ (hk i)]
    linarith [(hterm i).2]
  · rw [le_div_iff₀' (hk i)]
    linarith [(hterm i).1]

theorem Candidate.ext_get {c d : Candidate ℝ n} (hvelocity : ∀ i, c.velocity.get i = d.velocity.get i)
    (hreaction : ∀ i, c.reaction.get i = d.reaction.get i) : c = d := by
  obtain ⟨z, w⟩ := c
  obtain ⟨z', w'⟩ := d
  obtain rfl : z = z' := Vec.ext_get hreaction
  obtain rfl : w = w' := Vec.ext_get hvelocity
  rfl

theorem eq_of_energy_le_zero (hk : ∀ i, 0 < k.get i) (h : energy k c d ≤ 0) : c = d := by
  refine Candidate.ext_get (fun i => ?_) fun i => ?_
  · have hvelocity := (sq_sub_le_of_energy_le hk h i).1
    rw [zero_mul] at hvelocity
    exact sub_eq_zero.mp (pow_eq_zero_iff two_ne_zero |>.mp (hvelocity.antisymm (sq_nonneg _)))
  · have hreaction := (sq_sub_le_of_energy_le hk h i).2
    rw [zero_div] at hreaction
    exact sub_eq_zero.mp (pow_eq_zero_iff two_ne_zero |>.mp (hreaction.antisymm (sq_nonneg _)))

end Distances

namespace RelayProblem

variable {problem : RelayProblem ℝ}

/-! ### Solutions -/

theorem get_velocity (problem : RelayProblem ℝ) (z : Vec ℝ problem.size) (i : Fin problem.size) :
    (problem.velocity z).get i = problem.matrix.toMatrix.mulVec z.get i - problem.offset.get i := by
  rw [velocity, Mat.get_gemv, Vec.get_scale, Mat.toMatrix_mulVec]
  ring

/-- The velocity belongs to the reaction and lies in the box, and against the reaction the box has no
further point. -/
structure IsSolution (problem : RelayProblem ℝ) (c : Candidate ℝ problem.size) : Prop where
  velocity_eq : c.velocity = problem.velocity c.reaction
  lower_le : ∀ i, -problem.lower.get i ≤ c.velocity.get i
  le_upper : ∀ i, c.velocity.get i ≤ problem.upper.get i
  normal : ∀ i v, -problem.lower.get i ≤ v → v ≤ problem.upper.get i →
    0 ≤ c.reaction.get i * (v - c.velocity.get i)

/-- At a solution, a step of any size against the reaction is projected back. -/
theorem IsSolution.project_eq {c : Candidate ℝ problem.size} (h : problem.IsSolution c) {rho : ℝ}
    (hrho : 0 < rho) (i : Fin problem.size) :
    projectOnInterval (problem.upper.get i) (problem.lower.get i)
      (c.velocity.get i - rho * c.reaction.get i) = c.velocity.get i := by
  refine (projectOnInterval_eq_iff (problem.box_nonempty i)).mpr
    ⟨h.lower_le i, h.le_upper i, fun v hlower hupper => ?_⟩
  rw [sub_sub_cancel, mul_assoc]
  exact mul_nonneg hrho.le (h.normal i v hlower hupper)

theorem errorOf_eq_zero_iff_gaps {z w : Vec ℝ problem.size} :
    problem.errorOf z w = 0 ↔ ∀ i, problem.gapAt i (z.get i) (w.get i) = 0 := by
  rw [errorOf, Scalar.sqrt_eq, Vec.sum_eq]
  simp only [Vec.get_ofFn]
  rw [Real.sqrt_eq_zero (Finset.sum_nonneg fun i _ => mul_self_nonneg _),
    Finset.sum_eq_zero_iff_of_nonneg fun i _ => mul_self_nonneg _]
  simp only [Finset.mem_univ, true_imp_iff, mul_self_eq_zero]

/-- The error vanishes exactly at the solutions. -/
theorem errorOf_eq_zero_iff (z : Vec ℝ problem.size) :
    problem.errorOf z (problem.velocity z) = 0 ↔ problem.IsSolution ⟨z, problem.velocity z⟩ := by
  have hgap (i : Fin problem.size) :
      problem.gapAt i (z.get i) ((problem.velocity z).get i) = 0 ↔
      IsIntervalProjection (problem.upper.get i) (problem.lower.get i)
        ((problem.velocity z).get i - z.get i) ((problem.velocity z).get i) := by
    rw [gapAt, sub_eq_zero, eq_comm, projectOnInterval_eq_iff (problem.box_nonempty i)]
  simp only [errorOf_eq_zero_iff_gaps, hgap]
  constructor
  · intro hproject
    refine ⟨rfl, fun i => (hproject i).lower_le, fun i => (hproject i).le_upper, fun i v hl hu => ?_⟩
    have hnormal := (hproject i).normal v hl hu
    rw [sub_sub_cancel] at hnormal
    exact hnormal
  · intro h i
    refine ⟨h.lower_le i, h.le_upper i, fun v hl hu => ?_⟩
    rw [sub_sub_cancel]
    exact h.normal i v hl hu

/-! ### The linear stage -/

variable {k : Vec ℝ problem.size} {solve : Vec ℝ problem.size → Vec ℝ problem.size}
  {c d : Candidate ℝ problem.size}

/-- What the method needs of a problem and of its search direction: a semidefinite matrix, a positive
direction, and an exact way to solve with the sum of the two. -/
structure IsLatin (problem : RelayProblem ℝ) (k : Vec ℝ problem.size)
    (solve : Vec ℝ problem.size → Vec ℝ problem.size) : Prop where
  posSemidef : problem.matrix.toMatrix.PosSemidef
  direction_pos : ∀ i, 0 < k.get i
  mulVec_solve : ∀ b, Mat.mulVec (problem.latinMatrix k) (solve b) = b

theorem latinMatrix_toMatrix (h : problem.matrix.toMatrix.IsHermitian) (k : Vec ℝ problem.size) :
    (problem.latinMatrix k).toMatrix = problem.matrix.toMatrix + Matrix.diagonal k.get := by
  ext i j
  rw [Mat.toMatrix_apply, latinMatrix, Mat.entry_ofFn, Matrix.add_apply, Mat.toMatrix_apply]
  by_cases hij : i = j
  · subst hij
    rw [if_pos rfl, Matrix.diagonal_apply_eq]
    rfl
  · rw [if_neg hij, Matrix.diagonal_apply_ne _ hij, add_zero, Mat.entry_symm h]

/-- A Cholesky factor provides the exact way to solve. -/
theorem exists_factor (h : problem.matrix.toMatrix.PosSemidef) (hk : ∀ i, 0 < k.get i) :
    ∃ factor, Triangle.factor? (problem.latinMatrix k) = some factor ∧
      problem.IsLatin k factor.solve := by
  have hposDef : (problem.latinMatrix k).toMatrix.PosDef := by
    rw [latinMatrix_toMatrix h.isHermitian]
    exact .posSemidef_add h (Matrix.posDef_diagonal_iff.mpr hk)
  obtain ⟨factor, hfactor, hsolve⟩ := Triangle.exists_factor_of_posDef hposDef
  exact ⟨factor, hfactor, h, hk, hsolve⟩

theorem pushed_linearStage (k : Vec ℝ problem.size)
    (solve : Vec ℝ problem.size → Vec ℝ problem.size) (c : Candidate ℝ problem.size) :
    pushed k (problem.linearStage k solve c) = pushed k c := by
  funext i
  simp only [pushed, linearStage, Vec.get_sub, Vec.get_add, Vec.get_zipWith]
  ring

/-- The linear stage of a symmetric problem leads to the velocity of its reaction. -/
theorem velocity_linearStage (hsymm : problem.matrix.toMatrix.IsHermitian)
    (hsolve : ∀ b, Mat.mulVec (problem.latinMatrix k) (solve b) = b)
    (c : Candidate ℝ problem.size) :
    (problem.linearStage k solve c).velocity =
      problem.velocity (problem.linearStage k solve c).reaction := by
  refine Vec.ext_get fun i => ?_
  have hpushed := congrFun (pushed_linearStage k solve c) i
  have hrow := congrArg (fun x : Vec ℝ problem.size => x.get i) (hsolve
    (Vec.add problem.offset (Vec.add c.velocity
      (Vector.zipWith (fun a b => a * b) k c.reaction))))
  simp only [Mat.get_mulVec_eq, latinMatrix_toMatrix hsymm, Matrix.add_mulVec,
    Pi.add_apply, Matrix.mulVec_diagonal, Vec.get_add, Vec.get_zipWith] at hrow
  rw [get_velocity]
  simp only [pushed, linearStage] at hpushed ⊢
  linarith

theorem IsLatin.velocity_linearStage (h : problem.IsLatin k solve)
    (c : Candidate ℝ problem.size) :
    (problem.linearStage k solve c).velocity =
      problem.velocity (problem.linearStage k solve c).reaction :=
  RelayProblem.velocity_linearStage h.posSemidef.isHermitian h.mulVec_solve c

/-- Where the velocities belong to the reactions, a semidefinite matrix works in their direction. -/
theorem work_nonneg (h : problem.matrix.toMatrix.PosSemidef)
    (hc : c.velocity = problem.velocity c.reaction)
    (hd : d.velocity = problem.velocity d.reaction) : 0 ≤ work c d := by
  have hform := h.dotProduct_mulVec_nonneg (c.reaction.get - d.reaction.get)
  rw [star_trivial, Matrix.mulVec_sub] at hform
  rw [work, hc, hd]
  refine hform.trans_eq (Finset.sum_congr rfl fun i _ => ?_)
  rw [get_velocity, get_velocity, Pi.sub_apply, Pi.sub_apply]
  ring

theorem IsLatin.work_linearStage (h : problem.IsLatin k solve) (c d : Candidate ℝ problem.size) :
    0 ≤ work (problem.linearStage k solve c) (problem.linearStage k solve d) :=
  work_nonneg h.posSemidef (h.velocity_linearStage c) (h.velocity_linearStage d)

theorem IsLatin.pushedDistSq_linearStage (h : problem.IsLatin k solve)
    (c d : Candidate ℝ problem.size) :
    energy k (problem.linearStage k solve c) (problem.linearStage k solve d) +
      2 * work (problem.linearStage k solve c) (problem.linearStage k solve d) =
        pushedDistSq k c d := by
  rw [← pushedDistSq_eq h.direction_pos, pushedDistSq, pushed_linearStage, pushed_linearStage,
    ← pushedDistSq]

/-- The linear stage stays within the distance it starts from. -/
theorem IsLatin.energy_linearStage (h : problem.IsLatin k solve) (c d : Candidate ℝ problem.size) :
    energy k (problem.linearStage k solve c) (problem.linearStage k solve d) ≤
      pushedDistSq k c d := by
  have hwork := h.work_linearStage c d
  have hdist := h.pushedDistSq_linearStage c d
  linarith

/-- The linear stage hands on no larger distance than the one it starts from. -/
theorem IsLatin.pulledDistSq_linearStage (h : problem.IsLatin k solve)
    (c d : Candidate ℝ problem.size) :
    pulledDistSq k (problem.linearStage k solve c) (problem.linearStage k solve d) ≤
      pushedDistSq k c d := by
  have hwork := h.work_linearStage c d
  have hdist := h.pushedDistSq_linearStage c d
  rw [pulledDistSq_eq h.direction_pos]
  linarith

/-! ### The local stage -/

theorem velocity_localStage (k : Vec ℝ problem.size) (c : Candidate ℝ problem.size)
    (i : Fin problem.size) :
    (problem.localStage k c).velocity.get i =
      projectOnInterval (problem.upper.get i) (problem.lower.get i) (pulled k c i) := by
  simp only [localStage, pulled, Vec.get_ofFn, Vec.get_sub, Vec.get_zipWith]

theorem reaction_localStage (k : Vec ℝ problem.size) (c : Candidate ℝ problem.size)
    (i : Fin problem.size) :
    (problem.localStage k c).reaction.get i =
      ((problem.localStage k c).velocity.get i - pulled k c i) / k.get i := by
  simp only [localStage, pulled, Vec.get_ofFn, Vec.get_sub, Vec.get_zipWith]

/-- A local stage that keeps the velocity keeps the reaction, too. -/
theorem localStage_eq_self (hk : ∀ i, k.get i ≠ 0)
    (hvelocity : ∀ i, (problem.localStage k c).velocity.get i = c.velocity.get i) :
    problem.localStage k c = c := by
  refine Candidate.ext_get hvelocity fun i => ?_
  rw [reaction_localStage, hvelocity, pulled, sub_sub_cancel, mul_div_cancel_left₀ _ (hk i)]

theorem pulled_localStage (hk : ∀ i, 0 < k.get i) (c : Candidate ℝ problem.size) :
    pulled k (problem.localStage k c) = pulled k c := by
  funext i
  rw [pulled, reaction_localStage, mul_div_cancel₀ _ (hk i).ne', sub_sub_cancel]

/-- The projection onto the box works against the reactions. -/
theorem work_localStage (hk : ∀ i, 0 < k.get i) (c d : Candidate ℝ problem.size) :
    work (problem.localStage k c) (problem.localStage k d) ≤ 0 := by
  refine Finset.sum_nonpos fun i _ => ?_
  have hfirm := (projectOnInterval_isProjection (problem.box_nonempty i) (pulled k c i)).firm
    (projectOnInterval_isProjection (problem.box_nonempty i) (pulled k d i))
  rw [← velocity_localStage, ← velocity_localStage] at hfirm
  rw [reaction_localStage, reaction_localStage, ← sub_div, mul_div_assoc']
  refine div_nonpos_of_nonpos_of_nonneg ?_ (hk i).le
  linarith

theorem pulledDistSq_localStage (hk : ∀ i, 0 < k.get i) (c d : Candidate ℝ problem.size) :
    energy k (problem.localStage k c) (problem.localStage k d) -
      2 * work (problem.localStage k c) (problem.localStage k d) = pulledDistSq k c d := by
  rw [← pulledDistSq_eq hk, pulledDistSq, pulled_localStage hk, pulled_localStage hk,
    ← pulledDistSq]

/-- The local stage stays within the distance it starts from. -/
theorem energy_localStage (hk : ∀ i, 0 < k.get i) (c d : Candidate ℝ problem.size) :
    energy k (problem.localStage k c) (problem.localStage k d) ≤ pulledDistSq k c d := by
  have hwork := work_localStage hk c d
  have hdist := pulledDistSq_localStage hk c d
  linarith

/-- The local stage hands on no larger distance than the one it starts from. -/
theorem pushedDistSq_localStage (hk : ∀ i, 0 < k.get i) (c d : Candidate ℝ problem.size) :
    pushedDistSq k (problem.localStage k c) (problem.localStage k d) ≤ pulledDistSq k c d := by
  have hwork := work_localStage hk c d
  have hdist := pulledDistSq_localStage hk c d
  rw [pushedDistSq_eq hk]
  linarith

/-! ### Solutions stay -/

theorem IsSolution.linearStage_eq (hc : problem.IsSolution c) (h : problem.IsLatin k solve) :
    problem.linearStage k solve c = c := by
  -- both have the same pushed vector, and the work between them cannot make up for an energy
  have hwork := work_nonneg h.posSemidef (h.velocity_linearStage c) hc.velocity_eq
  have hdist : pushedDistSq k (problem.linearStage k solve c) c = 0 := by
    rw [pushedDistSq, pushed_linearStage]
    exact Finset.sum_eq_zero fun i _ => by rw [sub_self, sq, zero_mul, zero_div]
  rw [pushedDistSq_eq h.direction_pos] at hdist
  exact eq_of_energy_le_zero h.direction_pos (by linarith)

theorem IsSolution.localStage_eq (hc : problem.IsSolution c) (hk : ∀ i, 0 < k.get i) :
    problem.localStage k c = c := by
  have hvelocity (i : Fin problem.size) :
      (problem.localStage k c).velocity.get i = c.velocity.get i := by
    rw [velocity_localStage]
    exact hc.project_eq (hk i) i
  exact localStage_eq_self (fun i => (hk i).ne') hvelocity

end RelayProblem

end Complementarity
