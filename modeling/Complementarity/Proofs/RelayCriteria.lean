import Complementarity.Proofs.LatinResidual

/-!
The two measures of convergence for relay problems, in exact arithmetic.

Projected Gauss-Seidel measures how far a unit step against the reaction is projected back from the
velocity; the LATIN method measures how far its local stage moves. Index by index both ask for the
same: a step of some positive size is projected back onto its start just if the pair of reaction and
velocity is one of the relay (`isIntervalProjection_step_iff`), whatever the size. So the two measures
vanish at the same candidates, those that satisfy the inclusion.
-/

namespace Complementarity

section Relay

variable {upper lower rho z w : ℝ}

/-- A reaction and a velocity of a single relay: within the bounds, and away from a bound the reaction
does not point to it. -/
structure IsRelayPair (upper lower z w : ℝ) : Prop where
  lower_le : -lower ≤ w
  le_upper : w ≤ upper
  reaction_nonneg : w < upper → 0 ≤ z
  reaction_nonpos : -lower < w → z ≤ 0

/-- The reaction of a relay works against every admissible change of the velocity. -/
theorem IsRelayPair.normal (h : IsRelayPair upper lower z w) {v : ℝ} (hlower : -lower ≤ v)
    (hupper : v ≤ upper) : 0 ≤ z * (v - w) := by
  rcases lt_trichotomy v w with hlt | rfl | hlt
  · have hz : z ≤ 0 := h.reaction_nonpos (hlower.trans_lt hlt)
    exact mul_nonneg_of_nonpos_of_nonpos hz (sub_nonpos.mpr hlt.le)
  · rw [sub_self, mul_zero]
  · have hz : 0 ≤ z := h.reaction_nonneg (hlt.trans_le hupper)
    exact mul_nonneg hz (sub_nonneg.mpr hlt.le)

/-- A step against the reaction is projected back onto its start just at the pairs of the relay. -/
theorem isIntervalProjection_step_iff (hrho : 0 < rho) :
    IsIntervalProjection upper lower (w - rho * z) w ↔ IsRelayPair upper lower z w := by
  constructor
  · rintro ⟨hlower, hupper, hnormal⟩
    have hbox := hlower.trans hupper
    refine ⟨hlower, hupper, fun hlt => ?_, fun hlt => ?_⟩
    · have hwork := hnormal upper hbox le_rfl
      rw [sub_sub_cancel] at hwork
      exact nonneg_of_mul_nonneg_right (nonneg_of_mul_nonneg_left hwork (sub_pos.mpr hlt)) hrho
    · have hwork := hnormal (-lower) le_rfl hbox
      rw [sub_sub_cancel] at hwork
      exact nonpos_of_mul_nonpos_right (nonpos_of_mul_nonneg_left hwork (sub_neg.mpr hlt)) hrho
  · intro h
    refine ⟨h.lower_le, h.le_upper, fun v hlower hupper => ?_⟩
    rw [sub_sub_cancel, mul_assoc]
    exact mul_nonneg hrho.le (h.normal hlower hupper)

/-- The same, in terms of the projection that is computed. -/
theorem projectOnInterval_step_eq_iff (hbox : -lower ≤ upper) (hrho : 0 < rho) :
    projectOnInterval upper lower (w - rho * z) = w ↔ IsRelayPair upper lower z w :=
  (projectOnInterval_eq_iff hbox).trans (isIntervalProjection_step_iff hrho)

end Relay

namespace RelayProblem

variable {problem : RelayProblem ℝ} {k : Vec ℝ problem.size} {c : Candidate ℝ problem.size}

theorem satisfiesInclusion_iff :
    problem.SatisfiesInclusion c ↔ ∀ i, IsRelayPair (problem.upper.get i) (problem.lower.get i)
      (c.reaction.get i) (c.velocity.get i) :=
  ⟨fun h i => ⟨h.lower_le i, h.le_upper i, h.reaction_nonneg i, h.reaction_nonpos i⟩,
    fun h => ⟨fun i => (h i).lower_le, fun i => (h i).le_upper, fun i => (h i).reaction_nonneg,
      fun i => (h i).reaction_nonpos⟩⟩

/-! ### The natural map -/

theorem gapAt_eq_zero_iff {i : Fin problem.size} {z w : ℝ} :
    problem.gapAt i z w = 0 ↔ IsRelayPair (problem.upper.get i) (problem.lower.get i) z w := by
  rw [gapAt, sub_eq_zero, eq_comm, ← projectOnInterval_step_eq_iff (problem.box_nonempty i) one_pos,
    one_mul]

theorem errorOf_eq_zero_iff_inclusion :
    problem.errorOf c.reaction c.velocity = 0 ↔ problem.SatisfiesInclusion c := by
  rw [errorOf_eq_zero_iff_gaps, satisfiesInclusion_iff]
  exact forall_congr' fun i => gapAt_eq_zero_iff

/-! ### The local stage -/

/-- The local stage keeps the candidates that satisfy the inclusion, and no others. -/
theorem localStage_eq_self_iff_inclusion (hk : ∀ i, 0 < k.get i) :
    problem.localStage k c = c ↔ problem.SatisfiesInclusion c := by
  constructor
  · intro heq
    rw [← heq]
    exact satisfiesInclusion_localStage hk c
  · intro h
    refine localStage_eq_self (fun i => (hk i).ne') fun i => ?_
    rw [velocity_localStage]
    exact (projectOnInterval_step_eq_iff (problem.box_nonempty i) (hk i)).mpr
      (satisfiesInclusion_iff.mp h i)

/-- A velocity within the bounds. -/
def InBox (problem : RelayProblem ℝ) (w : Vec ℝ problem.size) : Prop :=
  ∀ i, -problem.lower.get i ≤ w.get i ∧ w.get i ≤ problem.upper.get i

/-- The vector `x` lies in the normal cone of the box at `w`: the box does not reach further in its
direction. -/
structure IsNormalAt (problem : RelayProblem ℝ) (x w : Vec ℝ problem.size) : Prop where
  inBox : problem.InBox w
  dot_nonpos : ∀ v, problem.InBox v → Vec.dot x (Vec.sub v w) ≤ 0

theorem SatisfiesInclusion.isNormalAt (h : problem.SatisfiesInclusion c) :
    problem.IsNormalAt (Vec.neg c.reaction) c.velocity where
  inBox i := ⟨h.lower_le i, h.le_upper i⟩
  dot_nonpos v hv := by
    rw [Vec.dot_eq_sum]
    refine Finset.sum_nonpos fun i _ => ?_
    rw [Vec.get_neg, Vec.get_sub, neg_mul, neg_nonpos]
    exact (satisfiesInclusion_iff.mp h i).normal (hv i).1 (hv i).2

/-! ### The distance of the stages -/

/-- What the gaps between two stages are compared with. -/
noncomputable def stageSize {n : Nat} (k : Vec ℝ n) (linear localStage : Candidate ℝ n) : ℝ :=
  ∑ i, (1 / k.get i * (linear.velocity.get i + localStage.velocity.get i) *
      (linear.velocity.get i + localStage.velocity.get i) +
    k.get i * (linear.reaction.get i + localStage.reaction.get i) *
      (linear.reaction.get i + localStage.reaction.get i))

/-- The error of a local stage is made up of what it moves the velocity. -/
theorem latinError_localStage (hk : ∀ i, 0 < k.get i) (c : Candidate ℝ problem.size) :
    latinError k c (problem.localStage k c) =
      let gap := ∑ i, 1 / k.get i *
        (2 * (c.velocity.get i - (problem.localStage k c).velocity.get i)) ^ 2
      if 0 < stageSize k c (problem.localStage k c) then
        √(gap / stageSize k c (problem.localStage k c))
      else √gap := by
  have hgap : ∑ i, 1 / k.get i * stageGap k c (problem.localStage k c) i *
      stageGap k c (problem.localStage k c) i = ∑ i, 1 / k.get i *
        (2 * (c.velocity.get i - (problem.localStage k c).velocity.get i)) ^ 2 := by
    refine Finset.sum_congr rfl fun i _ => ?_
    rw [stageGap_localStage hk, mul_assoc, sq]
  rw [← hgap, latinError]
  simp only [Vec.sum_eq, Vec.get_ofFn, Scalar.sqrt_eq]
  rfl

/-- What the local stage of a candidate tells about it. -/
structure LocalStageMeasures (problem : RelayProblem ℝ) (k : Vec ℝ problem.size)
    (c : Candidate ℝ problem.size) : Prop where
  stageGap_eq : ∀ i, stageGap k c (problem.localStage k c) i =
    2 * (c.velocity.get i - (problem.localStage k c).velocity.get i)
  error_eq : latinError k c (problem.localStage k c) =
    let gap := ∑ i, 1 / k.get i *
      (2 * (c.velocity.get i - (problem.localStage k c).velocity.get i)) ^ 2
    if 0 < stageSize k c (problem.localStage k c) then
      √(gap / stageSize k c (problem.localStage k c))
    else √gap
  isNormalAt : problem.IsNormalAt (Vec.neg (problem.localStage k c).reaction)
    (problem.localStage k c).velocity
  error_eq_zero_iff : latinError k c (problem.localStage k c) = 0 ↔
    problem.errorOf c.reaction c.velocity = 0

/-- Both errors vanish exactly at the candidates that satisfy the inclusion, the one of the local
stage for every positive direction. -/
theorem criteria_vanish_together (problem : RelayProblem ℝ) (c : Candidate ℝ problem.size) :
    (problem.errorOf c.reaction c.velocity = 0 ↔ problem.SatisfiesInclusion c) ∧
      ∀ k : Vec ℝ problem.size, (∀ i, 0 < k.get i) → problem.LocalStageMeasures k c := by
  refine ⟨errorOf_eq_zero_iff_inclusion, fun k hk => ?_⟩
  have hinclusion := localStage_eq_self_iff_inclusion (c := c) hk
  exact {
    stageGap_eq := stageGap_localStage hk c
    error_eq := latinError_localStage hk c
    isNormalAt := (satisfiesInclusion_localStage hk c).isNormalAt
    error_eq_zero_iff := by
      rw [localStage_eq_self_iff hk, hinclusion, errorOf_eq_zero_iff_inclusion] }

/-- With both velocities of the coupled relays at the upper bound, the error of the local stage vanishes
if both reactions point away from it, and does not if one points to it. -/
theorem coupledRelays_measured :
    (∀ i, 0 < (Vector.replicate 2 1 : Vec ℝ 2).get i) ∧
      latinError (Vector.replicate 2 1) ⟨#v[-1, -1], #v[1, 1]⟩ (coupledRelays.localStage
        (Vector.replicate 2 1) ⟨#v[-1, -1], #v[1, 1]⟩) = 0 ∧
      latinError (Vector.replicate 2 1) ⟨#v[-1, 1], #v[1, 1]⟩ (coupledRelays.localStage
        (Vector.replicate 2 1) ⟨#v[-1, 1], #v[1, 1]⟩) ≠ 0 := by
  have hk (i : Fin 2) : 0 < (Vector.replicate 2 1 : Vec ℝ 2).get i := by
    rw [Vec.get_replicate]
    exact one_pos
  obtain ⟨haway, hmeasured⟩ :=
    criteria_vanish_together coupledRelays ⟨#v[-1, -1], #v[1, 1]⟩
  obtain ⟨htoward, hmeasured'⟩ :=
    criteria_vanish_together coupledRelays ⟨#v[-1, 1], #v[1, 1]⟩
  refine ⟨hk, ?_, ?_⟩
  · refine (hmeasured _ hk).error_eq_zero_iff.mpr (haway.mpr ?_)
    have hpair : IsRelayPair (1 : ℝ) 1 (-1) 1 :=
      ⟨by norm_num, le_rfl, fun h => absurd h (lt_irrefl 1), fun _ => by norm_num⟩
    refine satisfiesInclusion_iff.mpr fun i => ?_
    fin_cases i <;> exact hpair
  · intro herror
    have h := htoward.mp ((hmeasured' _ hk).error_eq_zero_iff.mp herror)
    have hlt : -(1 : ℝ) < 1 := by norm_num
    have hle : (1 : ℝ) ≤ 0 := h.reaction_nonpos (1 : Fin 2) hlt
    exact hle.not_gt one_pos

end RelayProblem

end Complementarity
