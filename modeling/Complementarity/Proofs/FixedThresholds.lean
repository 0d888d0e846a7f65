import Mathlib
import Complementarity.Friction.Tresca
import Complementarity.Proofs.StalledIterations

/-!
Friction with fixed thresholds, in exact arithmetic.

With a fixed threshold the tangential reaction fills a disk that no longer depends on the normal one,
and the velocity needs no correction. The error for fixed thresholds vanishes exactly at the
reactions that obey this law at every contact (`thresholdError_eq_zero_iff`). Where the thresholds
are those of the reaction itself, the law is the one of the cone (`obeysThreshold_own_iff`).
-/

namespace Complementarity

variable {t : Nat} {mu threshold : ℝ} {r u : Block ℝ t}

/-! ### The law of a contact -/

/-- Friction below a fixed threshold: the normal components complement each other, and the
tangential reaction opposes the slip as much as the threshold allows. -/
structure ObeysThreshold (threshold : ℝ) (r u : Block ℝ t) : Prop where
  reaction_nonneg : 0 ≤ r.normal
  velocity_nonneg : 0 ≤ u.normal
  normal_mul : r.normal * u.normal = 0
  tangent_le : r.tangentNorm ≤ threshold
  tangent_dot : Vec.dot r.tangent u.tangent = -(threshold * u.tangentNorm)

/-- A unit step against the velocity projects back onto the reactions that obey the law. -/
theorem projectOnCylinder_sub_eq_iff (hthreshold : 0 ≤ threshold) :
    projectOnCylinder threshold (Vec.sub r u) = r ↔ ObeysThreshold threshold r u := by
  have hstep (i : Fin (t + 1)) : (Vec.sub r u).get i = r.get i - 1 * u.get i := by
    rw [Vec.get_sub, one_mul]
  have hnormal : Block.normal (Vec.sub r u) = r.normal - 1 * u.normal := hstep 0
  rw [projectOnCylinder_eq_iff hthreshold, hnormal, max_step_eq_iff one_pos,
    Block.tangent_coords_eq fun i => hstep i.succ, isDiskProjection_step_iff one_pos,
    ← Vec.dot_eq_inner, ← Block.tangentNorm_eq, ← Block.tangentNorm_eq]
  constructor
  · rintro ⟨⟨hr, hu, hmul⟩, hle, hdot⟩
    exact ⟨hr, hu, hmul, hle, hdot⟩
  · rintro ⟨hr, hu, hmul, hle, hdot⟩
    exact ⟨⟨hr, hu, hmul⟩, hle, hdot⟩

theorem thresholdErrorSq_nonneg (threshold : ℝ) (r u : Block ℝ t) :
    0 ≤ thresholdErrorSq threshold r u :=
  Vec.distSq_nonneg _ _

theorem thresholdErrorSq_eq_zero (hthreshold : 0 ≤ threshold) :
    thresholdErrorSq threshold r u = 0 ↔ ObeysThreshold threshold r u := by
  rw [thresholdErrorSq, Vec.distSq_eq_zero, eq_comm]
  exact projectOnCylinder_sub_eq_iff hthreshold

/-- With the threshold of the reaction itself, the law is the one of the friction cone. -/
theorem obeysThreshold_own_iff :
    ObeysThreshold (mu * max r.normal 0) r u ↔ ObeysLaw mu r u := by
  rw [obeysLaw_iff]
  constructor
  · rintro ⟨hr, hu, hmul, hle, hdot⟩
    rw [max_eq_left hr, Block.tangentNorm_eq] at hle hdot
    rw [Vec.dot_eq_inner] at hdot
    exact ⟨hr, hu, hmul, hle, hdot⟩
  · rintro ⟨hr, hu, hmul, hle, hinner⟩
    refine ⟨hr, hu, hmul, ?_, ?_⟩
    · rw [max_eq_left hr, Block.tangentNorm_eq]
      exact hle
    · rw [max_eq_left hr, Block.tangentNorm_eq, Vec.dot_eq_inner]
      exact hinner

/-! ### The error of a problem -/

namespace FrictionProblem

/-- With a threshold for every contact, the sum goes over all of them. -/
theorem sumListed_toList {R : Type} [Scalar R] {n : Nat} (thresholds : Vec R n)
    (f : Fin n → R → R) :
    sumListed thresholds.toList f = Stack.sumOver fun c => f c (thresholds.get c) := by
  have hpairs : (List.finRange n).zip thresholds.toList =
      (List.finRange n).map fun c => (c, thresholds.get c) := by
    rw [Vec.toList_eq_ofFn, List.ofFn_eq_map, ← List.map_prod_left_eq_zip]
  rw [sumListed, hpairs, List.foldl_map, Stack.sumOver, Vec.sum, Vec.sumFrom,
    ← Vector.foldl_toList, Vector.toList_ofFn, List.ofFn_eq_map, List.foldl_map]

/-- In space, the components that the sweeps read are those of the contact. -/
theorem normal_ownReaction {R : Type} [Scalar R] {problem : FrictionProblem R}
    (hspatial : problem.tangents = 2) (r : Stack R problem.contacts problem.tangents)
    (c : Fin problem.contacts) (fits : problem.Fits c) :
    (problem.ownReaction c fits r).normal = (r.block c).normal := by
  change (Vec.slice r (c.val * 3) fits).get 0 =
    (Vec.slice r (c.val * (problem.tangents + 1)) (Stack.block_fits c)).get 0
  rw [Vec.get_slice, Vec.get_slice]
  congr 2
  rw [hspatial]

variable {problem : FrictionProblem ℝ} {r : Stack ℝ problem.contacts problem.tangents}

theorem thresholdError_eq_zero_iff {thresholds : Vec ℝ problem.contacts}
    (hthresholds : ∀ c, 0 ≤ thresholds.get c) :
    problem.thresholdError thresholds.toList r = 0 ↔
      ∀ c, ObeysThreshold (thresholds.get c) (r.block c) ((problem.velocity r).block c) := by
  rw [thresholdError, thresholdErrorOf, sumListed_toList,
    relative_sqrt_sumOver_eq_zero fun c => thresholdErrorSq_nonneg _ _ _]
  exact forall_congr' fun c => thresholdErrorSq_eq_zero (hthresholds c)

variable (problem) in
/-- The friction thresholds at a reaction. -/
noncomputable def ownThresholds (r : Stack ℝ problem.contacts problem.tangents) :
    Vec ℝ problem.contacts :=
  Vector.ofFn fun c => problem.friction.get c * max (r.block c).normal 0

theorem get_ownThresholds (c : Fin problem.contacts) :
    (problem.ownThresholds r).get c = problem.friction.get c * max (r.block c).normal 0 :=
  Vec.get_ofFn _ c

theorem ownThresholds_nonneg (problem : FrictionProblem ℝ)
    (r : Stack ℝ problem.contacts problem.tangents) (c : Fin problem.contacts) :
    0 ≤ (problem.ownThresholds r).get c := by
  rw [get_ownThresholds]
  exact mul_nonneg (problem.friction_nonneg c) (le_max_right _ _)

theorem thresholdError_own_eq_zero_iff :
    problem.thresholdError (problem.ownThresholds r).toList r = 0 ↔ problem.error r = 0 := by
  rw [thresholdError_eq_zero_iff (problem.ownThresholds_nonneg r), error_eq_zero_iff]
  refine forall_congr' fun c => ?_
  rw [get_ownThresholds]
  exact obeysThreshold_own_iff

/-- In space these are the thresholds that the Tresca method fixes. -/
theorem thresholdsAt_eq_ownThresholds (hspatial : problem.tangents = 2) :
    problem.thresholdsAt r = (problem.ownThresholds r).toList := by
  rw [thresholdsAt, ownThresholds, Vector.toList_ofFn, List.ofFn_eq_map]
  refine List.map_congr_left fun c _ => ?_
  rw [dif_pos (problem.fits_of_spatial hspatial c), normal_ownReaction hspatial,
    Scalar.greater_eq_max]

/-- The error for fixed thresholds vanishes exactly where every contact obeys its threshold, and for
the thresholds that the Tresca method takes from a reaction exactly where the friction error does. -/
theorem models_meet_at_own_thresholds (problem : FrictionProblem ℝ)
    (r : Stack ℝ problem.contacts problem.tangents) :
    (∀ thresholds : Vec ℝ problem.contacts, (∀ c, 0 ≤ thresholds.get c) →
      (problem.thresholdError thresholds.toList r = 0 ↔
        ∀ c, ObeysThreshold (thresholds.get c) (r.block c) ((problem.velocity r).block c))) ∧
    (problem.thresholdError (problem.ownThresholds r).toList r = 0 ↔ problem.error r = 0) ∧
    (problem.tangents = 2 → problem.thresholdsAt r = (problem.ownThresholds r).toList) :=
  ⟨fun _ => thresholdError_eq_zero_iff, thresholdError_own_eq_zero_iff,
    thresholdsAt_eq_ownThresholds⟩

/-- The sliding contact slides at its own threshold, which the Tresca method finds. -/
theorem slidingContact_meets_threshold :
    slidingContact.tangents = 2 ∧
    (∀ c, 0 ≤ (slidingContact.ownThresholds #v[1, -0.3, 0]).get c) ∧
    slidingContact.thresholdError (slidingContact.thresholdsAt #v[1, -0.3, 0]) #v[1, -0.3, 0] = 0 ∧
    ∀ c : Fin 1, ObeysThreshold (t := 2) ((slidingContact.ownThresholds #v[1, -0.3, 0]).get c)
      (Stack.block (#v[1, -0.3, 0] : Stack ℝ 1 2) c)
      (Stack.block (#v[0, 0.2, 0] : Stack ℝ 1 2) c) := by
  obtain ⟨hfixed, hown, hspatial⟩ := models_meet_at_own_thresholds slidingContact #v[1, -0.3, 0]
  have hnonneg := slidingContact.ownThresholds_nonneg #v[1, -0.3, 0]
  have herror := hown.mpr (error_eq_zero_iff.mpr slidingContact_isSolution)
  have hvelocity : slidingContact.velocity #v[1, -0.3, 0] = #v[0, 0.2, 0] := slidingContact_velocity
  have hlaw := (hfixed _ hnonneg).mp herror
  rw [hvelocity] at hlaw
  exact ⟨rfl, hnonneg, (hspatial rfl).symm ▸ herror, hlaw⟩

end FrictionProblem

end Complementarity
