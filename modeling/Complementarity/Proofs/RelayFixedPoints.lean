import Complementarity.Proofs.RelayCriteria
import Complementarity.Proofs.RelayErrorBound
import Complementarity.Proofs.StalledIterations

/-!
Sweeps that change nothing, for relay problems in exact arithmetic.

The velocity at an index without the own unknown does not depend on that unknown, and an update with a
full step makes the index a solved one: its velocity is the projection of what it would be without the
own unknown (`isSolvedAt_updateUnknown`). So an update changes nothing just where its index is solved
already. No other update of a sweep touches the same unknown, and a sweep that ends where it began has
made no move at all, whatever its relaxation.
-/

namespace Complementarity

/-- A single entry is a part of length one. -/
theorem Vec.update_eq_splice {R : Type} {n : Nat} (x : Vec R n) (i : Fin n) (a : R) :
    Vec.update x i a = Vec.splice x (i.val * 1) (Vector.replicate 1 a) := by
  refine Vec.ext_get fun j => ?_
  rw [Vec.get_update, Vec.get_splice]
  by_cases h : j = i
  · rw [if_pos h, dif_pos (by omega), Vec.get_replicate]
  · have hval : j.val ≠ i.val := Fin.val_ne_of_ne h
    rw [if_neg h, dif_neg (by omega)]

/-- Another entry changes a sum in the term of that entry only. -/
theorem Vec.sum_update {n : Nat} (f : Fin n → ℝ → ℝ) (z : Vec ℝ n) (i : Fin n) (x : ℝ) :
    ∑ j, f j ((Vec.update z i x).get j) = (∑ j, f j (z.get j)) + (f i x - f i (z.get i)) := by
  have hterm (j : Fin n) : f j ((Vec.update z i x).get j) =
      f j (z.get j) + if j = i then f i x - f i (z.get i) else 0 := by
    rw [Vec.get_update]
    split
    · next h => rw [h, add_sub_cancel]
    · rw [add_zero]
  simp only [hterm, Finset.sum_add_distrib, Finset.sum_ite_eq', Finset.mem_univ, if_true]

/-- Another entry changes a matrix product in proportion to the entries of a column. -/
theorem Vec.mulVec_update {n : Nat} (a : Matrix (Fin n) (Fin n) ℝ) (z : Vec ℝ n) (i j : Fin n)
    (x : ℝ) : a.mulVec (Vec.update z i x).get j = a.mulVec z.get j + a j i * (x - z.get i) := by
  rw [mul_sub]
  exact Vec.sum_update (fun l y => a j l * y) z i x

namespace RelayProblem

variable {problem : RelayProblem ℝ} {z : Vec ℝ problem.size} {i : Fin problem.size}

/-! ### One unknown -/

theorem velocityWithout_eq (problem : RelayProblem ℝ) (z : Vec ℝ problem.size)
    (i : Fin problem.size) :
    problem.velocityWithout z i =
      (problem.velocity z).get i - problem.matrix.diagonal i * z.get i := by
  have hrow : Vec.sumProducts (problem.matrix.get i) z =
      problem.matrix.toMatrix.mulVec z.get i :=
    (Vec.get_map _ _ _).symm.trans (Mat.get_mulVec_eq problem.matrix z i)
  rw [velocityWithout, hrow, get_velocity]
  ring

theorem get_velocity_update (problem : RelayProblem ℝ) (z : Vec ℝ problem.size)
    (i : Fin problem.size) (x : ℝ) :
    (problem.velocity (Vec.update z i x)).get i =
      problem.velocityWithout z i + problem.matrix.diagonal i * x := by
  have hentry : problem.matrix.toMatrix i i = problem.matrix.diagonal i := rfl
  rw [velocityWithout_eq, get_velocity, get_velocity, Vec.mulVec_update, hentry]
  ring

/-- The scalar problem of an index is solved: its velocity is the projection of the velocity without
the own unknown, and it has no gap. -/
structure IsSolvedAt (problem : RelayProblem ℝ) (z : Vec ℝ problem.size) (i : Fin problem.size) :
    Prop where
  velocity_eq : (problem.velocity z).get i =
    projectOnInterval (problem.upper.get i) (problem.lower.get i)
      ((problem.velocity (Vec.update z i 0)).get i)
  gap_eq : problem.gapAt i (z.get i) ((problem.velocity z).get i) = 0

theorem mul_exactUnknown (hpos : 0 < problem.matrix.diagonal i) :
    problem.matrix.diagonal i * problem.exactUnknown z i =
      projectOnInterval (problem.upper.get i) (problem.lower.get i) (problem.velocityWithout z i) -
        problem.velocityWithout z i :=
  mul_div_cancel₀ _ hpos.ne'

/-- The exact unknown with the projected velocity is a pair of the relay. -/
theorem exactUnknown_isRelayPair (hpos : 0 < problem.matrix.diagonal i) :
    IsRelayPair (problem.upper.get i) (problem.lower.get i) (problem.exactUnknown z i)
      (projectOnInterval (problem.upper.get i) (problem.lower.get i)
        (problem.velocityWithout z i)) := by
  rw [← isIntervalProjection_step_iff hpos, mul_exactUnknown hpos, sub_sub_cancel]
  exact projectOnInterval_isProjection (problem.box_nonempty i) _

theorem updateUnknown_one (z : Vec ℝ problem.size) (i : Fin problem.size) :
    problem.updateUnknown 1 z i = Vec.update z i (problem.exactUnknown z i) := by
  rw [updateUnknown, one_mul, sub_self, zero_mul, add_zero]

/-- An update with a full step solves the problem of its index. -/
theorem isSolvedAt_updateUnknown (hpos : 0 < problem.matrix.diagonal i)
    (z : Vec ℝ problem.size) : problem.IsSolvedAt (problem.updateUnknown 1 z i) i := by
  have hagain (x : ℝ) : Vec.update (Vec.update z i x) i 0 = Vec.update z i 0 := by
    refine Vec.ext_get fun j => ?_
    rw [Vec.get_update, Vec.get_update, Vec.get_update]
    split <;> rfl
  have hown : (Vec.update z i (problem.exactUnknown z i)).get i = problem.exactUnknown z i := by
    rw [Vec.get_update, if_pos rfl]
  have hvelocity : (problem.velocity (Vec.update z i (problem.exactUnknown z i))).get i =
      projectOnInterval (problem.upper.get i) (problem.lower.get i)
        (problem.velocityWithout z i) := by
    rw [get_velocity_update, mul_exactUnknown hpos, add_sub_cancel]
  rw [updateUnknown_one]
  constructor
  · rw [hvelocity, hagain, get_velocity_update, mul_zero, add_zero]
  · rw [hown, hvelocity]
    exact gapAt_eq_zero_iff.mpr (exactUnknown_isRelayPair hpos)

/-- An unknown is the exact one just if it forms a pair of the relay with its velocity. -/
theorem exactUnknown_eq_iff (hpos : 0 < problem.matrix.diagonal i) :
    problem.exactUnknown z i = z.get i ↔ IsRelayPair (problem.upper.get i) (problem.lower.get i)
      (z.get i) ((problem.velocity z).get i) := by
  rw [← projectOnInterval_step_eq_iff (problem.box_nonempty i) hpos, ← velocityWithout_eq,
    ← mul_right_inj' hpos.ne', mul_exactUnknown hpos, velocityWithout_eq, sub_eq_iff_eq_add,
    add_sub_cancel]

/-! ### Sweeps -/

variable {relaxation : ℝ}

/-- A relaxed update changes nothing just where the unknown is the exact one. -/
theorem updateUnknown_eq_self_iff (hne : relaxation ≠ 0) :
    problem.updateUnknown relaxation z i = z ↔ problem.exactUnknown z i = z.get i := by
  constructor
  · intro h
    have hentry := congrArg (fun x : Vec ℝ problem.size => x.get i) h
    simp only [updateUnknown, Vec.get_update, if_pos] at hentry
    exact mul_left_cancel₀ hne (by linarith)
  · intro h
    refine Vec.ext_get fun j => ?_
    rw [updateUnknown, Vec.get_update, h]
    split
    · next hj => rw [hj]; ring
    · rfl

/-- An update changes no unknown but its own. -/
theorem updateUnknown_changesOwn (problem : RelayProblem ℝ) (relaxation : ℝ) :
    ChangesOwnBlock 1 fun i z z' => z' = problem.updateUnknown relaxation z i := by
  rintro i z _ rfl
  exact ⟨_, Vec.update_eq_splice z i _⟩

/-- A sweep changes nothing just if none of its updates does. -/
theorem sweep_eq_self_iff :
    problem.sweep relaxation z = z ↔ ∀ i, problem.updateUnknown relaxation z i = z := by
  constructor
  · intro h i
    have hsweeps := sweeps_foldl (problem.updateUnknown relaxation) (List.finRange problem.size) z
    have hends : (List.finRange problem.size).foldl (problem.updateUnknown relaxation) z = z := h
    rw [hends] at hsweeps
    exact (hsweeps.update_self (updateUnknown_changesOwn problem relaxation)
      (fun i => by omega) (List.nodup_finRange _) i (List.mem_finRange i)).symm
  · intro h
    unfold sweep
    generalize List.finRange problem.size = indices
    induction indices with
    | nil => rfl
    | cons i rest ih => rw [List.foldl_cons, h i, ih]

/-- What sweeps and their updates settle. -/
structure SettlesRelays (problem : RelayProblem ℝ) : Prop where
  sweep_eq_self_iff (relaxation : ℝ) (z : Vec ℝ problem.size) : relaxation ≠ 0 →
    (problem.sweep relaxation z = z ↔ problem.errorOf z (problem.velocity z) = 0)
  isSolvedAt (z : Vec ℝ problem.size) (i : Fin problem.size) :
    problem.IsSolvedAt (problem.updateUnknown 1 z i) i

/-- With usable diagonal entries, sweeps of any relaxation but zero change nothing exactly at the
reactions without an error, and a full update solves the problem of its index. -/
theorem sweeps_settle_relays (problem : RelayProblem ℝ)
    (hdiagonal : ∀ i, Scalar.diagonalThreshold < problem.matrix.diagonal i) :
    problem.SettlesRelays where
  sweep_eq_self_iff relaxation z hne := by
    rw [RelayProblem.sweep_eq_self_iff, errorOf_eq_zero_iff_gaps]
    refine forall_congr' fun i => ?_
    have hpos := Scalar.diagonalThreshold_pos.trans (hdiagonal i)
    rw [updateUnknown_eq_self_iff hne, exactUnknown_eq_iff hpos, gapAt_eq_zero_iff]
  isSolvedAt z i := isSolvedAt_updateUnknown (Scalar.diagonalThreshold_pos.trans (hdiagonal i)) z

/-- Sweeps that go half of the way stay at the solution of the opposed relays, where both are at a
bound; from zero, the first full update solves the first relay. -/
theorem opposedRelays_settled :
    (∀ i, Scalar.diagonalThreshold < opposedRelays.matrix.diagonal i) ∧
      opposedRelays.sweep 0.5 (Vector.replicate 2 1) = Vector.replicate 2 1 ∧
      opposedRelays.IsSolvedAt (opposedRelays.updateUnknown 1 (Vec.zero 2) (0 : Fin 2))
        (0 : Fin 2) := by
  have hsettles := sweeps_settle_relays opposedRelays opposedRelays_diagonal
  have herror := (errorOf_eq_zero_iff _).mpr opposedRelays_isSolution
  exact ⟨opposedRelays_diagonal, (hsettles.sweep_eq_self_iff 0.5 _ (by norm_num)).mpr herror,
    hsettles.isSolvedAt _ _⟩

end RelayProblem

end Complementarity
