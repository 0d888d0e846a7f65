import Mathlib
import Complementarity.Proofs.LoopPairs
import Complementarity.Proofs.RelayFixedPoints

/-!
Projected Gauss-Seidel is a descent method, in exact arithmetic.

For a symmetric matrix, the solutions of a relay problem are the stationary points of a potential: a
quadratic form and, for every unknown, the support function of its interval (`support`). Along one
unknown the potential is a convex function of one number (`linePotential`), and the exact unknown
minimises it. A relaxed update goes part of the way to the minimum, so by convexity it does not lead
higher up, and neither do sweeps and runs, which consist of such updates.
-/

namespace Complementarity

/-! ### Along one unknown -/

section Line

variable {upper lower free m p x y relaxation : ℝ}

/-- The largest value of `-v * x` for a velocity `v` within the bounds. -/
noncomputable def support (upper lower x : ℝ) : ℝ :=
  max (-(upper * x)) (lower * x)

theorem neg_mul_le_support (hlower : -lower ≤ p) (hupper : p ≤ upper) (x : ℝ) :
    -(p * x) ≤ support upper lower x := by
  rcases le_total 0 x with hx | hx
  · have hle : -(p * x) ≤ lower * x := by
      rw [← neg_mul]
      exact mul_le_mul_of_nonneg_right (neg_le.mp hlower) hx
    exact hle.trans (le_max_right _ _)
  · have hle : -(p * x) ≤ -(upper * x) := neg_le_neg (mul_le_mul_of_nonpos_right hupper hx)
    exact hle.trans (le_max_left _ _)

/-- At a pair of the relay, the velocity is one that attains the largest value. -/
theorem IsRelayPair.support_eq (h : IsRelayPair upper lower x p) :
    support upper lower x = -(p * x) := by
  have hbox := h.lower_le.trans h.le_upper
  refine le_antisymm (max_le ?_ ?_) (neg_mul_le_support h.lower_le h.le_upper x)
  · linarith [h.normal hbox le_rfl]
  · linarith [h.normal le_rfl hbox]

/-- The support function is convex. -/
theorem support_relax (h0 : 0 ≤ relaxation) (h1 : relaxation ≤ 1) :
    support upper lower (relaxation * x + (1 - relaxation) * y) ≤
      relaxation * support upper lower x + (1 - relaxation) * support upper lower y := by
  have h1' : 0 ≤ 1 - relaxation := sub_nonneg.mpr h1
  refine max_le ?_ ?_
  · calc -(upper * (relaxation * x + (1 - relaxation) * y))
        = relaxation * -(upper * x) + (1 - relaxation) * -(upper * y) := by ring
      _ ≤ _ := add_le_add (mul_le_mul_of_nonneg_left (le_max_left _ _) h0)
        (mul_le_mul_of_nonneg_left (le_max_left _ _) h1')
  · calc lower * (relaxation * x + (1 - relaxation) * y)
        = relaxation * (lower * x) + (1 - relaxation) * (lower * y) := by ring
      _ ≤ _ := add_le_add (mul_le_mul_of_nonneg_left (le_max_right _ _) h0)
        (mul_le_mul_of_nonneg_left (le_max_right _ _) h1')

/-- The potential as a function of one unknown, up to a constant; `free` is the velocity without that
unknown. -/
noncomputable def linePotential (m free upper lower x : ℝ) : ℝ :=
  0.5 * m * x ^ 2 + free * x + support upper lower x

/-- An unknown that forms a pair of the relay with its velocity minimises the potential. -/
theorem linePotential_le (hm : 0 ≤ m) (h : IsRelayPair upper lower x (free + m * x)) (y : ℝ) :
    linePotential m free upper lower x ≤ linePotential m free upper lower y := by
  have hsupport := neg_mul_le_support h.lower_le h.le_upper y
  have hsquare : 0 ≤ 0.5 * m * (y - x) ^ 2 := by positivity
  calc linePotential m free upper lower x
      = 0.5 * m * y ^ 2 + free * y - (free + m * x) * y - 0.5 * m * (y - x) ^ 2 := by
        rw [linePotential, h.support_eq]
        ring
    _ ≤ linePotential m free upper lower y := by
        rw [linePotential]
        linarith

/-- The potential is convex along one unknown. -/
theorem linePotential_relax (hm : 0 ≤ m) (h0 : 0 ≤ relaxation) (h1 : relaxation ≤ 1)
    (free upper lower x y : ℝ) :
    linePotential m free upper lower (relaxation * x + (1 - relaxation) * y) ≤
      relaxation * linePotential m free upper lower x +
        (1 - relaxation) * linePotential m free upper lower y := by
  have hsupport : support upper lower (relaxation * x + (1 - relaxation) * y) ≤
      relaxation * support upper lower x + (1 - relaxation) * support upper lower y :=
    support_relax h0 h1
  have hgap : 0 ≤ relaxation * (1 - relaxation) * (0.5 * m * (x - y) ^ 2) :=
    mul_nonneg (mul_nonneg h0 (sub_nonneg.mpr h1)) (by positivity)
  calc linePotential m free upper lower (relaxation * x + (1 - relaxation) * y)
      = relaxation * (0.5 * m * x ^ 2 + free * x) +
          (1 - relaxation) * (0.5 * m * y ^ 2 + free * y) -
          relaxation * (1 - relaxation) * (0.5 * m * (x - y) ^ 2) +
          support upper lower (relaxation * x + (1 - relaxation) * y) := by
        rw [linePotential]
        ring
    _ ≤ relaxation * linePotential m free upper lower x +
          (1 - relaxation) * linePotential m free upper lower y := by
        rw [linePotential, linePotential]
        linarith

end Line

namespace RelayProblem

variable {problem : RelayProblem ℝ}

/-! ### The potential of a problem -/

/-- The potential of a reaction. -/
noncomputable def potential (problem : RelayProblem ℝ) (z : Vec ℝ problem.size) : ℝ :=
  0.5 * Vec.dot z (Mat.mulVec problem.matrix z) - Vec.dot problem.offset z +
    ∑ i, max (-(problem.upper.get i * z.get i)) (problem.lower.get i * z.get i)

/-- Another unknown changes the quadratic form of a symmetric matrix in proportion to the velocity. -/
theorem dot_mulVec_update (hsymm : problem.matrix.toMatrix.IsSymm) (z : Vec ℝ problem.size)
    (i : Fin problem.size) (x : ℝ) :
    Vec.dot (Vec.update z i x) (Mat.mulVec problem.matrix (Vec.update z i x)) =
      Vec.dot z (Mat.mulVec problem.matrix z) +
        (x - z.get i) * (2 * problem.matrix.toMatrix.mulVec z.get i +
          problem.matrix.diagonal i * (x - z.get i)) := by
  set a := problem.matrix.toMatrix with ha
  have hdiagonal : a i i = problem.matrix.diagonal i := rfl
  have hcolumn : ∑ j, z.get j * (a j i * (x - z.get i)) = (x - z.get i) * a.mulVec z.get i := by
    rw [Matrix.mulVec, dotProduct, Finset.mul_sum]
    refine Finset.sum_congr rfl fun j _ => ?_
    rw [hsymm.apply i j]
    ring
  rw [Vec.dot_eq_sum,
    Vec.sum_update fun j y => y * (Mat.mulVec problem.matrix (Vec.update z i x)).get j,
    Vec.dot_eq_sum]
  simp only [Mat.get_mulVec_eq, ← ha, Vec.mulVec_update, mul_add, Finset.sum_add_distrib, hcolumn,
    hdiagonal]
  ring

theorem potential_update (hsymm : problem.matrix.toMatrix.IsSymm) (z : Vec ℝ problem.size)
    (i : Fin problem.size) (x : ℝ) :
    problem.potential (Vec.update z i x) = problem.potential z +
      (linePotential (problem.matrix.diagonal i) (problem.velocityWithout z i)
          (problem.upper.get i) (problem.lower.get i) x -
        linePotential (problem.matrix.diagonal i) (problem.velocityWithout z i)
          (problem.upper.get i) (problem.lower.get i) (z.get i)) := by
  have hoffset := Vec.sum_update (fun j y => problem.offset.get j * y) z i x
  have hsupport := Vec.sum_update
    (fun j y => max (-(problem.upper.get j * y)) (problem.lower.get j * y)) z i x
  rw [potential, potential, dot_mulVec_update hsymm, Vec.dot_eq_sum problem.offset,
    Vec.dot_eq_sum problem.offset, hoffset, hsupport, velocityWithout_eq, get_velocity,
    linePotential, linePotential, support, support]
  ring

/-! ### Updates, sweeps and runs -/

section Descent

variable {relaxation : ℝ} (hsymm : problem.matrix.toMatrix.IsSymm)
  (hdiagonal : ∀ i, Scalar.diagonalThreshold < problem.matrix.diagonal i)
  (h0 : 0 ≤ relaxation) (h1 : relaxation ≤ 1)

include hsymm hdiagonal h0 h1

/-- No update leads higher up. -/
theorem potential_updateUnknown_le (z : Vec ℝ problem.size) (i : Fin problem.size) :
    problem.potential (problem.updateUnknown relaxation z i) ≤ problem.potential z := by
  have hpos := Scalar.diagonalThreshold_pos.trans (hdiagonal i)
  have hpair : IsRelayPair (problem.upper.get i) (problem.lower.get i) (problem.exactUnknown z i)
      (problem.velocityWithout z i + problem.matrix.diagonal i * problem.exactUnknown z i) := by
    rw [mul_exactUnknown hpos, add_sub_cancel]
    exact exactUnknown_isRelayPair hpos
  have hexact := linePotential_le hpos.le hpair (z.get i)
  have hshare := mul_le_mul_of_nonneg_left hexact h0
  rw [updateUnknown, potential_update hsymm]
  linarith [linePotential_relax hpos.le h0 h1 (problem.velocityWithout z i)
    (problem.upper.get i) (problem.lower.get i) (problem.exactUnknown z i) (z.get i)]

/-- No sweep leads higher up. -/
theorem potential_sweep_le (z : Vec ℝ problem.size) :
    problem.potential (problem.sweep relaxation z) ≤ problem.potential z := by
  unfold sweep
  generalize List.finRange problem.size = indices
  induction indices generalizing z with
  | nil => exact le_rfl
  | cons i rest ih =>
    rw [List.foldl_cons]
    exact (ih _).trans (potential_updateUnknown_le hsymm hdiagonal h0 h1 z i)

/-- Wherever the loop comes from a position, the potential is not larger than there. -/
theorem potential_le_of_reaches {params : RelaySweepParams ℝ}
    (hparams : params.relaxation = relaxation) {due : Residual ℝ → Prop}
    {start ended : Progress (Residual ℝ) (Candidate ℝ problem.size)}
    (reached : Progress.Reaches due (problem.sweepStep params problem.errorScale) start ended) :
    problem.potential ended.state.reaction ≤ problem.potential start.state.reaction := by
  refine reached.preserves
    (fun progress => problem.potential progress.state.reaction ≤
      problem.potential start.state.reaction) le_rfl fun progress outcome hle _ hok => ?_
  obtain rfl := Except.ok.inj hok
  refine le_trans ?_ hle
  change problem.potential (problem.sweep params.relaxation progress.state.reaction) ≤ _
  rw [hparams]
  exact potential_sweep_le hsymm hdiagonal h0 h1 _

/-- A larger cap does not lead a run higher up. -/
theorem antitone_potential (params : RelaySweepParams ℝ)
    (hparams : params.relaxation = relaxation) :
    Antitone fun cap => problem.potential
      (problem.gaussSeidel { params with iterationCap := cap }).value.reaction := by
  have hflat := flatIndex?_eq_none fun i => (hdiagonal i).not_ge
  intro cap larger hle
  obtain ⟨more, rfl⟩ := Nat.exists_eq_add_of_le hle
  obtain ⟨ended, hfinal, hrun⟩ :=
    exists_gaussSeidel_eq problem hflat { params with iterationCap := cap }
  obtain ⟨ended', hfinal', hrun'⟩ :=
    exists_gaussSeidel_eq problem hflat { params with iterationCap := cap + more }
  -- the longer run goes on from where the shorter one ended
  have hsplit := Progress.final_add (Residual.Exceeds params.tolerance)
    (problem.sweepStep params problem.errorScale) cap more ⟨0, .unmeasured, Candidate.zero _⟩
  have hshorter : Progress.final (Residual.Exceeds params.tolerance)
      (problem.sweepStep params problem.errorScale) cap ⟨0, .unmeasured, Candidate.zero _⟩ =
        .ok ended := hfinal
  rw [hshorter] at hsplit
  have hrest := Progress.ends_of_final (hsplit.symm.trans hfinal')
  simp only [hrun, hrun']
  exact potential_le_of_reaches hsymm hdiagonal h0 h1 hparams hrest.reached

end Descent

/-- Nothing that sweeps do increases the potential. -/
structure Descends (problem : RelayProblem ℝ) (relaxation : ℝ) : Prop where
  update_le (z : Vec ℝ problem.size) (i : Fin problem.size) :
    problem.potential (problem.updateUnknown relaxation z i) ≤ problem.potential z
  sweep_le (z : Vec ℝ problem.size) :
    problem.potential (problem.sweep relaxation z) ≤ problem.potential z
  reaches_le (params : RelaySweepParams ℝ) (due : Residual ℝ → Prop)
    (start ended : Progress (Residual ℝ) (Candidate ℝ problem.size)) :
    params.relaxation = relaxation →
      Progress.Reaches due (problem.sweepStep params problem.errorScale) start ended →
        problem.potential ended.state.reaction ≤ problem.potential start.state.reaction
  antitone (params : RelaySweepParams ℝ) : params.relaxation = relaxation →
    Antitone fun cap => problem.potential
      (problem.gaussSeidel { params with iterationCap := cap }).value.reaction

/-- On a symmetric problem with usable diagonal entries, no update, no sweep and no part of a run
increases the potential, if the relaxation lies between zero and one. -/
theorem gaussSeidel_descends (problem : RelayProblem ℝ) {relaxation : ℝ}
    (hsymm : problem.matrix.toMatrix.IsSymm)
    (hdiagonal : ∀ i, Scalar.diagonalThreshold < problem.matrix.diagonal i)
    (h0 : 0 ≤ relaxation) (h1 : relaxation ≤ 1) : problem.Descends relaxation where
  update_le := potential_updateUnknown_le hsymm hdiagonal h0 h1
  sweep_le := potential_sweep_le hsymm hdiagonal h0 h1
  reaches_le _ _ _ _ hparams reached :=
    potential_le_of_reaches hsymm hdiagonal h0 h1 hparams reached
  antitone params hparams := antitone_potential hsymm hdiagonal h0 h1 params hparams

theorem coupledRelays_diagonal (i : Fin coupledRelays.size) :
    Scalar.diagonalThreshold < coupledRelays.matrix.diagonal i := by
  have hone : coupledRelays.matrix.diagonal i = 1 := Mat.entry_ofFn _ i i
  rw [hone]
  norm_num [Scalar.diagonalThreshold]

theorem coupledRelays_potential (x y : ℝ) :
    coupledRelays.potential #v[x, y] = 0.5 * (x + y) ^ 2 + 3 * (x + y) + |x| + |y| := by
  have hrow (i : Fin 2) : (Mat.mulVec (Mat.ofFn fun _ _ => 1 : Mat ℝ 2 2) #v[x, y]).get i =
      x + y := by
    rw [Mat.get_mulVec, Fin.sum_univ_two, Mat.entry_ofFn, Mat.entry_ofFn, one_mul, one_mul]
    rfl
  have hoffset (i : Fin 2) : (#v[-3, -3] : Vec ℝ 2).get i = -3 := by
    fin_cases i <;> rfl
  have hone (i : Fin 2) : (#v[1, 1] : Vec ℝ 2).get i = 1 := by
    fin_cases i <;> rfl
  have hfirst : (#v[x, y] : Vec ℝ 2).get 0 = x := rfl
  have hsecond : (#v[x, y] : Vec ℝ 2).get 1 = y := rfl
  have habs (a : ℝ) : max (-a) a = |a| := (max_comm _ _).trans rfl
  change 0.5 * Vec.dot #v[x, y] (Mat.mulVec (Mat.ofFn fun _ _ => 1) #v[x, y]) -
    Vec.dot #v[-3, -3] #v[x, y] + ∑ i : Fin 2, max (-((#v[1, 1] : Vec ℝ 2).get i *
      (#v[x, y] : Vec ℝ 2).get i)) ((#v[1, 1] : Vec ℝ 2).get i * (#v[x, y] : Vec ℝ 2).get i) = _
  simp only [Vec.dot_eq_sum, Fin.sum_univ_two, hrow, hoffset, hone, hfirst, hsecond, one_mul, habs]
  ring

/-- Sweeps that go half of the way lead down on the coupled relays, although the matrix is singular:
one sweep from a reaction far away, and runs of any length from zero. -/
theorem coupledRelays_descends :
    coupledRelays.matrix.toMatrix.IsSymm ∧
      (∀ i, Scalar.diagonalThreshold < coupledRelays.matrix.diagonal i) ∧
      coupledRelays.potential (coupledRelays.sweep 0.5 #v[4, -1]) ≤ 18.5 ∧
      ∀ cap, coupledRelays.potential
        (coupledRelays.gaussSeidel ⟨cap, 0, 0.5, 0⟩).value.reaction ≤ 0 := by
  have hentry (i j : Fin coupledRelays.size) : coupledRelays.matrix.toMatrix i j = 1 :=
    Mat.entry_ofFn _ i j
  have hsymm : coupledRelays.matrix.toMatrix.IsSymm :=
    .ext fun i j => (hentry j i).trans (hentry i j).symm
  have hdescends : coupledRelays.Descends 0.5 := gaussSeidel_descends coupledRelays hsymm
    coupledRelays_diagonal (by norm_num) (by norm_num)
  refine ⟨hsymm, coupledRelays_diagonal, ?_, fun cap => ?_⟩
  · have hstart : coupledRelays.potential #v[4, -1] = 18.5 := by
      rw [coupledRelays_potential]
      norm_num
    exact hstart ▸ hdescends.sweep_le #v[4, -1]
  · have hstart : coupledRelays.potential #v[0, 0] = 0 := by
      rw [coupledRelays_potential]
      norm_num
    have hflat := flatIndex?_eq_none fun i => (coupledRelays_diagonal i).not_ge
    obtain ⟨ended, hfinal, hidle⟩ := exists_gaussSeidel_eq coupledRelays hflat ⟨0, 0, 0.5, 0⟩
    obtain rfl := Except.ok.inj hfinal
    have hle := hdescends.antitone ⟨0, 0, 0.5, 0⟩ rfl (Nat.zero_le cap)
    simp only [hidle] at hle
    exact hle.trans_eq hstart

end RelayProblem

end Complementarity
