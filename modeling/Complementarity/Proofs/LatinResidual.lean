import Complementarity.Proofs.LatinRuns
import Complementarity.Proofs.StoppingCuts

/-!
What a zero residual of the LATIN method means, in exact arithmetic.

With a positive search direction the residual vanishes just if the local stage has changed nothing
(`localStage_eq_self_iff`), and what a local stage leaves satisfies the inclusion. The sign of the
direction is the product of the sign of the scale and that of the diagonal, and the factorisation
settles the sign of the diagonal: the direction is positive for every scale that passes the checks of
a run, except for those between minus one and zero (`direction_pos`). There it is negative, the local
stage pushes the wrong way, and a run can converge to vectors that satisfy the reversed inclusion.
-/

namespace Complementarity.RelayProblem

variable {problem : RelayProblem ℝ} {k : Vec ℝ problem.size} {c : Candidate ℝ problem.size}

/-! ### The inclusion -/

/-- The velocity lies in the box, and away from a bound the reaction does not point to it. -/
structure SatisfiesInclusion (problem : RelayProblem ℝ) (c : Candidate ℝ problem.size) :
    Prop where
  lower_le : ∀ i, -problem.lower.get i ≤ c.velocity.get i
  le_upper : ∀ i, c.velocity.get i ≤ problem.upper.get i
  reaction_nonneg : ∀ i, c.velocity.get i < problem.upper.get i → 0 ≤ c.reaction.get i
  reaction_nonpos : ∀ i, -problem.lower.get i < c.velocity.get i → c.reaction.get i ≤ 0

/-- The local stage satisfies the inclusion, whatever it starts from. -/
theorem satisfiesInclusion_localStage (hk : ∀ i, 0 < k.get i) (c : Candidate ℝ problem.size) :
    problem.SatisfiesInclusion (problem.localStage k c) := by
  have hproject (i : Fin problem.size) :
      IsIntervalProjection (problem.upper.get i) (problem.lower.get i) (pulled k c i)
        ((problem.localStage k c).velocity.get i) := by
    rw [velocity_localStage]
    exact projectOnInterval_isProjection (problem.box_nonempty i) _
  refine ⟨fun i => (hproject i).lower_le, fun i => (hproject i).le_upper, fun i hi => ?_,
    fun i hi => ?_⟩
  · rw [reaction_localStage]
    have hnormal := (hproject i).normal _ (problem.box_nonempty i) le_rfl
    exact div_nonneg (nonneg_of_mul_nonneg_left hnormal (sub_pos.mpr hi)) (hk i).le
  · rw [reaction_localStage]
    have hnormal := (hproject i).normal _ le_rfl (problem.box_nonempty i)
    refine div_nonpos_of_nonpos_of_nonneg ?_ (hk i).le
    exact nonpos_of_mul_nonneg_left hnormal (sub_neg.mpr hi)

/-! ### The residual -/

section Residual

variable {n : Nat} {k : Vec ℝ n} {linear localStage : Candidate ℝ n}

/-- The gap between the stages, at an index. -/
noncomputable def stageGap (k : Vec ℝ n) (linear localStage : Candidate ℝ n) (i : Fin n) : ℝ :=
  (linear.velocity.get i - localStage.velocity.get i) +
    k.get i * (linear.reaction.get i - localStage.reaction.get i)

theorem stageGap_self (k : Vec ℝ n) (c : Candidate ℝ n) (i : Fin n) : stageGap k c c i = 0 := by
  rw [stageGap, sub_self, sub_self, mul_zero, add_zero]

/-- A gap relative to a size vanishes with the gap, also where the size does not count. -/
theorem sqrt_ratio_eq_zero_iff {gap size : ℝ} (hgap : 0 ≤ gap) :
    (if 0 < size then √(gap / size) else √gap) = 0 ↔ gap = 0 := by
  split
  · next hsize =>
    rw [Real.sqrt_eq_zero (div_nonneg hgap hsize.le), div_eq_zero_iff]
    exact or_iff_left hsize.ne'
  · exact Real.sqrt_eq_zero hgap

/-- Stages that agree leave no error, whatever the direction. -/
theorem latinError_self (k : Vec ℝ n) (c : Candidate ℝ n) : latinError k c c = 0 := by
  have hgap : ∑ i, 1 / k.get i * stageGap k c c i * stageGap k c c i = 0 :=
    Finset.sum_eq_zero fun i _ => by rw [stageGap_self, mul_zero]
  unfold latinError
  simp only [Vec.sum_eq, Vec.get_ofFn, Scalar.sqrt_eq]
  exact (sqrt_ratio_eq_zero_iff hgap.ge).mpr hgap

theorem latinError_eq_zero_iff (hk : ∀ i, 0 < k.get i) :
    latinError k linear localStage = 0 ↔ ∀ i, stageGap k linear localStage i = 0 := by
  have hweight (i : Fin n) : 0 < 1 / k.get i := one_div_pos.mpr (hk i)
  have hterm (i : Fin n) : 0 ≤ 1 / k.get i * stageGap k linear localStage i *
      stageGap k linear localStage i := by
    rw [mul_assoc]
    exact mul_nonneg (hweight i).le (mul_self_nonneg _)
  have hsum : ∑ i, 1 / k.get i * stageGap k linear localStage i *
      stageGap k linear localStage i = 0 ↔ ∀ i, stageGap k linear localStage i = 0 := by
    rw [Finset.sum_eq_zero_iff_of_nonneg fun i _ => hterm i]
    refine forall_congr' fun i => ?_
    rw [mul_assoc, mul_eq_zero, mul_self_eq_zero]
    simp only [Finset.mem_univ, true_imp_iff, (hweight i).ne', false_or]
  have hnonneg := Finset.sum_nonneg fun i (_ : i ∈ Finset.univ) => hterm i
  unfold latinError
  simp only [Vec.sum_eq, Vec.get_ofFn, Scalar.sqrt_eq]
  exact (sqrt_ratio_eq_zero_iff hnonneg).trans hsum

end Residual

/-- The local stage keeps what is pulled back, so a gap shows in the velocity. -/
theorem stageGap_localStage (hk : ∀ i, 0 < k.get i) (c : Candidate ℝ problem.size)
    (i : Fin problem.size) :
    stageGap k c (problem.localStage k c) i =
      2 * (c.velocity.get i - (problem.localStage k c).velocity.get i) := by
  have hpulled := congrFun (pulled_localStage hk c) i
  rw [pulled, pulled] at hpulled
  rw [stageGap]
  linarith

theorem localStage_eq_self_iff (hk : ∀ i, 0 < k.get i) :
    latinError k c (problem.localStage k c) = 0 ↔ problem.localStage k c = c := by
  rw [latinError_eq_zero_iff hk]
  constructor
  · intro hgap
    have hvelocity (i : Fin problem.size) :
        (problem.localStage k c).velocity.get i = c.velocity.get i := by
      have hzero := (stageGap_localStage hk c i).symm.trans (hgap i)
      linarith
    exact localStage_eq_self (fun i => (hk i).ne') hvelocity
  · intro heq i
    rw [heq, stageGap_self]

/-! ### Runs -/

/-- A scale outside of the open interval from minus one to zero that passes the checks of a run gives
a positive direction. -/
theorem direction_pos {scale : ℝ} (hscale : scale ≤ -1 ∨ 0 ≤ scale)
    (hdirection : vanishingIndex? (problem.searchDirection scale) = none)
    {factor : Triangle ℝ problem.size}
    (hfactor : Triangle.factor? (problem.latinMatrix (problem.searchDirection scale)) = some factor)
    (i : Fin problem.size) : 0 < (problem.searchDirection scale).get i := by
  set m := problem.matrix.diagonal i with hm
  have hk : (problem.searchDirection scale).get i = scale * m := Vec.get_ofFn _ i
  have hne : scale * m ≠ 0 := by
    have hlarge := List.find?_eq_none.mp hdirection i (List.mem_finRange i)
    rw [decide_eq_true_eq, Scalar.abs_eq, hk, not_le] at hlarge
    exact abs_pos.mp (Scalar.diagonalThreshold_pos.trans hlarge)
  have hdiagonal : 0 < m + scale * m := by
    have hpos := Triangle.entry_pos_of_factor? hfactor i
    rwa [latinMatrix, Mat.entry_ofFn, if_pos rfl, hk] at hpos
  rw [hk]
  rcases hscale with hle | hge
  · -- the diagonal entry and one plus the scale have the same sign, and so has the scale
    have hneg : m < 0 := by
      by_contra hge
      linarith [mul_nonneg (not_lt.mp hge) (neg_nonneg.mpr (by linarith : scale + 1 ≤ 0))]
    exact mul_pos_of_neg_of_neg (by linarith) hneg
  · have hpos : 0 < m := by
      by_contra hle
      linarith [mul_nonneg (neg_nonneg.mpr (not_lt.mp hle)) (by linarith : 0 ≤ scale + 1)]
    exact (mul_nonneg hge hpos.le).lt_of_ne' hne

/-- A converged run without a residual has found vectors that satisfy the inclusion, if its scale
does not lie between minus one and zero. -/
theorem latin_zero_residual_sound (problem : RelayProblem ℝ) (params : LatinParams ℝ)
    (hscale : params.scale ≤ -1 ∨ 0 ≤ params.scale)
    (hstatus : (problem.latin params).value.status = .converged)
    (hresidual : (problem.latin params).value.residual = 0) :
    problem.SatisfiesInclusion (problem.latin params).value.toCandidate := by
  rcases problem.latin_cases params with ⟨status, habort, heq⟩ |
    ⟨factor, hdirection, hfactor, ended, hfinal, heq⟩
  · rw [heq] at hstatus
    rcases habort with rfl | rfl <;> cases hstatus
  · rw [heq] at hresidual ⊢
    have hk := direction_pos hscale hdirection hfactor
    have herror : ended.error = 0 := hresidual
    have hends := Progress.ends_of_final hfinal
    -- the error before the first iteration is one, so there has been an iteration
    have hpos : 0 < ended.iterations := by
      by_contra hzero
      obtain rfl := hends.reached.eq_start (not_lt.mp hzero)
      exact one_ne_zero herror
    have hlast := hends.reached.establishes
      (fun error state => error = latinError (problem.searchDirection params.scale) state.linear
        (problem.localStage (problem.searchDirection params.scale) state.linear))
      (fun progress outcome hok => by cases hok; rfl) hpos
    have hstays := (localStage_eq_self_iff hk).mp (hlast.symm.trans herror)
    have hinclusion := satisfiesInclusion_localStage hk ended.state.linear
    rw [hstays] at hinclusion
    exact hinclusion

/-! ### A lone relay -/

/-- A run whose first local stage changes nothing ends there, without a residual. -/
theorem latin_eq_of_localStage_eq {params : LatinParams ℝ}
    {factor : Triangle ℝ problem.size}
    (hdirection : vanishingIndex? (problem.searchDirection params.scale) = none)
    (hfactor : Triangle.factor? (problem.latinMatrix (problem.searchDirection params.scale)) =
      some factor)
    (hcap : 0 < params.iterationCap) (htolerance : 0 ≤ params.tolerance)
    (hdue : params.tolerance < 1)
    (hlinear : problem.linearStage (problem.searchDirection params.scale) factor.solve
      (Candidate.zero _) = c)
    (hlocal : problem.localStage (problem.searchDirection params.scale) c = c) :
    (problem.latin params).value = c.ending ⟨.converged, 1, 0⟩ := by
  obtain ⟨ended, hfinal, heq⟩ := exists_latin_eq params hdirection hfactor
  have hstep : (problem.latinStep params (problem.searchDirection params.scale) factor.solve
      ⟨0, 1, ⟨Candidate.zero _, Candidate.zero _⟩⟩).value = .ok (0, ⟨c, c⟩) := by
    rw [← latinError_self (problem.searchDirection params.scale) c]
    simp only [latinStep, hlinear, hlocal]
    rfl
  rw [Progress.final_eq_next hcap hdue hstep htolerance.not_gt] at hfinal
  obtain rfl := Except.ok.inj hfinal
  rw [heq]
  exact congrArg (fun status => c.ending ⟨status, 1, 0⟩) (if_pos htolerance)

/-- A relay on its own. Its size is seen through wherever a vector has that length. -/
noncomputable abbrev loneRelay (entry offset upper lower : ℝ) (h : -lower ≤ upper) :
    RelayProblem ℝ where
  size := 1
  matrix := Mat.ofFn fun _ _ => entry
  offset := Vector.replicate 1 offset
  upper := Vector.replicate 1 upper
  lower := Vector.replicate 1 lower
  box_nonempty i := by rwa [Vec.get_replicate, Vec.get_replicate]

/-- A reaction of a lone relay with its velocity. -/
def loneCandidate (reaction velocity : ℝ) : Candidate ℝ 1 :=
  ⟨Vector.replicate 1 reaction, Vector.replicate 1 velocity⟩

section LoneRelay

variable {entry offset upper lower z : ℝ} {h : -lower ≤ upper}

theorem loneRelay_direction (scale : ℝ) (i : Fin 1) :
    ((loneRelay entry offset upper lower h).searchDirection scale).get i = scale * entry :=
  (Vec.get_ofFn _ i).trans (congrArg (scale * ·) (Mat.entry_ofFn _ i i))

theorem loneRelay_latinMatrix (k : Vec ℝ 1) (i j : Fin 1) :
    Mat.entry ((loneRelay entry offset upper lower h).latinMatrix k) i j = entry + k.get i := by
  obtain rfl := Subsingleton.elim i j
  refine (Mat.entry_ofFn _ i i).trans ((if_pos rfl).trans ?_)
  exact congrArg (· + k.get i) (Mat.entry_ofFn _ i i)

/-- From zero, the linear stage finds the reaction that balances the relay with its direction. -/
theorem loneRelay_linearStage {k : Vec ℝ 1} {factor : Triangle ℝ 1}
    (hpos : 0 < entry + k.get 0) (hz : (entry + k.get 0) * z = offset)
    (hfactor : Triangle.factor? ((loneRelay entry offset upper lower h).latinMatrix k) =
      some factor) :
    (loneRelay entry offset upper lower h).linearStage k factor.solve (Candidate.zero 1) =
      loneCandidate z (-(k.get 0 * z)) := by
  set problem := loneRelay entry offset upper lower h
  set c : Candidate ℝ 1 := problem.linearStage k factor.solve (Candidate.zero 1)
  have hkeeps : pushed k c = pushed k (Candidate.zero 1) :=
    problem.pushed_linearStage k factor.solve _
  have hpushed : c.velocity.get 0 + k.get 0 * c.reaction.get 0 = 0 :=
    congrFun (hkeeps.trans (pushed_zero k)) 0
  have hreaction : (entry + k.get 0) * c.reaction.get 0 = offset := by
    have hsolve := Triangle.entry_mul_get_solve hfactor (Vec.add (Vector.replicate 1 offset)
      (Vec.add (Vec.zero 1) (Vector.zipWith (fun a b => a * b) k (Vec.zero 1))))
    rw [loneRelay_latinMatrix] at hsolve
    simp only [Vec.get_add, Vec.get_zipWith, Vec.get_zero, Vec.get_replicate, mul_zero, add_zero]
      at hsolve
    exact hsolve
  have hreaction' : c.reaction.get 0 = z :=
    mul_left_cancel₀ hpos.ne' (hreaction.trans hz.symm)
  refine Candidate.ext_get (fun i => ?_) fun i => ?_
  · obtain rfl := Subsingleton.elim i 0
    rw [loneCandidate, Vec.get_replicate]
    rw [hreaction'] at hpushed
    linarith
  · obtain rfl := Subsingleton.elim i 0
    rw [loneCandidate, Vec.get_replicate, hreaction']

/-- If the box lets the velocity of the first linear stage pass, then a run ends with it. -/
theorem loneRelay_latin {params : LatinParams ℝ} (hcap : 0 < params.iterationCap)
    (htolerance : 0 ≤ params.tolerance) (hdue : params.tolerance < 1)
    (hdirection : Scalar.diagonalThreshold < |params.scale * entry|)
    (hpos : 0 < entry + params.scale * entry) (hz : (entry + params.scale * entry) * z = offset)
    (hbox : projectOnInterval upper lower (-(params.scale * entry * z) - params.scale * entry * z) =
      -(params.scale * entry * z)) :
    ((loneRelay entry offset upper lower h).latin params).value =
      (loneCandidate z (-(params.scale * entry * z))).ending ⟨.converged, 1, 0⟩ := by
  set k : Vec ℝ 1 := (loneRelay entry offset upper lower h).searchDirection params.scale
  have hk (i : Fin 1) : k.get i = params.scale * entry := loneRelay_direction params.scale i
  have hentry : 0 < ((loneRelay entry offset upper lower h).latinMatrix k).entry 0 0 := by
    rw [loneRelay_latinMatrix, hk]; exact hpos
  obtain ⟨factor, hfactor⟩ := Triangle.exists_factor_one hentry
  have hlinear :=
    loneRelay_linearStage (h := h) (k := k) (z := z) (by rwa [hk]) (by rwa [hk]) hfactor
  rw [hk] at hlinear
  refine latin_eq_of_localStage_eq ?_ hfactor hcap htolerance hdue hlinear ?_
  · refine List.find?_eq_none.mpr fun i _ hvanishes => ?_
    rw [decide_eq_true_eq, Scalar.abs_eq, hk] at hvanishes
    exact hdirection.not_ge hvanishes
  · have hne : params.scale * entry ≠ 0 :=
      abs_pos.mp (Scalar.diagonalThreshold_pos.trans hdirection)
    refine localStage_eq_self (fun i => (hk i).trans_ne hne) fun i => ?_
    rw [velocity_localStage, pulled, hk, loneCandidate, Vec.get_replicate, Vec.get_replicate,
      Vec.get_replicate, Vec.get_replicate]
    exact hbox

end LoneRelay

/-- A relay that rests at its lower bound. -/
noncomputable abbrev restingRelay : RelayProblem ℝ :=
  loneRelay 1 1 1 0.5 (by norm_num)

theorem restingRelay_latin : (restingRelay.latin ⟨1000, 0, 1, 0⟩).value =
    (loneCandidate 0.5 (-(1 * 1 * 0.5))).ending ⟨.converged, 1, 0⟩ := by
  refine loneRelay_latin (by decide) le_rfl zero_lt_one ?_ (by norm_num) (by norm_num) ?_
  · norm_num [Scalar.diagonalThreshold]
  · rw [projectOnInterval_eq_max]
    norm_num

/-- The reaction holds the relay there. -/
theorem restingRelay_satisfiesInclusion :
    restingRelay.SatisfiesInclusion (restingRelay.latin ⟨1000, 0, 1, 0⟩).value.toCandidate := by
  refine latin_zero_residual_sound restingRelay ⟨1000, 0, 1, 0⟩ (.inr zero_le_one) ?_ ?_
  · rw [restingRelay_latin]
    rfl
  · rw [restingRelay_latin]
    rfl

/-- A relay that slides. -/
noncomputable abbrev slidingRelay : RelayProblem ℝ :=
  loneRelay 2.0 1 1 0.5 (by norm_num)

/-- A configuration of the method with a direction against the diagonal. -/
noncomputable def reversedNode : Node ℝ :=
  (Node.complete .relayLatin).setReal RealSlot.step.offset (-0.5)

theorem reversedNode_validate : (ConfigTree.leaf reversedNode).validate = .ok () := by
  have husable : reversedNode.IsUsable :=
    { complete_isUsable .relayLatin with step_pos := fun h => absurd h (by decide) }
  rw [ConfigTree.validate_eq_ok, ConfigTree.defect?_eq_none, ConfigTree.admitted_false_iff]
  exact ⟨.alone (by decide), fun node hmem => List.mem_singleton.mp hmem ▸ husable⟩

theorem slidingRelay_latin : (slidingRelay.latin ⟨1000, 1e-6, -0.5, 0⟩).value =
    (loneCandidate 1 (-(-0.5 * 2.0 * 1))).ending ⟨.converged, 1, 0⟩ := by
  refine loneRelay_latin (by decide) (by norm_num) (by norm_num) ?_ (by norm_num) (by norm_num) ?_
  · norm_num [Scalar.diagonalThreshold]
  · rw [projectOnInterval_eq_max]
    norm_num

/-- A validated run with a direction against the diagonal converges without a residual where the
velocity is above the lower bound and the reaction is positive. -/
theorem slidingRelay_misled :
    slidingRelay.matrix.toMatrix.IsSymm ∧ (ConfigTree.leaf reversedNode).validate = .ok () ∧
      ∃ params, LatinParams.ofNode? reversedNode = some params ∧
        (slidingRelay.latin params).value.status = .converged ∧
        (slidingRelay.latin params).value.residual = 0 ∧
        ¬slidingRelay.SatisfiesInclusion (slidingRelay.latin params).value.toCandidate := by
  refine ⟨.ext fun i j => by rw [Subsingleton.elim i j], reversedNode_validate,
    ⟨1000, 1e-6, -0.5, 0⟩, rfl, ?_, ?_, ?_⟩
  all_goals rw [slidingRelay_latin]
  · rfl
  · rfl
  · intro hinclusion
    have habove : -(0.5 : ℝ) < -(-0.5 * 2.0 * 1) := by norm_num
    have hnonpos : (1 : ℝ) ≤ 0 := hinclusion.reaction_nonpos 0 habove
    exact zero_lt_one.not_ge hnonpos

end Complementarity.RelayProblem
