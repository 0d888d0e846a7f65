import Complementarity.Proofs.LatinStages
import Complementarity.Proofs.ExitContract

/-!
What a small error of a relay problem means, in exact arithmetic.

Subtracting the gaps from a velocity projects it, after a unit step against the reaction, onto the
box. So any reaction solves the variational inequality of its problem up to its gaps, while a solution
does so exactly. The two inequalities together bound the work between the reactions by the gaps
(`work_le_gaps`), and where the matrix is coercive, the work bounds the distance. No other property of
the matrix is used; in particular it need not be symmetric.
-/

namespace Complementarity.RelayProblem

variable {problem : RelayProblem ℝ} {z solution : Vec ℝ problem.size}

/-! ### Gaps -/

/-- The gaps of a reaction, one for each unknown. -/
noncomputable def gaps (problem : RelayProblem ℝ) (z : Vec ℝ problem.size) : Vec ℝ problem.size :=
  Vector.ofFn fun i => problem.gapAt i (z.get i) ((problem.velocity z).get i)

/-- The error is the norm of the gaps. -/
theorem errorOf_eq_norm_gaps (z : Vec ℝ problem.size) :
    problem.errorOf z (problem.velocity z) = ‖(problem.gaps z).coords‖ := by
  rw [← Vec.sqrt_normSq, Vec.normSq, errorOf]
  congr 2
  exact Vec.ext_get fun i => by rw [Vec.get_ofFn, Vec.get_map, gaps, Vec.get_ofFn]

/-- Without its gap a velocity is the projection of a unit step against the reaction. -/
theorem sub_gaps_isProjection (z : Vec ℝ problem.size) (i : Fin problem.size) :
    IsIntervalProjection (problem.upper.get i) (problem.lower.get i)
      ((problem.velocity z).get i - z.get i) ((problem.velocity z).get i - (problem.gaps z).get i) := by
  rw [gaps, Vec.get_ofFn, gapAt, sub_sub_cancel]
  exact projectOnInterval_isProjection (problem.box_nonempty i) _

/-- Velocities differ by the matrix applied to the difference of the reactions. -/
theorem coords_velocity_sub (z z' : Vec ℝ problem.size) :
    (problem.velocity z).coords - (problem.velocity z').coords =
      (Mat.mulVec problem.matrix (Vec.sub z z')).coords := by
  ext i
  have hsub : (Vec.sub z z').get = z.get - z'.get := funext (Vec.get_sub z z')
  rw [PiLp.sub_apply, Vec.coords_apply, Vec.coords_apply, Vec.coords_apply, get_velocity,
    get_velocity, Mat.get_mulVec_eq, hsub, Matrix.mulVec_sub, Pi.sub_apply]
  ring

/-- At every unknown, the work between a reaction and a solution is bounded by the gap. -/
theorem IsSolution.work_le_gap (hs : problem.IsSolution ⟨solution, problem.velocity solution⟩)
    (z : Vec ℝ problem.size) (i : Fin problem.size) :
    (z.get i - solution.get i) * ((problem.velocity z).get i - (problem.velocity solution).get i) ≤
      (z.get i - solution.get i) * (problem.gaps z).get i +
      (problem.gaps z).get i *
        ((problem.velocity z).get i - (problem.velocity solution).get i) := by
  have hproject := sub_gaps_isProjection z i
  -- each velocity is a point of the box to compare the other with
  have hz := hproject.normal _ (hs.lower_le i) (hs.le_upper i)
  have hsolution := hs.normal i _ hproject.lower_le hproject.le_upper
  have hsquare := mul_self_nonneg ((problem.gaps z).get i)
  simp only at hz hsolution
  linarith

/-- The work between a reaction and a solution is bounded by the gaps. -/
theorem IsSolution.work_le_gaps (hs : problem.IsSolution ⟨solution, problem.velocity solution⟩)
    (z : Vec ℝ problem.size) :
    Vec.dot (Vec.sub z solution) (Mat.mulVec problem.matrix (Vec.sub z solution)) ≤
      Vec.dot (Vec.sub z solution) (problem.gaps z) +
        Vec.dot (problem.gaps z) (Mat.mulVec problem.matrix (Vec.sub z solution)) := by
  have hvelocity (i : Fin problem.size) :
      (Mat.mulVec problem.matrix (Vec.sub z solution)).get i =
        (problem.velocity z).get i - (problem.velocity solution).get i := by
    rw [← Vec.coords_apply, ← coords_velocity_sub, PiLp.sub_apply, Vec.coords_apply,
      Vec.coords_apply]
  simp only [Vec.dot_eq_sum, Vec.get_sub, hvelocity]
  rw [← Finset.sum_add_distrib]
  exact Finset.sum_le_sum fun i _ => hs.work_le_gap z i

/-! ### Distances -/

/-- The matrix works against every vector at least in proportion to its square, and stretches none by
more than a bound. -/
structure IsCoercive (problem : RelayProblem ℝ) (alpha bound : ℝ) : Prop where
  alpha_pos : 0 < alpha
  le_work : ∀ x : Vec ℝ problem.size,
    alpha * Vec.normSq x ≤ Vec.dot x (Mat.mulVec problem.matrix x)
  norm_le : ∀ x : Vec ℝ problem.size,
    Vec.norm (Mat.mulVec problem.matrix x) ≤ bound * Vec.norm x

variable {alpha bound : ℝ}

/-- If there is an unknown at all, the bound cannot be negative. -/
theorem IsCoercive.bound_nonneg (h : problem.IsCoercive alpha bound) (hsize : 0 < problem.size) :
    0 ≤ bound := by
  let ones : Vec ℝ problem.size := Vector.replicate problem.size 1
  have hlength : 0 < Vec.norm ones := by
    rw [Vec.norm_eq, norm_pos_iff]
    intro hzero
    have hentry := congrArg (fun x => x ⟨0, hsize⟩) hzero
    rw [Vec.coords_apply, Vec.get_replicate] at hentry
    exact one_ne_zero hentry
  have hstretch : 0 ≤ bound * Vec.norm ones := by
    refine le_trans ?_ (h.norm_le ones)
    rw [Vec.norm_eq]
    exact norm_nonneg _
  exact nonneg_of_mul_nonneg_left hstretch hlength

/-- The error bounds the distance to a solution. -/
theorem IsCoercive.distance_le (h : problem.IsCoercive alpha bound)
    (hs : problem.errorOf solution (problem.velocity solution) = 0) (z : Vec ℝ problem.size) :
    Vec.norm (Vec.sub z solution) ≤
      (1 + bound) / alpha * problem.errorOf z (problem.velocity z) := by
  by_cases heq : z = solution
  · -- the bound may be negative here, but then the error is zero as well
    rw [heq, hs, mul_zero, Vec.norm_eq, Vec.coords_sub, sub_self, norm_zero]
  have hdistance : 0 < ‖(Vec.sub z solution).coords‖ := by
    rw [Vec.coords_sub, norm_sub_pos_iff, Vec.coords_injective.ne_iff]
    exact heq
  have hwork := ((errorOf_eq_zero_iff solution).mp hs).work_le_gaps z
  have hcoercive := h.le_work (Vec.sub z solution)
  have hstretch := h.norm_le (Vec.sub z solution)
  simp only [Vec.dot_eq_inner, Vec.normSq_eq, Vec.norm_eq] at hwork hcoercive hstretch
  rw [errorOf_eq_norm_gaps, Vec.norm_eq]
  set d := (Vec.sub z solution).coords
  set e := (problem.gaps z).coords
  set g := (Mat.mulVec problem.matrix (Vec.sub z solution)).coords
  have hproduct : alpha * ‖d‖ * ‖d‖ ≤ (1 + bound) * ‖e‖ * ‖d‖ := by
    calc alpha * ‖d‖ * ‖d‖ = alpha * ‖d‖ ^ 2 := by ring
      _ ≤ inner ℝ d e + inner ℝ e g := hcoercive.trans hwork
      _ ≤ ‖d‖ * ‖e‖ + ‖e‖ * ‖g‖ :=
          add_le_add (real_inner_le_norm d e) (real_inner_le_norm e g)
      _ ≤ ‖d‖ * ‖e‖ + ‖e‖ * (bound * ‖d‖) := by gcongr
      _ = (1 + bound) * ‖e‖ * ‖d‖ := by ring
  rw [div_mul_eq_mul_div, le_div_iff₀' h.alpha_pos]
  exact le_of_mul_le_mul_right hproduct hdistance

/-- There is at most one solution. -/
theorem IsCoercive.solution_unique (h : problem.IsCoercive alpha bound)
    (hz : problem.errorOf z (problem.velocity z) = 0)
    (hs : problem.errorOf solution (problem.velocity solution) = 0) : z = solution := by
  have hdistance := h.distance_le hs z
  rw [hz, mul_zero, Vec.norm_eq, Vec.coords_sub] at hdistance
  exact Vec.coords_injective (sub_eq_zero.mp (norm_le_zero_iff.mp hdistance))

/-! ### Runs -/

variable {params : RelaySweepParams ℝ}

theorem errorScale_eq (problem : RelayProblem ℝ) :
    problem.errorScale = max 1 (Vec.norm problem.offset) := by
  rw [errorScale, Scalar.greater_eq_max, max_comm]

theorem errorScale_pos (problem : RelayProblem ℝ) : 0 < problem.errorScale := by
  rw [errorScale_eq]
  exact zero_lt_one.trans_le (le_max_left _ _)

/-- A run that converged has an error within its tolerance, times the scale of the problem. -/
theorem errorOf_le_of_converged (hstatus : (problem.gaussSeidel params).value.status = .converged)
    (hpos : 0 < (problem.gaussSeidel params).value.iterations) :
    problem.errorOf (problem.gaussSeidel params).value.reaction
        (problem.velocity (problem.gaussSeidel params).value.reaction) ≤
      params.tolerance * max 1 (Vec.norm problem.offset) := by
  have herror := (problem.gaussSeidel_keeps params).error_le hstatus hpos
  rw [relativeError, div_le_iff₀ problem.errorScale_pos, errorScale_eq] at herror
  exact herror

/-- A run that has made a sweep reports the error of the candidate it returns. -/
theorem residual_gaussSeidel (hpos : 0 < (problem.gaussSeidel params).value.iterations) :
    (problem.gaussSeidel params).value.residual =
        problem.relativeError (problem.gaussSeidel params).value.reaction ∧
      (problem.gaussSeidel params).value.velocity =
        problem.velocity (problem.gaussSeidel params).value.reaction := by
  rcases problem.gaussSeidel_cases params with heq | ⟨ended, hfinal, heq⟩
  · rw [heq] at hpos
    exact absurd hpos (Nat.lt_irrefl 0)
  · rw [heq] at hpos ⊢
    have hmeasured := (Progress.ends_of_final hfinal).reached.establishes
      (fun error state => error = .measured (problem.relativeError state.reaction) ∧
        state.velocity = problem.velocity state.reaction)
      (fun progress outcome hok => by cases hok; exact ⟨rfl, rfl⟩) hpos
    refine ⟨?_, hmeasured.2⟩
    change ended.error.reported = _
    rw [hmeasured.1]
    rfl

/-- A run that has made a sweep and reports no error has found a solution. -/
theorem errorOf_eq_zero_of_residual (hpos : 0 < (problem.gaussSeidel params).value.iterations)
    (hresidual : (problem.gaussSeidel params).value.residual = 0) :
    problem.errorOf (problem.gaussSeidel params).value.reaction
      (problem.velocity (problem.gaussSeidel params).value.reaction) = 0 := by
  rw [(residual_gaussSeidel hpos).1, relativeError, div_eq_zero_iff] at hresidual
  exact hresidual.resolve_right problem.errorScale_pos.ne'

/-- What errors say about distances. The factor between the two is positive unless there are no
unknowns; then any number bounds the matrix, and its sign has to be asked for. -/
structure ErrorBoundsDistance (problem : RelayProblem ℝ) (alpha bound : ℝ) : Prop where
  distance_le : ∀ z solution : Vec ℝ problem.size,
    problem.errorOf solution (problem.velocity solution) = 0 →
      Vec.norm (Vec.sub z solution) ≤
        (1 + bound) / alpha * problem.errorOf z (problem.velocity z)
  run_distance_le : ∀ (params : RelaySweepParams ℝ) (solution : Vec ℝ problem.size),
    (problem.gaussSeidel params).value.status = .converged →
      0 < (problem.gaussSeidel params).value.iterations →
      problem.errorOf solution (problem.velocity solution) = 0 →
      (problem.size = 0 → 0 ≤ bound) →
        Vec.norm (Vec.sub (problem.gaussSeidel params).value.reaction solution) ≤
          (1 + bound) / alpha * params.tolerance * max 1 (Vec.norm problem.offset)
  solution_unique : ∀ z solution : Vec ℝ problem.size,
    problem.errorOf z (problem.velocity z) = 0 →
      problem.errorOf solution (problem.velocity solution) = 0 → z = solution
  runs_agree : ∀ params params' : RelaySweepParams ℝ,
    0 < (problem.gaussSeidel params).value.iterations →
      (problem.gaussSeidel params).value.residual = 0 →
      0 < (problem.gaussSeidel params').value.iterations →
      (problem.gaussSeidel params').value.residual = 0 →
        (problem.gaussSeidel params).value.toCandidate =
          (problem.gaussSeidel params').value.toCandidate

/-- A coercive matrix turns errors into distances: to every solution, for every reaction and for every
run. -/
theorem error_bounds_distance (problem : RelayProblem ℝ) {alpha bound : ℝ}
    (h : problem.IsCoercive alpha bound) : problem.ErrorBoundsDistance alpha bound where
  distance_le _ _ hs := h.distance_le hs _
  run_distance_le params solution hstatus hpos hs hbound := by
    have hfactor : 0 ≤ (1 + bound) / alpha := by
      rcases Nat.eq_zero_or_pos problem.size with hsize | hsize
      · exact div_nonneg (by linarith [hbound hsize]) h.alpha_pos.le
      · exact div_nonneg (by linarith [h.bound_nonneg hsize]) h.alpha_pos.le
    rw [mul_assoc]
    exact (h.distance_le hs _).trans
      (mul_le_mul_of_nonneg_left (errorOf_le_of_converged hstatus hpos) hfactor)
  solution_unique _ _ hz hs := h.solution_unique hz hs
  runs_agree params params' hpos hresidual hpos' hresidual' := by
    have hreaction := h.solution_unique (errorOf_eq_zero_of_residual hpos hresidual)
      (errorOf_eq_zero_of_residual hpos' hresidual')
    refine Candidate.ext_get (fun i => ?_) fun i => by rw [hreaction]
    rw [(residual_gaussSeidel hpos).2, (residual_gaussSeidel hpos').2, hreaction]

/-- A matrix that is not symmetric. It turns every vector and stretches it by the same factor. -/
noncomputable def turningMatrix : Mat ℝ 2 2 :=
  Mat.ofFn fun i j => if i.val < j.val then -1 else 1

/-- An offset with which the box stops both relays where the reaction is one. -/
noncomputable def opposedOffset : Vec ℝ 2 :=
  Vec.add (Mat.mulVec turningMatrix (Vector.replicate 2 1)) (Vector.replicate 2 1)

/-- Two relays that act on each other in opposite ways. -/
noncomputable def opposedRelays : RelayProblem ℝ where
  size := 2
  matrix := turningMatrix
  offset := opposedOffset
  upper := Vector.replicate 2 1
  lower := Vector.replicate 2 1
  box_nonempty i := by
    fin_cases i <;> exact neg_le_self zero_le_one

theorem turningMatrix_mulVec (x : Vec ℝ 2) :
    Mat.mulVec turningMatrix x = #v[x.get 0 - x.get 1, x.get 0 + x.get 1] := by
  refine Vec.ext_get fun i => ?_
  rw [Mat.get_mulVec, Fin.sum_univ_two]
  fin_cases i
  · change 1 * x.get 0 + -1 * x.get 1 = x.get 0 - x.get 1
    ring
  · change 1 * x.get 0 + 1 * x.get 1 = x.get 0 + x.get 1
    ring

theorem normSq_two (x : Vec ℝ 2) : Vec.normSq x = x.get 0 ^ 2 + x.get 1 ^ 2 := by
  rw [Vec.normSq, Vec.sum_eq, Fin.sum_univ_two, Vec.get_map, Vec.get_map, sq, sq]

theorem le_work_turningMatrix (x : Vec ℝ 2) :
    1 * Vec.normSq x ≤ Vec.dot x (Mat.mulVec turningMatrix x) := by
  rw [turningMatrix_mulVec, normSq_two, Vec.dot_eq_sum, Fin.sum_univ_two]
  change _ ≤ x.get 0 * (x.get 0 - x.get 1) + x.get 1 * (x.get 0 + x.get 1)
  linarith

theorem norm_turningMatrix_le (x : Vec ℝ 2) :
    Vec.norm (Mat.mulVec turningMatrix x) ≤ 2 * Vec.norm x := by
  have hstretch : Vec.normSq (Mat.mulVec turningMatrix x) = 2 * Vec.normSq x := by
    rw [turningMatrix_mulVec, normSq_two, normSq_two]
    change (x.get 0 - x.get 1) ^ 2 + (x.get 0 + x.get 1) ^ 2 = _
    ring
  rw [Vec.normSq_eq, Vec.normSq_eq] at hstretch
  rw [Vec.norm_eq, Vec.norm_eq]
  have hsquare : ‖(Mat.mulVec turningMatrix x).coords‖ ^ 2 ≤ (2 * ‖x.coords‖) ^ 2 := by
    linarith [sq_nonneg ‖x.coords‖]
  exact (abs_le_of_sq_le_sq' hsquare (by positivity)).2

theorem opposedRelays_isCoercive : opposedRelays.IsCoercive 1 2 where
  alpha_pos := one_pos
  le_work := le_work_turningMatrix
  norm_le := norm_turningMatrix_le

theorem turningMatrix_gemv :
    Mat.gemv 1 turningMatrix (Vector.replicate 2 1) 1 (Vec.scale (-1) opposedOffset) =
      Vector.replicate 2 (-1) := by
  refine Vec.ext_get fun i => ?_
  rw [Mat.get_gemv, Vec.get_scale, opposedOffset, Vec.get_add, Mat.get_mulVec, Vec.get_replicate,
    Vec.get_replicate]
  ring

theorem opposedRelays_isSolution : opposedRelays.IsSolution
    ⟨Vector.replicate 2 1, opposedRelays.velocity (Vector.replicate 2 1)⟩ := by
  have hvelocity : opposedRelays.velocity (Vector.replicate 2 1) = Vector.replicate 2 (-1) :=
    turningMatrix_gemv
  rw [hvelocity]
  refine ⟨hvelocity.symm, fun i => ?_, fun i => ?_, fun i v hlower _ => ?_⟩
  · fin_cases i <;> exact le_rfl
  · fin_cases i <;> exact neg_le_self zero_le_one
  · have hle : -1 ≤ v := by
      fin_cases i <;> exact hlower
    have hwork : 0 ≤ (1 : ℝ) * (v - -1) := mul_nonneg zero_le_one (sub_nonneg.mpr hle)
    fin_cases i <;> exact hwork

theorem opposedRelays_diagonal (i : Fin opposedRelays.size) :
    Scalar.diagonalThreshold < opposedRelays.matrix.diagonal i := by
  have hone (i : Fin 2) : Mat.diagonal turningMatrix i = 1 := by
    fin_cases i <;> rfl
  refine lt_of_lt_of_eq ?_ (hone i).symm
  norm_num [Scalar.diagonalThreshold]

theorem opposedRelays_flatIndex : opposedRelays.flatIndex? = none :=
  flatIndex?_eq_none fun i => (opposedRelays_diagonal i).not_ge

/-- A single sweep, with just the error of its reaction as the tolerance. -/
noncomputable def oneSweep : RelaySweepParams ℝ where
  iterationCap := 1
  tolerance := opposedRelays.relativeError (opposedRelays.sweep 1 (Vec.zero _))
  relaxation := 1
  verbosity := 0

theorem opposedRelays_sweeps :
    Progress.final (Residual.Exceeds oneSweep.tolerance)
        (opposedRelays.sweepStep oneSweep opposedRelays.errorScale) oneSweep.iterationCap
        ⟨0, .unmeasured, Candidate.zero _⟩ =
      .ok (Progress.next ⟨0, .unmeasured, Candidate.zero _⟩
        (.measured oneSweep.tolerance, ⟨opposedRelays.sweep 1 (Vec.zero _),
          opposedRelays.velocity (opposedRelays.sweep 1 (Vec.zero _))⟩)) :=
  Progress.final_eq_next Nat.one_pos (.inl rfl) rfl (lt_irrefl oneSweep.tolerance)

theorem opposedRelays_close :
    opposedRelays.IsCoercive 1 2 ∧
      (opposedRelays.gaussSeidel oneSweep).value.status = .converged ∧
      (opposedRelays.gaussSeidel oneSweep).value.iterations = 1 ∧
      Vec.norm (Vec.sub (opposedRelays.gaussSeidel oneSweep).value.reaction
          (Vector.replicate 2 1)) ≤
        (1 + 2) / 1 * oneSweep.tolerance * max 1 (Vec.norm opposedRelays.offset) := by
  have hbounds := error_bounds_distance opposedRelays opposedRelays_isCoercive
  obtain ⟨ended, hfinal, hrun⟩ := exists_gaussSeidel_eq _ opposedRelays_flatIndex oneSweep
  obtain rfl := Except.ok.inj (opposedRelays_sweeps.symm.trans hfinal)
  have hstatus : (opposedRelays.gaussSeidel oneSweep).value.status = .converged := by
    have hatMost : (Residual.measured oneSweep.tolerance).AtMost oneSweep.tolerance := le_rfl
    rw [hrun]
    exact Residual.status_eq_converged.mpr hatMost
  have hcount : (opposedRelays.gaussSeidel oneSweep).value.iterations = 1 := by
    rw [hrun]
    rfl
  have hsolution := (errorOf_eq_zero_iff _).mpr opposedRelays_isSolution
  exact ⟨opposedRelays_isCoercive, hstatus, hcount,
    hbounds.run_distance_le oneSweep (Vector.replicate 2 1) hstatus (hcount ▸ Nat.one_pos)
      hsolution nofun⟩

end Complementarity.RelayProblem
