import Complementarity.Proofs.LatinStages
import Complementarity.Proofs.Loops

/-!
The LATIN method never diverges, in exact arithmetic.

One iteration is a map on the states of the method, `latinAdvance`, and a run goes through the
iterates of that map (`latin_eq`). The map does not increase the distance of the pushed vectors and
leaves every solution where it is. So the distance to a solution never increases, and as the vectors
of both stages lie within the distance from which the iteration starts, they all stay bounded.
-/

namespace Complementarity

/-! ### Bounds on a candidate -/

section Bounds

variable {n : Nat} {k : Vec ℝ n}

/-- No entry is larger than the bound. -/
def Candidate.Within (bound : ℝ) (c : Candidate ℝ n) : Prop :=
  ∀ i, |c.velocity.get i| ≤ bound ∧ |c.reaction.get i| ≤ bound

theorem abs_le_of_sq_sub_le {x y r : ℝ} (h : (x - y) ^ 2 ≤ r) : |x| ≤ |y| + √r := by
  have hsub := abs_sub_abs_le_abs_sub x y
  have hsqrt := Real.abs_le_sqrt h
  linarith

/-- The candidates around a given one have a common bound. -/
theorem exists_within (hk : ∀ i, 0 < k.get i) (d : Candidate ℝ n) (radius : ℝ) :
    ∃ bound, ∀ c, energy k c d ≤ radius → c.Within bound := by
  obtain ⟨w, hw⟩ := Finite.exists_le fun i => |d.velocity.get i| + √(radius * k.get i)
  obtain ⟨z, hz⟩ := Finite.exists_le fun i => |d.reaction.get i| + √(radius / k.get i)
  refine ⟨max w z, fun c hc i => ?_⟩
  obtain ⟨hvelocity, hreaction⟩ := sq_sub_le_of_energy_le hk hc i
  exact ⟨(abs_le_of_sq_sub_le hvelocity).trans ((hw i).trans (le_max_left w z)),
    (abs_le_of_sq_sub_le hreaction).trans ((hz i).trans (le_max_right w z))⟩

end Bounds

namespace RelayProblem

variable {problem : RelayProblem ℝ} {k : Vec ℝ problem.size}
  {solve : Vec ℝ problem.size → Vec ℝ problem.size} {s : Candidate ℝ problem.size}

/-! ### One iteration -/

/-- The state after one iteration. -/
noncomputable def latinAdvance (problem : RelayProblem ℝ) (k : Vec ℝ problem.size)
    (solve : Vec ℝ problem.size → Vec ℝ problem.size) (state : LatinState ℝ problem.size) :
    LatinState ℝ problem.size where
  linear := problem.linearStage k solve state.localStage
  localStage := problem.localStage k (problem.linearStage k solve state.localStage)

/-- One iteration brings no two states further apart. -/
theorem IsLatin.pushedDistSq_latinAdvance (h : problem.IsLatin k solve)
    (a b : LatinState ℝ problem.size) :
    pushedDistSq k (problem.latinAdvance k solve a).localStage
      (problem.latinAdvance k solve b).localStage ≤ pushedDistSq k a.localStage b.localStage :=
  (pushedDistSq_localStage h.direction_pos _ _).trans (h.pulledDistSq_linearStage _ _)

theorem IsLatin.latinAdvance_solution (h : problem.IsLatin k solve) (hs : problem.IsSolution s)
    (linear : Candidate ℝ problem.size) : problem.latinAdvance k solve ⟨linear, s⟩ = ⟨s, s⟩ := by
  rw [latinAdvance, hs.linearStage_eq h, hs.localStage_eq h.direction_pos]

/-- One iteration brings no state further away from a solution. -/
theorem IsLatin.pushedDistSq_solution (h : problem.IsLatin k solve) (hs : problem.IsSolution s)
    (state : LatinState ℝ problem.size) :
    pushedDistSq k (problem.latinAdvance k solve state).localStage s ≤
      pushedDistSq k state.localStage s := by
  have hstep := h.pushedDistSq_latinAdvance state ⟨s, s⟩
  rw [h.latinAdvance_solution hs] at hstep
  exact hstep

/-- Both stages of an iteration stay within the distance it starts from. -/
theorem IsLatin.energy_latinAdvance (h : problem.IsLatin k solve) (hs : problem.IsSolution s)
    (state : LatinState ℝ problem.size) :
    energy k (problem.latinAdvance k solve state).linear s ≤ pushedDistSq k state.localStage s ∧
      energy k (problem.latinAdvance k solve state).localStage s ≤
        pushedDistSq k state.localStage s := by
  have hlinear := h.energy_linearStage state.localStage s
  have hpulled := h.pulledDistSq_linearStage state.localStage s
  rw [hs.linearStage_eq h] at hlinear hpulled
  have hlocal := energy_localStage h.direction_pos
    (problem.linearStage k solve state.localStage) s
  rw [hs.localStage_eq h.direction_pos] at hlocal
  exact ⟨hlinear, hlocal.trans hpulled⟩

/-! ### All iterations -/

/-- The distance to a solution never increases. -/
theorem IsLatin.antitone_pushedDistSq (h : problem.IsLatin k solve) (hs : problem.IsSolution s)
    (start : LatinState ℝ problem.size) :
    Antitone fun m => pushedDistSq k ((problem.latinAdvance k solve)^[m] start).localStage s := by
  refine antitone_nat_of_succ_le fun m => ?_
  rw [Function.iterate_succ_apply']
  exact h.pushedDistSq_solution hs _

/-- Where there is a solution, the vectors of both stages stay bounded. -/
theorem IsLatin.exists_within_iterate (h : problem.IsLatin k solve) (hs : problem.IsSolution s)
    (start : LatinState ℝ problem.size) :
    ∃ bound, ∀ m, ((problem.latinAdvance k solve)^[m] start).linear.Within bound ∧
      ((problem.latinAdvance k solve)^[m] start).localStage.Within bound := by
  -- the start itself may lie further out than the distance it starts the iterations with
  let radius := max (pushedDistSq k start.localStage s)
    (max (energy k start.linear s) (energy k start.localStage s))
  obtain ⟨bound, hbound⟩ := exists_within h.direction_pos s radius
  refine ⟨bound, fun m => ?_⟩
  cases m with
  | zero =>
    have hlinear : energy k start.linear s ≤ radius := (le_max_left _ _).trans (le_max_right _ _)
    have hlocal : energy k start.localStage s ≤ radius :=
      (le_max_right _ _).trans (le_max_right _ _)
    exact ⟨hbound _ hlinear, hbound _ hlocal⟩
  | succ m =>
    have hdist : pushedDistSq k ((problem.latinAdvance k solve)^[m] start).localStage s ≤ radius :=
      (h.antitone_pushedDistSq hs start (Nat.zero_le m)).trans (le_max_left _ _)
    obtain ⟨hlinear, hlocal⟩ :=
      h.energy_latinAdvance hs ((problem.latinAdvance k solve)^[m] start)
    rw [Function.iterate_succ_apply']
    exact ⟨hbound _ (hlinear.trans hdist), hbound _ (hlocal.trans hdist)⟩

/-! ### Runs -/

/-- Where a run starts. -/
noncomputable def latinStart (n : Nat) : LatinState ℝ n :=
  ⟨Candidate.zero n, Candidate.zero n⟩

variable {due : ℝ → Prop} {params : LatinParams ℝ} {error : ℝ}
  {start : LatinState ℝ problem.size} {progress : Progress ℝ (LatinState ℝ problem.size)}

/-- The loop goes through the iterates. -/
theorem state_of_reaches
    (reached : Progress.Reaches due (problem.latinStep params k solve) ⟨0, error, start⟩ progress) :
    progress.state = (problem.latinAdvance k solve)^[progress.iterations] start := by
  refine reached.preserves
    (fun progress => progress.state = (problem.latinAdvance k solve)^[progress.iterations] start)
    rfl fun progress outcome hstate _ hok => ?_
  cases hok
  change _ = (problem.latinAdvance k solve)^[progress.iterations + 1] start
  rw [Function.iterate_succ_apply', ← hstate]
  rfl

/-- A run returns the linear stage of the iterate it ends with. -/
theorem latinWith_eq (problem : RelayProblem ℝ) (params : LatinParams ℝ)
    (k : Vec ℝ problem.size) (solve : Vec ℝ problem.size → Vec ℝ problem.size) :
    (problem.latinWith params k solve).value.iterations ≤ params.iterationCap ∧
    (problem.latinWith params k solve).value.toCandidate =
      ((problem.latinAdvance k solve)^[(problem.latinWith params k solve).value.iterations]
        (latinStart problem.size)).linear := by
  have hends : Progress.Ends (params.tolerance < ·) (problem.latinStep params k solve)
      params.iterationCap ⟨0, 1, latinStart problem.size⟩ _ :=
    Progress.ends_of_final (Progress.final_eq_settled _ _ _)
  have hcap := hends.iterations_le
  rw [Nat.zero_add] at hcap
  exact ⟨hcap, congrArg LatinState.linear (state_of_reaches hends.reached)⟩

theorem vanishingIndex?_eq_none {n : Nat} {k : Vec ℝ n}
    (h : ∀ i, Scalar.diagonalThreshold < k.get i) : vanishingIndex? k = none := by
  refine List.find?_eq_none.mpr fun i _ hvanishes => ?_
  rw [decide_eq_true_eq, Scalar.abs_eq] at hvanishes
  exact ((h i).trans_le (le_abs_self _)).not_ge hvanishes

/-- A run with a usable direction and a factor goes through the iterates. -/
theorem latin_eq (hdirection : ∀ i, Scalar.diagonalThreshold <
      (problem.searchDirection params.scale).get i)
    {factor : Triangle ℝ problem.size}
    (hfactor : Triangle.factor? (problem.latinMatrix (problem.searchDirection params.scale)) =
      some factor) :
    problem.latin params =
      problem.latinWith params (problem.searchDirection params.scale) factor.solve := by
  rw [latin, vanishingIndex?_eq_none hdirection, hfactor]

/-- What the iterations along a direction do when they solve with `solve`, and that runs consist of
them. -/
structure NeverDiverges (problem : RelayProblem ℝ) (scale : ℝ) (k : Vec ℝ problem.size)
    (solve : Vec ℝ problem.size → Vec ℝ problem.size) : Prop where
  nonexpansive (a b : LatinState ℝ problem.size) :
    pushedDistSq k (problem.latinAdvance k solve a).localStage
      (problem.latinAdvance k solve b).localStage ≤ pushedDistSq k a.localStage b.localStage
  fixes_solution (s linear : Candidate ℝ problem.size) :
    problem.IsSolution s → problem.latinAdvance k solve ⟨linear, s⟩ = ⟨s, s⟩
  antitone (s : Candidate ℝ problem.size) (start : LatinState ℝ problem.size) :
    problem.IsSolution s → Antitone fun m =>
      pushedDistSq k ((problem.latinAdvance k solve)^[m] start).localStage s
  bounded (start : LatinState ℝ problem.size) : (∃ s, problem.IsSolution s) →
    ∃ bound, ∀ m, ((problem.latinAdvance k solve)^[m] start).linear.Within bound ∧
      ((problem.latinAdvance k solve)^[m] start).localStage.Within bound
  iterations_le (params : LatinParams ℝ) : params.scale = scale →
    (problem.latin params).value.iterations ≤ params.iterationCap
  returns_iterate (params : LatinParams ℝ) : params.scale = scale →
    (problem.latin params).value.toCandidate =
      ((problem.latinAdvance k solve)^[(problem.latin params).value.iterations]
        (latinStart problem.size)).linear

/-- With a semidefinite matrix and a positive search direction there is a factor to solve with, and
no run that uses it diverges. -/
theorem latin_never_diverges (problem : RelayProblem ℝ) (scale : ℝ)
    (hmatrix : problem.matrix.toMatrix.PosSemidef)
    (hdirection : ∀ i, Scalar.diagonalThreshold < (problem.searchDirection scale).get i) :
    ∃ factor, Triangle.factor? (problem.latinMatrix (problem.searchDirection scale)) =
        some factor ∧
      problem.NeverDiverges scale (problem.searchDirection scale) factor.solve := by
  obtain ⟨factor, hfactor, h⟩ := exists_factor hmatrix fun i =>
    Scalar.diagonalThreshold_pos.trans (hdirection i)
  refine ⟨factor, hfactor,
    { nonexpansive := h.pushedDistSq_latinAdvance
      fixes_solution := fun s linear hs => h.latinAdvance_solution hs linear
      antitone := fun s start hs => h.antitone_pushedDistSq hs start
      bounded := fun start ⟨s, hs⟩ => h.exists_within_iterate hs start
      iterations_le := ?_
      returns_iterate := ?_ }⟩
  · rintro params rfl
    rw [latin_eq hdirection hfactor]
    exact (problem.latinWith_eq params _ _).1
  · rintro params rfl
    rw [latin_eq hdirection hfactor]
    exact (problem.latinWith_eq params _ _).2

/-- Two relays that see only the sum of the reactions. The matrix is singular. -/
noncomputable def coupledRelays : RelayProblem ℝ where
  size := 2
  matrix := Mat.ofFn fun _ _ => 1
  offset := #v[-3, -3]
  upper := #v[1, 1]
  lower := #v[1, 1]
  box_nonempty i := by
    fin_cases i <;> exact neg_le_self zero_le_one

theorem coupledRelays_posSemidef : coupledRelays.matrix.toMatrix.PosSemidef := by
  have hmatrix : coupledRelays.matrix.toMatrix = Matrix.vecMulVec 1 (star 1) := by
    ext i j
    rw [Matrix.vecMulVec_apply, star_one, Pi.one_apply, Pi.one_apply, mul_one]
    exact Mat.entry_ofFn _ i j
  rw [hmatrix]
  exact Matrix.posSemidef_vecMulVec_self_star 1

theorem coupledRelays_direction (i : Fin 2) :
    Scalar.diagonalThreshold < (coupledRelays.searchDirection 1).get i := by
  have hone : (coupledRelays.searchDirection 1).get i = 1 * 1 := by
    fin_cases i <;> rfl
  rw [hone]
  norm_num [Scalar.diagonalThreshold]

theorem coupledRelays_velocity :
    Mat.gemv 1 (Mat.ofFn fun _ _ => 1 : Mat ℝ 2 2) #v[-1, -1] 1 (Vec.scale (-1) #v[-3, -3]) =
      #v[1, 1] := by
  refine Vec.ext_get fun i => ?_
  rw [Mat.get_gemv, Fin.sum_univ_two, Mat.entry_ofFn, Mat.entry_ofFn, Vec.get_scale]
  fin_cases i <;> norm_num [Vector.get]

theorem coupledRelays_isSolution : coupledRelays.IsSolution ⟨#v[-1, -1], #v[1, 1]⟩ where
  velocity_eq := coupledRelays_velocity.symm
  lower_le i := by
    fin_cases i <;> exact neg_le_self zero_le_one
  le_upper i := by
    fin_cases i <;> exact le_rfl
  normal i v _ hupper := by
    have hle : v ≤ 1 := by
      fin_cases i <;> exact hupper
    have hwork : 0 ≤ (-1 : ℝ) * (v - 1) :=
      mul_nonneg_of_nonpos_of_nonpos (neg_nonpos.mpr zero_le_one) (sub_nonpos.mpr hle)
    fin_cases i <;> exact hwork

/-- Runs of any length on the coupled relays return candidates within a common bound. -/
theorem coupledRelays_bounded : ∃ bound, ∀ params : LatinParams ℝ, params.scale = 1 →
    (coupledRelays.latin params).value.toCandidate.Within bound := by
  obtain ⟨_, -, h⟩ :=
    latin_never_diverges coupledRelays 1 coupledRelays_posSemidef coupledRelays_direction
  obtain ⟨bound, hbound⟩ := h.bounded (latinStart 2) ⟨_, coupledRelays_isSolution⟩
  refine ⟨bound, fun params hscale => ?_⟩
  rw [h.returns_iterate params hscale]
  exact (hbound _).1

end RelayProblem

end Complementarity
