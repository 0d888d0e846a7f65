import Mathlib
import Complementarity.Proofs.LatinRuns
import Complementarity.Proofs.StoppingCuts

/-!
The equation `M z - w = q` of a relay problem, in exact arithmetic.

Projected Gauss-Seidel evaluates the velocity after every sweep. The linear stage of the LATIN method
computes it along with the reaction, and since a Cholesky factor knows one triangle of a matrix only,
the matrix it works with is the symmetric one with the upper triangle of `M` (`latin_mirrored`). Both
methods hand out whatever they start from when they make no iteration: zero vectors, which satisfy
the equation only for `q = 0`. `balances_at_exit` says so in both directions.
-/

namespace Complementarity

/-! ### The matrix that the LATIN method sees -/

namespace Mat

variable {n : Nat}

/-- The symmetric matrix with the upper triangle of the given one. -/
def mirrored {R : Type} (a : Mat R n n) : Mat R n n :=
  ofFn fun i j => a.entry (min i j) (max i j)

@[simp] theorem entry_mirrored {R : Type} (a : Mat R n n) (i j : Fin n) :
    a.mirrored.entry i j = a.entry (min i j) (max i j) :=
  entry_ofFn _ i j

theorem diagonal_mirrored {R : Type} (a : Mat R n n) (i : Fin n) :
    a.mirrored.diagonal i = a.diagonal i := by
  have hentry : a.mirrored.entry i i = a.entry i i := by rw [entry_mirrored, min_self, max_self]
  exact hentry

theorem mirrored_isHermitian (a : Mat ℝ n n) : a.mirrored.toMatrix.IsHermitian :=
  Matrix.IsHermitian.ext fun i j => by
    rw [star_trivial, toMatrix_apply, toMatrix_apply, entry_mirrored, entry_mirrored, min_comm,
      max_comm]

/-- A symmetric matrix is its own mirror image. -/
theorem mirrored_eq_self {a : Mat ℝ n n} (h : a.toMatrix.IsHermitian) : a.mirrored = a := by
  refine Vec.ext_get fun i => Vec.ext_get fun j => ?_
  change a.mirrored.entry i j = a.entry i j
  rw [entry_mirrored]
  rcases le_total i j with hle | hle
  · rw [min_eq_left hle, max_eq_right hle]
  · rw [min_eq_right hle, max_eq_left hle, entry_symm h]

end Mat

namespace RelayProblem

/-- The problem with the upper triangle of its matrix mirrored. -/
abbrev mirrored {R : Type} [Scalar R] (problem : RelayProblem R) : RelayProblem R :=
  { problem with matrix := problem.matrix.mirrored }

theorem searchDirection_mirrored (problem : RelayProblem ℝ) (scale : ℝ) :
    problem.mirrored.searchDirection scale = problem.searchDirection scale := by
  refine Vec.ext_get fun i => ?_
  rw [searchDirection, searchDirection, Vec.get_ofFn, Vec.get_ofFn]
  exact congrArg (scale * ·) (problem.matrix.diagonal_mirrored i)

/-- The factorisation reads the lower triangle of a transposed matrix. -/
theorem factor?_mirrored (problem : RelayProblem ℝ) (k : Vec ℝ problem.size) :
    Triangle.factor? (problem.mirrored.latinMatrix k) = Triangle.factor? (problem.latinMatrix k) := by
  refine Triangle.factor?_congr fun i j hji => ?_
  rw [latinMatrix, latinMatrix, Mat.entry_ofFn, Mat.entry_ofFn]
  by_cases hij : i = j
  · rw [if_pos hij, if_pos hij]
    exact congrArg (· + k.get i) (problem.matrix.diagonal_mirrored i)
  · rw [if_neg hij, if_neg hij]
    change problem.matrix.mirrored.entry j i = problem.matrix.entry j i
    rw [Mat.entry_mirrored, min_eq_left hji, max_eq_right hji]

/-- The LATIN method never sees the entries below the diagonal. -/
theorem latin_mirrored (problem : RelayProblem ℝ) (params : LatinParams ℝ) :
    problem.mirrored.latin params = problem.latin params := by
  rw [latin, latin, searchDirection_mirrored, factor?_mirrored]
  cases vanishingIndex? (problem.searchDirection params.scale) with
  | some i => rfl
  | none =>
    cases Triangle.factor? (problem.latinMatrix (problem.searchDirection params.scale)) with
    | none => rfl
    | some factor => rfl

/-! ### Pairs that satisfy the equation -/

/-- The vectors satisfy `M z - w = q`. -/
def Balances (problem : RelayProblem ℝ) (c : Candidate ℝ problem.size) : Prop :=
  Vec.sub (Mat.mulVec problem.matrix c.reaction) c.velocity = problem.offset

variable {problem : RelayProblem ℝ}

theorem balances_iff {c : Candidate ℝ problem.size} :
    problem.Balances c ↔ c.velocity = problem.velocity c.reaction := by
  have hentry (i : Fin problem.size) :
      (Vec.sub (Mat.mulVec problem.matrix c.reaction) c.velocity).get i = problem.offset.get i ↔
        c.velocity.get i = (problem.velocity c.reaction).get i := by
    rw [Vec.get_sub, get_velocity, Mat.get_mulVec_eq, sub_eq_iff_eq_add, eq_sub_iff_add_eq, eq_comm,
      add_comm]
  constructor
  · intro h
    exact Vec.ext_get fun i => (hentry i).mp (congrArg (fun x => x.get i) h)
  · intro h
    exact Vec.ext_get fun i => (hentry i).mpr (congrArg (fun x => x.get i) h)

/-- Zero vectors satisfy the equation of a problem without an offset only. -/
theorem balances_zero : problem.Balances (Candidate.zero _) ↔ problem.offset = Vec.zero _ := by
  have hzero : Vec.sub (Mat.mulVec problem.matrix (Vec.zero _)) (Vec.zero _) =
      (Vec.zero problem.size : Vec ℝ problem.size) := by
    refine Vec.ext_get fun i => ?_
    rw [Vec.get_sub, Mat.get_mulVec, Vec.get_zero, sub_zero]
    exact Finset.sum_eq_zero fun j _ => by rw [Vec.get_zero, mul_zero]
  rw [Balances, Candidate.zero, hzero, eq_comm]

/-! ### Projected Gauss-Seidel -/

theorem gaussSeidel_balances_iff {params : RelaySweepParams ℝ}
    (hstatus : (problem.gaussSeidel params).value.status = .converged ∨
      (problem.gaussSeidel params).value.status = .notConverged) :
    problem.Balances (problem.gaussSeidel params).value.toCandidate ↔
      0 < params.iterationCap ∨ problem.offset = Vec.zero _ := by
  rcases problem.gaussSeidel_cases params with heq | ⟨ended, hfinal, heq⟩
  · rw [heq] at hstatus
    rcases hstatus with h | h <;> cases h
  · rw [heq]
    by_cases hcap : 0 < params.iterationCap
    · -- an error not yet measured exceeds every real tolerance, so there is a first sweep
      have hends := Progress.ends_of_final hfinal
      have hpos := hends.lt_iterations hcap (.inl rfl)
      have hvelocity := hends.reached.establishes
        (fun _ state => state.velocity = problem.velocity state.reaction)
        (fun progress outcome hok => by cases hok; rfl) hpos
      exact iff_of_true (balances_iff.mpr hvelocity) (.inl hcap)
    · rw [Progress.final_eq_idle fun h => hcap h.1] at hfinal
      obtain rfl := Except.ok.inj hfinal
      exact balances_zero.trans (or_iff_right hcap).symm

/-! ### The LATIN method -/

/-- One iteration on a symmetric problem leads to vectors that satisfy its equation. -/
theorem balances_latinStep (hsymm : problem.matrix.toMatrix.IsHermitian) {k : Vec ℝ problem.size}
    {factor : Triangle ℝ problem.size}
    (hfactor : Triangle.factor? (problem.latinMatrix k) = some factor) {params : LatinParams ℝ}
    {progress : Progress ℝ (LatinState ℝ problem.size)} {outcome : ℝ × LatinState ℝ problem.size}
    (hok : (problem.latinStep params k factor.solve progress).value = .ok outcome) :
    problem.Balances outcome.2.linear := by
  have hmatrix : (problem.latinMatrix k).toMatrix.IsHermitian := by
    rw [latinMatrix_toMatrix hsymm]
    exact hsymm.add (Matrix.isHermitian_diagonal _)
  cases hok
  exact balances_iff.mpr (velocity_linearStage hsymm (Triangle.mulVec_solve hmatrix hfactor) _)

theorem latin_balances_iff_of_symmetric (hsymm : problem.matrix.toMatrix.IsHermitian)
    {params : LatinParams ℝ}
    (hstatus : (problem.latin params).value.status = .converged ∨
      (problem.latin params).value.status = .notConverged) :
    problem.Balances (problem.latin params).value.toCandidate ↔
      (0 < params.iterationCap ∧ params.tolerance < 1) ∨ problem.offset = Vec.zero _ := by
  rcases problem.latin_cases params with ⟨status, habort, heq⟩ |
    ⟨factor, -, hfactor, ended, hfinal, heq⟩
  · rw [heq] at hstatus
    rcases habort with rfl | rfl <;> rcases hstatus with h | h <;> cases h
  · rw [heq]
    by_cases hdue : 0 < params.iterationCap ∧ params.tolerance < 1
    · have hends := Progress.ends_of_final hfinal
      have hbalances := hends.reached.establishes (fun _ state => problem.Balances state.linear)
        (fun progress outcome hok => balances_latinStep hsymm hfactor hok)
        (hends.lt_iterations hdue.1 hdue.2)
      exact iff_of_true hbalances (.inl hdue)
    · rw [Progress.final_eq_idle hdue] at hfinal
      obtain rfl := Except.ok.inj hfinal
      exact balances_zero.trans (or_iff_right hdue).symm

theorem latin_balances_iff {params : LatinParams ℝ}
    (hstatus : (problem.latin params).value.status = .converged ∨
      (problem.latin params).value.status = .notConverged) :
    problem.mirrored.Balances (problem.latin params).value.toCandidate ↔
      (0 < params.iterationCap ∧ params.tolerance < 1) ∨ problem.offset = Vec.zero _ := by
  rw [← latin_mirrored] at hstatus ⊢
  exact latin_balances_iff_of_symmetric problem.matrix.mirrored_isHermitian hstatus

/-! ### Returned pairs -/

/-- When the vectors of a run that ends by a comparison of its error satisfy the equation. The LATIN
method starts from an error of one, so it makes no iteration for a tolerance of one or more. -/
structure BalancesAtExit (problem : RelayProblem ℝ) : Prop where
  gaussSeidel (params : RelaySweepParams ℝ) :
    (problem.gaussSeidel params).value.status = .converged ∨
      (problem.gaussSeidel params).value.status = .notConverged →
    (problem.Balances (problem.gaussSeidel params).value.toCandidate ↔
      0 < params.iterationCap ∨ problem.offset = Vec.zero _)
  latin (params : LatinParams ℝ) :
    (problem.latin params).value.status = .converged ∨
      (problem.latin params).value.status = .notConverged →
    (problem.mirrored.Balances (problem.latin params).value.toCandidate ↔
      (0 < params.iterationCap ∧ params.tolerance < 1) ∨ problem.offset = Vec.zero _)
  mirrored_eq : problem.matrix.toMatrix.IsSymm → problem.mirrored = problem

/-- Projected Gauss-Seidel satisfies the equation as soon as it sweeps. So does the LATIN method as
soon as it iterates, for a symmetric matrix; for another one it satisfies the equation of the
mirrored problem. -/
theorem balances_at_exit (problem : RelayProblem ℝ) : problem.BalancesAtExit where
  gaussSeidel _ := gaussSeidel_balances_iff
  latin _ := latin_balances_iff
  mirrored_eq hsymm := by
    have hmatrix : problem.matrix.mirrored = problem.matrix :=
      Mat.mirrored_eq_self (.ext fun i j => (star_trivial _).trans (hsymm.apply i j))
    rw [mirrored, hmatrix]

/-- The second row has an entry below the diagonal that the first one does not have above it. -/
noncomputable def tiltedMatrix : Mat ℝ 2 2 :=
  Mat.ofFn fun i j => if i.val < j.val then 0 else 1

theorem unitBox_nonempty (i : Fin 2) :
    -(Vector.replicate 2 1 : Vec ℝ 2).get i ≤ (Vector.replicate 2 1 : Vec ℝ 2).get i := by
  rw [Vec.get_replicate]
  exact neg_le_self zero_le_one

/-- Two relays of which only the second feels the other. -/
noncomputable def tiltedRelays : RelayProblem ℝ where
  size := 2
  matrix := tiltedMatrix
  offset := Vector.replicate 2 (1 + 1)
  upper := Vector.replicate 2 1
  lower := Vector.replicate 2 1
  box_nonempty := unitBox_nonempty

/-- A run that ends by a comparison of its error, with vectors that violate the equation. -/
def EndsUnbalanced (problem : RelayProblem ℝ) (run : Run ℝ problem.size) : Prop :=
  (run.status = .converged ∨ run.status = .notConverged) ∧ ¬problem.Balances run.toCandidate

theorem tiltedMatrix_entry (i j : Fin 2) :
    tiltedMatrix.entry i j = if i.val < j.val then 0 else 1 :=
  Mat.entry_ofFn _ i j

theorem tiltedRelays_offset (i : Fin 2) : tiltedRelays.offset.get i = 2 := by
  have hentry : tiltedRelays.offset.get i = 1 + 1 := Vec.get_replicate _ i
  rw [hentry, one_add_one_eq_two]

theorem tiltedRelays_offset_ne : tiltedRelays.offset ≠ Vec.zero _ := by
  intro hzero
  have hfirst : (Vec.zero 2 : Vec ℝ 2).get 0 = 2 := hzero ▸ tiltedRelays_offset 0
  rw [Vec.get_zero] at hfirst
  exact two_ne_zero hfirst.symm

theorem tiltedRelays_diagonal (i : Fin 2) :
    Scalar.diagonalThreshold < Mat.diagonal tiltedRelays.matrix i := by
  have hone : Mat.diagonal tiltedRelays.matrix i = 1 :=
    (tiltedMatrix_entry i i).trans (if_neg (lt_irrefl _))
  rw [hone]
  norm_num [Scalar.diagonalThreshold]

theorem tiltedRelays_direction (i : Fin 2) :
    Scalar.diagonalThreshold < (tiltedRelays.searchDirection 1).get i := by
  have hdirection : (tiltedRelays.searchDirection 1).get i =
      1 * Mat.diagonal tiltedRelays.matrix i := Vec.get_ofFn _ i
  rw [hdirection, one_mul]
  exact tiltedRelays_diagonal i

theorem exists_tiltedRelays_factor : ∃ factor,
    Triangle.factor? (tiltedRelays.latinMatrix (tiltedRelays.searchDirection 1)) = some factor := by
  have hmatrix : tiltedRelays.mirrored.matrix.toMatrix = 1 := by
    ext i j
    rw [Mat.toMatrix_apply, Mat.entry_mirrored]
    refine (tiltedMatrix_entry _ _).trans ?_
    rw [Matrix.one_apply]
    fin_cases i <;> fin_cases j <;> rfl
  have hposSemidef : tiltedRelays.mirrored.matrix.toMatrix.PosSemidef := by
    rw [hmatrix]
    exact .one
  obtain ⟨factor, hfactor, -⟩ := exists_factor hposSemidef fun i =>
    Scalar.diagonalThreshold_pos.trans (tiltedRelays_direction i)
  exact ⟨factor, by rw [← factor?_mirrored, hfactor]⟩

/-- A run without a sweep leaves the vectors at zero. -/
theorem tiltedRelays_unswept :
    tiltedRelays.EndsUnbalanced (tiltedRelays.gaussSeidel ⟨0, 0, 1, 0⟩).value := by
  have hflat : tiltedRelays.flatIndex? = none :=
    flatIndex?_eq_none fun i => (tiltedRelays_diagonal i).not_ge
  obtain ⟨ended, hfinal, heq⟩ := exists_gaussSeidel_eq _ hflat ⟨0, 0, 1, 0⟩
  obtain rfl := Except.ok.inj hfinal
  rw [heq]
  exact ⟨Residual.status_cases (0 : ℝ) .unmeasured, balances_zero.not.mpr tiltedRelays_offset_ne⟩

/-- So does the LATIN method with a tolerance of one, which counts as converged. -/
theorem tiltedRelays_satisfied :
    tiltedRelays.EndsUnbalanced (tiltedRelays.latin ⟨1000, 1, 1, 0⟩).value := by
  obtain ⟨factor, hfactor⟩ := exists_tiltedRelays_factor
  obtain ⟨ended, hfinal, heq⟩ := exists_latin_eq ⟨1000, 1, 1, 0⟩
    (vanishingIndex?_eq_none tiltedRelays_direction) hfactor
  rw [Progress.final_eq_start (lt_irrefl 1)] at hfinal
  obtain rfl := Except.ok.inj hfinal
  rw [heq]
  exact ⟨.inl (if_pos le_rfl), balances_zero.not.mpr tiltedRelays_offset_ne⟩

theorem row_of_two {a : Mat ℝ 2 2} {z w q : Vec ℝ 2} (h : Vec.sub (Mat.mulVec a z) w = q)
    (i : Fin 2) : a.entry i 0 * z.get 0 + a.entry i 1 * z.get 1 - w.get i = q.get i := by
  rw [← h, Vec.get_sub, Mat.get_mulVec, Fin.sum_univ_two]

/-- The two equations differ below the diagonal only, so both hold only if the first reaction is
zero; then the first velocity is not. -/
theorem tiltedRelays_not_balances {k : Vec ℝ 2} {c : Candidate ℝ 2}
    (hmirrored : tiltedRelays.mirrored.Balances c) (hpushed : pushed k c 0 = 0) :
    ¬tiltedRelays.Balances c := by
  intro hbalances
  have hbelow : tiltedMatrix.entry 1 0 * c.reaction.get 0 +
      tiltedMatrix.entry 1 1 * c.reaction.get 1 - c.velocity.get 1 = 2 :=
    (row_of_two hbalances 1).trans (tiltedRelays_offset 1)
  have hsecond : tiltedMatrix.mirrored.entry 1 0 * c.reaction.get 0 +
      tiltedMatrix.mirrored.entry 1 1 * c.reaction.get 1 - c.velocity.get 1 = 2 :=
    (row_of_two hmirrored 1).trans (tiltedRelays_offset 1)
  have hfirst : tiltedMatrix.mirrored.entry 0 0 * c.reaction.get 0 +
      tiltedMatrix.mirrored.entry 0 1 * c.reaction.get 1 - c.velocity.get 0 = 2 :=
    (row_of_two hmirrored 0).trans (tiltedRelays_offset 0)
  simp [tiltedMatrix_entry] at hbelow hsecond hfirst
  have hreaction : c.reaction.get 0 = 0 := by linarith
  rw [pushed, hreaction, mul_zero, add_zero] at hpushed
  linarith

/-- In one iteration the LATIN method takes the second relay for an independent one. -/
theorem tiltedRelays_mistaken :
    tiltedRelays.EndsUnbalanced (tiltedRelays.latin ⟨1, 0, 1, 0⟩).value := by
  obtain ⟨factor, hfactor⟩ := exists_tiltedRelays_factor
  obtain ⟨ended, hfinal, heq⟩ := exists_latin_eq ⟨1, 0, 1, 0⟩
    (vanishingIndex?_eq_none tiltedRelays_direction) hfactor
  have hstatus : (tiltedRelays.latin ⟨1, 0, 1, 0⟩).value.status = .converged ∨
      (tiltedRelays.latin ⟨1, 0, 1, 0⟩).value.status = .notConverged := by
    rw [heq]
    exact Residual.status_cases 0 (.measured ended.error)
  have hmirrored := latin_balances_iff hstatus |>.mpr (.inl ⟨Nat.one_pos, zero_lt_one⟩)
  rw [Progress.final, if_pos zero_lt_one] at hfinal
  obtain rfl := Except.ok.inj hfinal
  -- the linear stage starts from zero vectors, and keeps what is pushed
  have hpushed := congrFun (pushed_linearStage (tiltedRelays.searchDirection 1) factor.solve
    (Candidate.zero _)) (0 : Fin 2)
  rw [pushed_zero] at hpushed
  rw [heq] at hmirrored
  refine ⟨hstatus, ?_⟩
  rw [heq]
  exact tiltedRelays_not_balances hmirrored hpushed

/-- The equation fails without an iteration, and for a matrix that is not symmetric. -/
theorem tiltedRelays_unbalanced :
    tiltedRelays.EndsUnbalanced (tiltedRelays.gaussSeidel ⟨0, 0, 1, 0⟩).value ∧
      tiltedRelays.EndsUnbalanced (tiltedRelays.latin ⟨1000, 1, 1, 0⟩).value ∧
      tiltedRelays.EndsUnbalanced (tiltedRelays.latin ⟨1, 0, 1, 0⟩).value :=
  ⟨tiltedRelays_unswept, tiltedRelays_satisfied, tiltedRelays_mistaken⟩

end RelayProblem

end Complementarity
