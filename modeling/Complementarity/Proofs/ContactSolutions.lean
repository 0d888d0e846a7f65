import Complementarity.Proofs.DiskGeometry
import Complementarity.Proofs.DegenerateContacts
import Complementarity.Proofs.Loops

/-!
Solvers for a single contact, started at a solution.

A reaction that obeys the law is one that no solver changes: the single projections lead back to it,
and so does every step of the repeated projection and of Newton's method, however many they make.
For the single projection onto the cone the converse holds as well
(`projectCone_eq_self_iff`).
-/

namespace Complementarity

/-- A solver that returns the reaction it has been given. -/
structure ContactSolver.Keeps {R : Type} (solver : ContactSolver R) (problem : ContactProblem R)
    (r : Block R 2) : Prop where
  status_ne : (solver.solve problem r).value.1.status ≠ .degenerateInput
  reaction_eq : (solver.solve problem r).value.2 = r

theorem grow_pos {ratio shrink step : ℝ} (hshrink : 0 < shrink) (hstep : 0 < step) :
    0 < grow ratio shrink step := by
  unfold grow
  split
  · exact div_pos hstep hshrink
  · exact hstep

namespace ContactProblem

variable {problem : ContactProblem ℝ} {r : Block ℝ 2}

/-! ### Single projections -/

theorem isStep_divide (problem : ContactProblem ℝ) (r : Block ℝ 2) (w : ℝ) :
    IsStep problem.friction (1 / w) r (problem.velocity r)
      (Vec.sub r (Vec.divide (problem.correctedVelocity r) w)) := by
  intro i
  rw [Vec.get_sub, Vec.get_divide, correctedVelocity]
  ring

theorem projectCone_eq_self_iff (hmu : 0 ≤ problem.friction)
    (hdiagonal : Scalar.diagonalThreshold < problem.normalDiagonal) (tolerance : ℝ) :
    (problem.projectCone tolerance r).2 = r ↔
      ObeysLaw problem.friction r (problem.velocity r) := by
  have hpos : 0 < 1 / problem.normalDiagonal :=
    one_div_pos.mpr (Scalar.diagonalThreshold_pos.trans hdiagonal)
  rw [projectCone, if_neg (not_le.mpr hdiagonal)]
  exact projectOnCone_step_eq_iff hmu hpos (isStep_divide problem r _)

theorem coneProjection_keeps (hmu : 0 ≤ problem.friction)
    (hdiagonal : Scalar.diagonalThreshold < problem.normalDiagonal)
    (hlaw : ObeysLaw problem.friction r (problem.velocity r)) (tolerance : ℝ) :
    (ContactSolver.coneProjection tolerance).Keeps problem r where
  status_ne := (projectCone_degenerate_iff tolerance).not.mpr (not_le.mpr hdiagonal)
  reaction_eq := (projectCone_eq_self_iff hmu hdiagonal tolerance).mpr hlaw

theorem cylinderProjection_keeps (hmu : 0 ≤ problem.friction)
    (hdiagonal : Scalar.diagonalThreshold < problem.normalDiagonal)
    (hthreshold : problem.threshold? = some (problem.friction * Scalar.greater r.normal 0))
    (hlaw : ObeysLaw problem.friction r (problem.velocity r)) (tolerance : ℝ) :
    (ContactSolver.cylinderProjection tolerance).Keeps problem r where
  status_ne := (projectCylinder_degenerate_iff tolerance).not.mpr (not_le.mpr hdiagonal)
  reaction_eq := by
    have hpos : 0 < 1 / problem.normalDiagonal :=
      one_div_pos.mpr (Scalar.diagonalThreshold_pos.trans hdiagonal)
    set step := Vec.sub r (Vec.divide (problem.velocity r) problem.normalDiagonal) with hstep
    have hget (i : Fin 3) :
        step.get i = r.get i - 1 / problem.normalDiagonal * (problem.velocity r).get i := by
      rw [hstep, Vec.get_sub, Vec.get_divide]
      ring
    have hback := (projectOnCylinder_step_eq_iff hmu hpos hpos (hget 0) fun i => hget i.succ).mpr
      hlaw
    -- the projection fixes the normal part, so the radius is the one of the reaction
    have hnormal := normal_projectOnCylinder (problem.friction * max (Block.normal step) 0) step
    rw [hback] at hnormal
    rw [← hnormal, hstep] at hback
    change (problem.projectCylinder tolerance r).2 = r
    rw [projectCylinder, if_neg (not_le.mpr hdiagonal), hthreshold]
    simp only [Option.getD_some, Scalar.greater_eq_max, max_eq_left hlaw.normal_nonneg, hback]

/-! ### Repeated projections -/

theorem coneTrial_of_solution (hmu : 0 ≤ problem.friction)
    (hlaw : ObeysLaw problem.friction r (problem.velocity r)) {step : ℝ} (hstep : 0 < step) :
    (problem.coneTrial r (problem.correctedVelocity r) step).point =
      (r, problem.correctedVelocity r) := by
  have hback : (projectOnCone problem.friction
      (Vec.sub r (Vec.scale step (problem.correctedVelocity r)))).2 = r := by
    refine (projectOnCone_step_eq_iff hmu hstep fun i => ?_).mpr hlaw
    rw [Vec.get_sub, Vec.get_scale, correctedVelocity]
    ring
  simp only [coneTrial, hback]

/-- Where the repeated projection stands if it never moves. -/
structure Rests (problem : ContactProblem ℝ) (r : Block ℝ 2) (iterate : ConeIterate ℝ) : Prop where
  reaction_eq : iterate.reaction = r
  corrected_eq : iterate.corrected = problem.correctedVelocity r
  step_pos : 0 < iterate.step

theorem coneStep_rests {params : ConeIterationParams ℝ} (hshrink : 0 < params.shrink)
    (hmu : 0 ≤ problem.friction) (hlaw : ObeysLaw problem.friction r (problem.velocity r))
    {progress : Progress ℝ (ConeIterate ℝ)} (h : problem.Rests r progress.state)
    {outcome : ℝ × ConeIterate ℝ}
    (hok : (problem.coneStep params progress).value = .ok outcome) : problem.Rests r outcome.2 := by
  obtain ⟨hreaction, hcorrected, hstep⟩ := h
  obtain ⟨hnext, tried, htried, htrial⟩ := searchStep_spec
    (problem.coneTrial progress.state.reaction progress.state.corrected) params.coefficient
    params.shrink (P := (0 < ·)) (fun step hpos => mul_pos hpos hshrink) params.retries
    progress.state.step hstep
  have hpoint := coneTrial_of_solution hmu hlaw htried
  rw [hreaction, hcorrected] at htrial hnext
  obtain rfl := (Except.ok.inj hok).symm
  simp only [hreaction, hcorrected, htrial, hpoint]
  exact ⟨rfl, rfl, grow_pos hshrink hnext⟩

theorem coneIteration_keeps {params : ConeIterationParams ℝ} (hstep : 0 < params.step)
    (hshrink : 0 < params.shrink) (hmu : 0 ≤ problem.friction)
    (hdiagonal : Scalar.diagonalThreshold < problem.normalDiagonal)
    (hlaw : ObeysLaw problem.friction r (problem.velocity r)) :
    (ContactSolver.coneIteration params).Keeps problem r where
  status_ne := (iterateCone_degenerate_iff params).not.mpr (not_le.mpr hdiagonal)
  reaction_eq := by
    change (problem.iterateCone params r).2 = r
    rw [iterateCone, if_neg (not_le.mpr hdiagonal)]
    let start : Progress ℝ (ConeIterate ℝ) :=
      { iterations := 0, error := problem.error r
        state := { reaction := r, corrected := problem.correctedVelocity r
                   step := params.step / problem.normalDiagonal } }
    have hends : Progress.Ends (params.tolerance < ·) (problem.coneStep params)
        params.iterationCap start _ :=
      Progress.ends_of_final (Progress.final_eq_settled _ _ _)
    have hfirst : 0 < params.step / problem.normalDiagonal :=
      div_pos hstep (Scalar.diagonalThreshold_pos.trans hdiagonal)
    have hrests := hends.reached.preserves (fun progress => problem.Rests r progress.state)
      ⟨rfl, rfl, hfirst⟩ fun _ _ hrest _ hok => coneStep_rests hshrink hmu hlaw hrest hok
    exact hrests.reaction_eq

end ContactProblem

/-! ### Newton's method -/

theorem Elimination.frontUnknown_eq {n : Nat} (pivot : ℝ) (row rest : Vec ℝ n) (b : ℝ) :
    frontUnknown pivot row rest b = (b - ∑ i, row.get i * rest.get i) / pivot := by
  have hpairs : (Vector.zip row rest).toList = List.ofFn fun i => (row.get i, rest.get i) := by
    rw [Vec.toList_eq_ofFn]
    exact congrArg List.ofFn (funext fun i => Vector.getElem_zip)
  have hfold (entries : List (ℝ × ℝ)) :
      entries.foldr (fun (u, x) total => -x * u + total) b =
        b - (entries.map fun (u, x) => u * x).sum := by
    induction entries with
    | nil => simp
    | cons entry entries ih =>
      rw [List.foldr_cons, ih, List.map_cons, List.sum_cons]
      ring
  rw [frontUnknown, ← Vector.foldr_toList, hpairs, hfold, List.map_ofFn, List.sum_ofFn]
  rfl

theorem Elimination.frontUnknown_eq_zero {n : Nat} (pivot : ℝ) (row : Vec ℝ n) {rest : Vec ℝ n}
    (hrest : ∀ i, rest.get i = 0) : frontUnknown pivot row rest 0 = 0 := by
  have hsum : ∑ i, row.get i * rest.get i = 0 :=
    Finset.sum_eq_zero fun i _ => by rw [hrest, mul_zero]
  rw [frontUnknown_eq, hsum, sub_zero, zero_div]

/-- Elimination finds no solution but zero for a right-hand side of zero. -/
theorem Elimination.get_eq_zero_of_solve? {n : Nat} {a : Mat ℝ n n} {b x : Vec ℝ n}
    (hb : ∀ i, b.get i = 0) (h : solve? a b = some x) (i : Fin n) : x.get i = 0 := by
  induction n with
  | zero => exact i.elim0
  | succ n ih =>
    have hswapped (j : Fin (n + 1)) : (swapFirst (pivotRow a) b).get j = 0 := by
      simp only [swapFirst, Vec.get_ofFn, hb, ite_self]
    rw [solve?_succ] at h
    dsimp only at h
    split at h
    · cases h
    · obtain ⟨rest, hrest, rfl⟩ := Option.map_eq_some_iff.mp h
      have hzero (j : Fin n) : rest.get j = 0 := by
        refine ih (fun k => ?_) hrest j
        rw [Vec.get_ofFn, hswapped, hswapped]
        ring
      cases i using Fin.cases with
      | zero => rw [Vec.get_cons_zero, hswapped, frontUnknown_eq_zero _ _ hzero]
      | succ i => rw [Vec.get_cons_succ, hzero]

namespace ContactProblem

variable {problem : ContactProblem ℝ} {r : Block ℝ 2}

/-- The diagonal entries that Newton's method divides by. -/
theorem newtonScaling_pos (hdiagonal : ∀ i, Scalar.diagonalThreshold < problem.matrix.diagonal i)
    (i : Fin 3) : 0 < problem.newtonScaling.get i := by
  have hpos (i : Fin 3) : 0 < problem.matrix.diagonal i :=
    Scalar.diagonalThreshold_pos.trans (hdiagonal i)
  have htangential : (0 : ℝ) < 2.0 / (problem.matrix.diagonal 1 + problem.matrix.diagonal 2) :=
    div_pos (by norm_num) (add_pos (hpos 1) (hpos 2))
  match i with
  | 0 => exact one_div_pos.mpr (hpos 0)
  | 1 => exact htangential
  | 2 => exact htangential

/-- What is left of Newton's equation is what the projection of a step changes. -/
theorem value_linearize (hmu : 0 ≤ problem.friction) (rho : Vec ℝ 3) (r : Block ℝ 2) :
    (problem.linearize rho r).value =
      let step := Vec.sub r (Vector.zipWith (fun a b => a * b) rho (problem.velocity r))
      Vec.sub r (projectOnCylinder (problem.friction * max (Block.normal step) 0) step) := by
  simp only [linearize, normalDiskProjection_fst hmu]

/-- Newton's equation holds just at the reactions that obey the law. -/
theorem linearize_eq_zero_iff (hmu : 0 ≤ problem.friction)
    (hdiagonal : ∀ i, Scalar.diagonalThreshold < problem.matrix.diagonal i) :
    (problem.linearize problem.newtonScaling r).value = Vec.zero 3 ↔
      ObeysLaw problem.friction r (problem.velocity r) := by
  set step := Vec.sub r (Vector.zipWith (fun a b => a * b) problem.newtonScaling
    (problem.velocity r)) with hstep
  have hget (i : Fin 3) :
      step.get i = r.get i - problem.newtonScaling.get i * (problem.velocity r).get i := by
    rw [hstep, Vec.get_sub, Vec.get_zipWith]
  have htangential (i : Fin 2) : problem.newtonScaling.get i.succ = problem.newtonScaling.get 1 := by
    match i with
    | 0 => rfl
    | 1 => rfl
  rw [value_linearize hmu, ← hstep, Vec.sub_eq_zero_iff, eq_comm]
  exact projectOnCylinder_step_eq_iff hmu (newtonScaling_pos hdiagonal 0)
    (newtonScaling_pos hdiagonal 1) (hget 0) fun i => by rw [hget, htangential]

theorem newtonDirection_of_zero {equation : Linearization ℝ} (h : equation.value = Vec.zero 3) :
    (newtonDirection equation).value = Vec.zero 3 := by
  have hright (i : Fin 3) : (Vec.neg equation.value).get i = 0 := by
    rw [Vec.get_neg, h, Vec.get_zero, neg_zero]
  unfold newtonDirection
  dsimp only
  split
  · rename_i direction hsolve
    exact Vec.ext_get fun i => by
      rw [Traced.value_pure, Elimination.get_eq_zero_of_solve? hright hsolve, Vec.get_zero]
  · exact Vec.ext_get fun i => by rw [Traced.value_bind, Traced.value_pure, hright, Vec.get_zero]

/-- Where Newton's method stands if it never moves. -/
structure Solves (r : Block ℝ 2) (state : NewtonState ℝ) : Prop where
  reaction_eq : state.reaction = r
  value_eq : state.equation.value = Vec.zero 3

theorem newtonStep_solves {params : NewtonParams ℝ} {rho : Vec ℝ 3}
    (hequation : (problem.linearize rho r).value = Vec.zero 3)
    {progress : Progress ℝ (NewtonState ℝ)} (h : Solves r progress.state)
    {outcome : ℝ × NewtonState ℝ}
    (hok : (problem.newtonStep params rho progress).value = .ok outcome) :
    Solves r outcome.2 := by
  have hdirection := newtonDirection_of_zero h.value_eq
  have hstay (length : ℝ) : Vec.add r (Vec.scale length (Vec.zero 3)) = r := by
    refine Vec.ext_get fun i => ?_
    rw [Vec.get_add, Vec.get_scale, Vec.get_zero, zero_mul, add_zero]
  obtain rfl := (Except.ok.inj hok).symm
  simp only [h.reaction_eq, hdirection, hstay]
  exact ⟨rfl, hequation⟩

theorem not_isFlat (hdiagonal : ∀ i, Scalar.diagonalThreshold < problem.matrix.diagonal i) :
    ¬problem.IsFlat :=
  fun ⟨i, hle⟩ => (hdiagonal i).not_ge hle

/-- Where no diagonal entry vanishes, a run ends where its loop does. -/
theorem exists_newton_eq (hflat : ¬problem.IsFlat) (params : NewtonParams ℝ) (r : Block ℝ 2) :
    ∃ ended, Progress.final (params.tolerance < ·)
        (problem.newtonStep params problem.newtonScaling) params.iterationCap
        ⟨0, Vec.norm (problem.linearize problem.newtonScaling r).value,
          ⟨r, problem.linearize problem.newtonScaling r⟩⟩ = .ok ended ∧
      (problem.newton params r).value =
        (⟨.ofError ended.error params.tolerance, ended.iterations, ended.error⟩,
          ended.state.reaction) := by
  rw [newton, if_neg hflat]
  exact ⟨_, Progress.final_eq_settled _ _ _, rfl⟩

theorem newton_keeps (params : NewtonParams ℝ) (hmu : 0 ≤ problem.friction)
    (hdiagonal : ∀ i, Scalar.diagonalThreshold < problem.matrix.diagonal i)
    (hlaw : ObeysLaw problem.friction r (problem.velocity r)) :
    (ContactSolver.newton params).Keeps problem r := by
  have hflat := not_isFlat hdiagonal
  have hequation := (linearize_eq_zero_iff hmu hdiagonal).mpr hlaw
  constructor
  · exact (newton_degenerate_iff params).not.mpr hflat
  · obtain ⟨ended, hfinal, heq⟩ := exists_newton_eq hflat params r
    have hsolves := (Progress.ends_of_final hfinal).reached.preserves
      (fun progress => Solves r progress.state) ⟨rfl, hequation⟩
      fun _ _ hsolve _ hok => newtonStep_solves hequation hsolve hok
    change (problem.newton params r).value.2 = r
    rw [heq]
    exact hsolves.reaction_eq

end ContactProblem

end Complementarity
