import Complementarity.Proofs.Classification
import Complementarity.Proofs.SolutionsStay

/-!
Iterations that change nothing, in exact arithmetic.

Solutions are where methods stay, and for the plain methods they are the only such reactions: an
iteration that leads back to its own reaction shows that the error is zero there. For sweeps this
needs an argument over the contacts. An update changes no block but its own, and no later update of
the same sweep touches that block again, so a sweep that ends where it began has made no move at all.
-/

namespace Complementarity

/-! ### Sweeps that end where they began -/

section Sweeps

variable {R : Type} {n nc k : Nat} {update : Fin nc → Vec R n → Vec R n → Prop} {x y : Vec R n}
  {contacts : List (Fin nc)}

/-- The updates of a list of contacts, one after the other. -/
inductive Sweeps (update : Fin nc → Vec R n → Vec R n → Prop) :
    List (Fin nc) → Vec R n → Vec R n → Prop
  | nil {x : Vec R n} : Sweeps update [] x x
  | cons {c : Fin nc} {rest : List (Fin nc)} {x y z : Vec R n} (first : update c x y)
      (others : Sweeps update rest y z) : Sweeps update (c :: rest) x z

/-- An update changes no block of `k` components but that of its contact. -/
def ChangesOwnBlock (k : Nat) (update : Fin nc → Vec R n → Vec R n → Prop) : Prop :=
  ∀ c x y, update c x y → ∃ part : Vec R k, y = Vec.splice x (c.val * k) part

theorem disjoint_blocks {c d : Fin nc} (hne : c ≠ d) (k : Nat) :
    c.val * k + k ≤ d.val * k ∨ d.val * k + k ≤ c.val * k := by
  rw [← Nat.succ_mul, ← Nat.succ_mul]
  rcases Nat.lt_or_gt_of_ne (Fin.val_ne_of_ne hne) with h | h
  · exact .inl (Nat.mul_le_mul_right k h)
  · exact .inr (Nat.mul_le_mul_right k h)

/-- The block of a contact that is not in the list stays as it is. -/
theorem Sweeps.slice_eq (hown : ChangesOwnBlock k update) (h : Sweeps update contacts x y)
    {c : Fin nc} (hc : c ∉ contacts) (fits : c.val * k + k ≤ n) :
    Vec.slice y (c.val * k) fits = Vec.slice x (c.val * k) fits := by
  induction h with
  | nil => rfl
  | @cons d rest x y z first others ih =>
    rw [List.mem_cons, not_or] at hc
    obtain ⟨hne, hrest⟩ := hc
    obtain ⟨part, rfl⟩ := hown d x y first
    rw [ih hrest, Vec.slice_splice_of_disjoint _ _ _ (disjoint_blocks hne k)]

/-- No update of a sweep that ends where it began has changed anything. -/
theorem Sweeps.update_self (hown : ChangesOwnBlock k update)
    (fits : ∀ c : Fin nc, c.val * k + k ≤ n) (hnodup : contacts.Nodup)
    (h : Sweeps update contacts x x) : ∀ c ∈ contacts, update c x x := by
  induction contacts with
  | nil => exact nofun
  | cons c rest ih =>
    obtain ⟨hc, hrest⟩ := List.nodup_cons.mp hnodup
    cases h with
    | @cons _ _ _ y _ first others =>
      obtain ⟨part, rfl⟩ := hown c x _ first
      -- the rest of the sweep leaves the block of the first contact alone
      have hpart : part = Vec.slice x (c.val * k) (fits c) := by
        rw [others.slice_eq hown hc (fits c), Vec.slice_splice]
      rw [hpart, Vec.splice_slice] at first others
      intro d hd
      rcases List.mem_cons.mp hd with rfl | hd
      · exact first
      · exact ih hrest others d hd

theorem sweeps_foldl (f : Vec R n → Fin nc → Vec R n) (contacts : List (Fin nc)) (x : Vec R n) :
    Sweeps (fun c x y => y = f x c) contacts x (contacts.foldl f x) := by
  induction contacts generalizing x with
  | nil => exact .nil
  | cons c rest ih => exact .cons rfl (ih _)

end Sweeps

namespace FrictionProblem

variable {problem : FrictionProblem ℝ} {r : Vec ℝ problem.size}

variable (problem) in
/-- If an iteration from this position leaves the reaction as it is, the reaction has no error. -/
def StallsAtSolution {H S : Type} (candidate : S → Candidate ℝ problem.size)
    (advance : Iteration ℝ (Residual ℝ) H S) (progress : Progress (Residual ℝ) S) : Prop :=
  ∀ outcome, (advance progress).value = .ok outcome →
    (candidate outcome.2).reaction = (candidate progress.state).reaction →
      problem.error (candidate progress.state).reaction = 0

/-! ### Steps on all contacts at once -/

theorem deSaxceStep_stalls {params : ProjectionParams ℝ} (hstep : 0 < params.step)
    (progress : Progress (Residual ℝ) (Candidate ℝ problem.size)) :
    problem.StallsAtSolution id (problem.deSaxceStep params) progress := by
  intro outcome hok hsame
  cases hok
  exact error_eq_zero_iff.mpr ((projectedStep_eq_self_iff hstep).mp hsame)

/-- What the adaptive methods carry along belongs to their reaction. -/
structure IsCurrent (problem : FrictionProblem ℝ) (stepping : Stepping ℝ problem.size) : Prop where
  corrected_eq : stepping.corrected = problem.correctedVelocity stepping.candidate.reaction
  step_pos : 0 < stepping.step

variable {params : ProjectionParams ℝ}

theorem projectionStep_isCurrent (hshrink : 0 < params.shrink)
    {progress : Progress (Residual ℝ) (Stepping ℝ problem.size)}
    (h : problem.IsCurrent progress.state) {outcome : Residual ℝ × Stepping ℝ problem.size}
    (hok : (problem.projectionStep params progress).value = .ok outcome) :
    problem.IsCurrent outcome.2 := by
  obtain ⟨hnext, tried, -, htrial⟩ := predict_spec hshrink progress.state.candidate.reaction
    progress.state.corrected h.step_pos
  cases hok
  refine ⟨?_, grow_pos hshrink hnext⟩
  change (problem.predict params _ _ _).2.point.velocity =
    problem.correctedVelocity (problem.predict params _ _ _).2.point.reaction
  rw [htrial]
  rfl

theorem isCurrent_of_reaches {due : Residual ℝ → Prop} (hstep : 0 < params.step)
    (hshrink : 0 < params.shrink) {start : Candidate ℝ problem.size}
    {progress : Progress (Residual ℝ) (Stepping ℝ problem.size)}
    (reached : Progress.Reaches due (problem.projectionStep params)
      ⟨0, .unmeasured, problem.firstStepping params start⟩ progress) :
    problem.IsCurrent progress.state :=
  reached.preserves (fun progress => problem.IsCurrent progress.state) ⟨rfl, hstep⟩
    fun _ _ hcurrent _ hok => projectionStep_isCurrent hshrink hcurrent hok

theorem projectionStep_stalls (hshrink : 0 < params.shrink)
    {progress : Progress (Residual ℝ) (Stepping ℝ problem.size)}
    (h : problem.IsCurrent progress.state) :
    problem.StallsAtSolution Stepping.candidate (problem.projectionStep params) progress := by
  intro outcome hok hsame
  obtain ⟨-, tried, htried, htrial⟩ := predict_spec hshrink progress.state.candidate.reaction
    progress.state.corrected h.step_pos
  cases hok
  change (problem.predict params _ _ _).2.point.reaction = _ at hsame
  rw [htrial, h.corrected_eq] at hsame
  exact error_eq_zero_iff.mpr ((projectedStep_eq_self_iff htried).mp hsame)

/-! ### Sweeps in the plane -/

theorem planarStep_stalls {params : SweepParams ℝ} (hplanar : problem.tangents = 1)
    (hdiagonal : ∀ c, Scalar.diagonalThreshold < problem.planarDiagonal c)
    (hrelaxation : params.relaxation ≠ 0)
    (progress : Progress (Residual ℝ) (Candidate ℝ problem.size)) :
    problem.StallsAtSolution id (problem.planarStep params) progress := by
  intro outcome hok hsame
  cases hok
  have hown : ChangesOwnBlock 2 fun (c : Fin problem.contacts) (x y : Vec ℝ problem.size) =>
      y = Vec.splice x (c.val * 2) (problem.planarUpdate params.relaxation c x) :=
    fun _ _ _ heq => ⟨_, heq⟩
  have hsweep := sweeps_foldl (fun (x : Vec ℝ problem.size) c =>
    Vec.splice x (c.val * 2) (problem.planarUpdate params.relaxation c x))
    (List.finRange problem.contacts) progress.state.reaction
  rw [← planarSweep, show problem.planarSweep params.relaxation progress.state.reaction =
    progress.state.reaction from hsame] at hsweep
  have hself := hsweep.update_self hown problem.planar_fits (List.nodup_finRange _)
  refine error_eq_zero_iff.mpr ((isSolution_iff_slices hplanar).mpr fun c fits => ?_)
  have hupdate : problem.planarUpdate params.relaxation c progress.state.reaction =
      Vec.slice progress.state.reaction (c.val * 2) fits := by
    conv_rhs => rw [hself c (List.mem_finRange c), Vec.slice_splice]
  rw [planarUpdate, Vec.relax_eq_right_iff hrelaxation] at hupdate
  exact (planarProjection_eq_iff (hdiagonal c)).mp hupdate

/-! ### Sweeps in space -/

variable {relaxation : ℝ} {solver : ContactSolver ℝ} {thresholds? : Option (List ℝ)}

variable (problem relaxation solver thresholds?) in
/-- The update of a contact leads from `x` to `y`. -/
def Updates (c : Fin problem.contacts) (x y : Vec ℝ problem.size) : Prop :=
  ∃ changeSq changeSq', (problem.updateContact relaxation solver thresholds? c
    ⟨x, changeSq⟩).value = .ok ⟨y, changeSq'⟩

theorem sweeps_of_sweepContacts {contacts : List (Fin problem.contacts)}
    {swept ended : Swept ℝ problem.size}
    (h : (problem.sweepContacts relaxation solver thresholds? contacts swept).value = .ok ended) :
    Sweeps (problem.Updates relaxation solver thresholds?) contacts swept.reaction
      ended.reaction := by
  induction contacts generalizing swept with
  | nil =>
    obtain rfl := Except.ok.inj h
    exact .nil
  | cons c rest ih =>
    rw [value_sweepContacts_cons] at h
    cases hfirst : (problem.updateContact relaxation solver thresholds? c swept).value with
    | error halt =>
      rw [hfirst] at h
      cases h
    | ok next =>
      rw [hfirst] at h
      exact .cons ⟨swept.changeSq, next.changeSq, hfirst⟩ (ih h)

/-- An update that succeeds is the relaxed answer of the solver. -/
theorem Updates.eq_splice (hsweepable : problem.IsSweepable thresholds?)
    {c : Fin problem.contacts} {x y : Vec ℝ problem.size}
    (h : problem.Updates relaxation solver thresholds? c x y) :
    ∃ (threshold? : Option ℝ) (fits : problem.Fits c),
      let old := problem.ownReaction c fits x
      let answer := (solver.solve (problem.contactProblem c fits x threshold?) old).value
      answer.1.status ≠ .degenerateInput ∧
        y = Vec.splice x (c.val * 3) (Vec.relax relaxation answer.2 old) := by
  obtain ⟨changeSq, changeSq', hok⟩ := h
  obtain ⟨threshold?, fits, heq⟩ :=
    hsweepable.exists_updateContact_eq relaxation solver c ⟨x, changeSq⟩
  refine ⟨threshold?, fits, ?_⟩
  rw [heq, value_settleContact] at hok
  split at hok
  · cases hok
  · rename_i hstatus
    have hreaction := congrArg Swept.reaction (Except.ok.inj hok)
    exact ⟨hstatus, hreaction.symm⟩

theorem updates_changesOwnBlock (hsweepable : problem.IsSweepable thresholds?) :
    ChangesOwnBlock 3 (problem.Updates relaxation solver thresholds?) := by
  intro c x y h
  obtain ⟨threshold?, fits, -, heq⟩ := h.eq_splice hsweepable
  exact ⟨_, heq⟩

/-- A contact that the projection onto the cone leaves as it is obeys the law. -/
theorem Updates.obeysLaw (hsweepable : problem.IsSweepable thresholds?)
    (hrelaxation : relaxation ≠ 0) {tolerance : ℝ} {c : Fin problem.contacts}
    {x : Vec ℝ problem.size}
    (h : problem.Updates relaxation (.coneProjection tolerance) thresholds? c x x)
    (fits : problem.Fits c) :
    ObeysLaw (problem.friction.get c) (problem.ownReaction c fits x)
      (Vec.slice (problem.velocity x) (c.val * 3) fits) := by
  obtain ⟨threshold?, _, hstatus, heq⟩ := h.eq_splice hsweepable
  have hrelax := congrArg (fun z => problem.ownReaction c fits z) heq
  simp only [ownReaction, Vec.slice_splice] at hrelax
  have hproject := (Vec.relax_eq_right_iff hrelaxation).mp hrelax.symm
  have hdiagonal := not_le.mp ((ContactProblem.projectCone_degenerate_iff tolerance).not.mp hstatus)
  rw [← velocity_contactProblem fits x threshold?]
  exact (ContactProblem.projectCone_eq_self_iff (problem.friction_nonneg c) hdiagonal tolerance).mp
    hproject

theorem sweepStep_stalls {params : SweepParams ℝ} (hspatial : problem.tangents = 2)
    (hrelaxation : params.relaxation ≠ 0) (tolerance : ℝ)
    (progress : Progress (Residual ℝ) (SweepState ℝ problem.size)) :
    problem.StallsAtSolution SweepState.candidate
      (problem.sweepStep params (.coneProjection tolerance) none) progress := by
  intro outcome hok hsame
  have hsweepable : problem.IsSweepable none := isSweepable_none hspatial
  obtain ⟨swept, hswept, hreaction⟩ := exists_swept_of_sweepStep hok
  have hsweep := sweeps_of_sweepContacts hswept
  rw [← hreaction, hsame] at hsweep
  have hself := hsweep.update_self (updates_changesOwnBlock hsweepable)
    (problem.fits_of_spatial hspatial) (List.nodup_finRange _)
  refine error_eq_zero_iff.mpr ((isSolution_iff_slices hspatial).mpr fun c fits => ?_)
  exact (hself c (List.mem_finRange c)).obeysLaw hsweepable hrelaxation fits

/-! ### Solutions and stalled iterations -/

/-- Started at a solution, every method makes one iteration and returns the solution. -/
structure KeepsSolution (problem : FrictionProblem ℝ) (start : Candidate ℝ problem.size) :
    Prop where
  deSaxceFixedPoint (params : ProjectionParams ℝ) : params.IsProper →
    (problem.deSaxceFixedPoint params start).value.StaysAt start.reaction
  fixedPointProjection (params : ProjectionParams ℝ) : params.IsProper → 0 < params.shrink →
    (problem.fixedPointProjection params start).value.StaysAt start.reaction
  extraGradient (params : ProjectionParams ℝ) : params.IsProper → 0 < params.shrink →
    (problem.extraGradient params start).value.StaysAt start.reaction
  hyperplaneProjection (params : ProjectionParams ℝ) (relaxation : ℝ) : params.IsProper →
    0 < params.shrink →
      (problem.hyperplaneProjection params relaxation start).value.StaysAt start.reaction
  planarGaussSeidel (params : SweepParams ℝ) : problem.tangents = 1 →
    (∀ c, Scalar.diagonalThreshold < problem.planarDiagonal c) → params.IsProper →
      (problem.planarGaussSeidel params start).value.StaysAt start.reaction
  coneProjection (params : SweepParams ℝ) (tolerance : ℝ) : problem.tangents = 2 →
    problem.HasDiagonal 0 → params.IsProper →
      ∃ run, (problem.gaussSeidel params (.coneProjection tolerance) none start).value = .ok run ∧
        run.StaysAt start.reaction
  coneIteration (params : SweepParams ℝ) (inner : ContactProblem.ConeIterationParams ℝ) :
    problem.tangents = 2 → problem.HasDiagonal 0 → params.IsProper → 0 < inner.step →
      0 < inner.shrink →
        ∃ run, (problem.gaussSeidel params (.coneIteration inner) none start).value = .ok run ∧
          run.StaysAt start.reaction
  newton (params : SweepParams ℝ) (inner : ContactProblem.NewtonParams ℝ) :
    problem.tangents = 2 → (∀ i, problem.HasDiagonal i) → params.IsProper →
      ∃ run, (problem.gaussSeidel params (.newton inner) none start).value = .ok run ∧
        run.StaysAt start.reaction
  trescaFixedPoint (params : TrescaParams ℝ) (tolerance : ℝ) : problem.tangents = 2 →
    problem.HasDiagonal 0 → params.solver = .cylinderProjection tolerance → params.IsProper →
      ∃ run, (problem.trescaFixedPoint params start).value = .ok run ∧ run.StaysAt start.reaction

theorem IsSolution.keepsSolution {start : Candidate ℝ problem.size}
    (hr : problem.IsSolution start.reaction) : problem.KeepsSolution start where
  deSaxceFixedPoint _ := deSaxceFixedPoint_staysAt hr
  fixedPointProjection _ := fixedPointProjection_staysAt hr
  extraGradient _ := extraGradient_staysAt hr
  hyperplaneProjection _ relaxation := hyperplaneProjection_staysAt relaxation hr
  planarGaussSeidel _ hplanar := planarGaussSeidel_staysAt hplanar hr
  coneProjection _ tolerance hspatial hnormal := gaussSeidel_staysAt hspatial hr
    (coneProjection_keepsContacts hspatial hr hnormal tolerance none)
  coneIteration _ _ hspatial hnormal hproper hstep hshrink := gaussSeidel_staysAt hspatial hr
    (coneIteration_keepsContacts hspatial hr hnormal hstep hshrink none) hproper
  newton _ inner hspatial hdiagonal := gaussSeidel_staysAt hspatial hr
    (newton_keepsContacts hspatial hr hdiagonal inner none)
  trescaFixedPoint params tolerance hspatial hnormal hsolver := by
    refine trescaFixedPoint_staysAt hspatial hr ?_
    rw [hsolver]
    exact cylinderProjection_keepsContacts hspatial hr hnormal tolerance

/-- An iteration of the plain methods that leaves the reaction as it is has found a solution. -/
structure StallsOnlyAtSolutions (problem : FrictionProblem ℝ) : Prop where
  deSaxceFixedPoint (params : ProjectionParams ℝ) : 0 < params.step →
    ∀ progress, problem.StallsAtSolution id (problem.deSaxceStep params) progress
  fixedPointProjection (params : ProjectionParams ℝ) (start : Candidate ℝ problem.size) :
    0 < params.step → 0 < params.shrink →
      ∀ progress, Progress.Reaches (Residual.Exceeds params.tolerance)
          (problem.projectionStep params) ⟨0, .unmeasured, problem.firstStepping params start⟩
          progress →
        problem.StallsAtSolution Stepping.candidate (problem.projectionStep params) progress
  planarGaussSeidel (params : SweepParams ℝ) : problem.tangents = 1 →
    (∀ c, Scalar.diagonalThreshold < problem.planarDiagonal c) → params.relaxation ≠ 0 →
      ∀ progress, problem.StallsAtSolution id (problem.planarStep params) progress
  gaussSeidel (params : SweepParams ℝ) (tolerance : ℝ) : problem.tangents = 2 →
    params.relaxation ≠ 0 →
      ∀ progress, problem.StallsAtSolution SweepState.candidate
        (problem.sweepStep params (.coneProjection tolerance) none) progress

theorem stallsOnlyAtSolutions (problem : FrictionProblem ℝ) : problem.StallsOnlyAtSolutions where
  deSaxceFixedPoint _ := deSaxceStep_stalls
  fixedPointProjection _ _ hstep hshrink _ hreaches :=
    projectionStep_stalls hshrink (isCurrent_of_reaches hstep hshrink hreaches)
  planarGaussSeidel _ := planarStep_stalls
  gaussSeidel _ tolerance hspatial hrelaxation := sweepStep_stalls hspatial hrelaxation tolerance

/-- The solutions are fixed points of every method, and the plain methods have no others. -/
theorem solutions_are_fixed_points (problem : FrictionProblem ℝ) :
    (∀ start : Candidate ℝ problem.size, problem.error start.reaction = 0 →
      problem.KeepsSolution start) ∧ problem.StallsOnlyAtSolutions :=
  ⟨fun _ herror => (error_eq_zero_iff.mp herror).keepsSolution, problem.stallsOnlyAtSolutions⟩

theorem tangentNorm_of_straight (normal slip : ℝ) :
    Block.tangentNorm (#v[normal, slip, 0] : Block ℝ 2) = |slip| := by
  have hsq : Vec.normSq (Block.tangent (#v[normal, slip, 0] : Block ℝ 2)) =
      slip * slip + 0 * 0 := by
    rw [Vec.normSq, Vec.sum_eq, Fin.sum_univ_two, Vec.get_map, Vec.get_map, Block.tangent,
      Vec.get_rest, Vec.get_rest]
    rfl
  rw [Block.tangentNorm, hsq, Scalar.sqrt_eq, mul_zero, add_zero, Real.sqrt_mul_self_eq_abs]

theorem slidingContact_velocity :
    Mat.gemv 1 (Mat.ofFn fun i j => if i = j then 1 else 0 : Mat ℝ 3 3) #v[1, -0.3, 0] 1
      #v[-1, 0.5, 0] = #v[0, 0.2, 0] := by
  refine Vec.ext_get fun i => ?_
  rw [Mat.get_gemv, Fin.sum_univ_three]
  fin_cases i <;> norm_num [Mat.entry, Mat.ofFn, Vector.get]

theorem slidingContact_obeysLaw :
    ObeysLaw 0.3 (#v[1, -0.3, 0] : Block ℝ 2) (#v[0, 0.2, 0] : Block ℝ 2) := by
  refine ⟨?_, ?_, ?_, ?_⟩
  · change (0 : ℝ) ≤ 1
    norm_num
  · rw [tangentNorm_of_straight]
    change |(-0.3 : ℝ)| ≤ 0.3 * 1
    norm_num [abs_of_nonpos]
  · rw [tangentNorm_of_straight]
    change _ ≤ (0 : ℝ) + _
    norm_num
  · rw [tangentNorm_of_straight, Vec.dot_eq_sum, Fin.sum_univ_two]
    change (1 : ℝ) * (0 + 0.3 * |0.2|) + ((-0.3) * 0.2 + 0 * 0) = 0
    norm_num [abs_of_nonneg]

theorem slidingContact_isSolution : slidingContact.IsSolution #v[1, -0.3, 0] := by
  intro c
  rw [show slidingContact.velocity #v[1, -0.3, 0] = #v[0, 0.2, 0] from slidingContact_velocity]
  have honly : ∀ c : Fin 1, c = 0 := fun c => Subsingleton.elim c 0
  obtain rfl := honly c
  exact slidingContact_obeysLaw

theorem slidingContact_hasDiagonal (i : Fin 3) : slidingContact.HasDiagonal i := by
  intro c fits
  have honly : ∀ c : Fin 1, c = 0 := fun c => Subsingleton.elim c 0
  obtain rfl := honly c
  have hone : (Mat.diagonalBlock slidingContact.matrix (0 * 3) fits).diagonal i = 1 := by
    fin_cases i <;> rfl
  have hlt : (Scalar.diagonalThreshold : ℝ) < 1 := by norm_num [Scalar.diagonalThreshold]
  exact hlt.trans_eq hone.symm

/-- One sweep with Newton's method, measured lightly, returns the reaction of the sliding contact. -/
theorem slidingContact_stays :
    slidingContact.error #v[1, -0.3, 0] = 0 ∧
    ∃ run, (slidingContact.gaussSeidel
        { iterationCap := 1, tolerance := 0, relaxation := 1, evaluation := .light, verbosity := 0 }
        (.newton { iterationCap := 10, tolerance := 0, lineSearch := ⟨1e-4, 0.5, 10⟩ }) none
        ⟨#v[1, -0.3, 0], Vec.zero 3⟩).value = .ok run ∧
      run.StaysAt #v[1, -0.3, 0] := by
  have herror : slidingContact.error #v[1, -0.3, 0] = 0 :=
    error_eq_zero_iff.mpr slidingContact_isSolution
  have hkeeps := (solutions_are_fixed_points slidingContact).1
    ⟨#v[1, -0.3, 0], Vec.zero 3⟩ herror
  exact ⟨herror, hkeeps.newton _ _ rfl slidingContact_hasDiagonal ⟨one_pos, le_rfl⟩⟩

end FrictionProblem

end Complementarity
