import Mathlib
import Complementarity.Proofs.FrictionLaw
import Complementarity.Proofs.StalledIterations

/-!
Reactions in the friction cones, in exact arithmetic.

A run that starts with every reaction in the cone of its contact, at zero for instance, returns such
a reaction, however it ends. The methods that step on all contacts at once project whatever step they
take. Sweeps relax: between two points of a convex cone they stay in it as long as the relaxation
lies between zero and one, and an update leaves the blocks of the other contacts alone, so that even
a sweep that a degenerate contact stops halfway leaves every reaction in its cone.
-/

namespace Complementarity

/-! ### The cone of a contact -/

/-- A reaction in the friction cone. -/
structure InCone {t : Nat} (mu : ℝ) (r : Block ℝ t) : Prop where
  normal_nonneg : 0 ≤ r.normal
  tangent_le : r.tangentNorm ≤ mu * r.normal

variable {t : Nat} {mu : ℝ}

theorem inCone_zero : InCone mu (Vec.zero (t + 1) : Block ℝ t) where
  normal_nonneg := Block.normal_zero.ge
  tangent_le := by
    rw [Block.tangentNorm_eq, Block.tangent_zero, Vec.coords_zero, norm_zero, Block.normal_zero,
      mul_zero]

/-- Wherever a block lies, its projection lies in the cone. -/
theorem inCone_projectOnCone (hmu : 0 ≤ mu) (b : Block ℝ t) : InCone mu (projectOnCone mu b).2 := by
  have h := projectOnCone_isConeProjection hmu b
  exact ⟨h.normal_nonneg, (Block.tangentNorm_eq _).trans_le h.tangent_le⟩

theorem Block.normal_relax (omega : ℝ) (new old : Block ℝ t) :
    Block.normal (Vec.relax omega new old) = omega * new.normal + (1 - omega) * old.normal :=
  Vec.get_relax omega new old 0

theorem Block.tangent_coords_relax (omega : ℝ) (new old : Block ℝ t) :
    (Block.tangent (Vec.relax omega new old)).coords =
      omega • new.tangent.coords + (1 - omega) • old.tangent.coords := by
  ext i
  calc (Block.tangent (Vec.relax omega new old)).get i
      = (Vec.relax omega new old).get i.succ := Vec.get_rest _ i
    _ = omega * new.tangent.get i + (1 - omega) * old.tangent.get i := by
      rw [Vec.get_relax, ← Vec.get_rest new i, ← Vec.get_rest old i]; rfl

/-- The cone is convex. -/
theorem InCone.relax {omega : ℝ} (h0 : 0 ≤ omega) (h1 : omega ≤ 1) {new old : Block ℝ t}
    (hnew : InCone mu new) (hold : InCone mu old) : InCone mu (Vec.relax omega new old) := by
  have h1' : 0 ≤ 1 - omega := sub_nonneg.mpr h1
  constructor
  · rw [Block.normal_relax]
    exact add_nonneg (mul_nonneg h0 hnew.normal_nonneg) (mul_nonneg h1' hold.normal_nonneg)
  · rw [Block.tangentNorm_eq, Block.normal_relax, Block.tangent_coords_relax]
    calc ‖omega • new.tangent.coords + (1 - omega) • old.tangent.coords‖
        ≤ ‖omega • new.tangent.coords‖ + ‖(1 - omega) • old.tangent.coords‖ := norm_add_le _ _
      _ = omega * new.tangentNorm + (1 - omega) * old.tangentNorm := by
        rw [norm_smul, norm_smul, Real.norm_of_nonneg h0, Real.norm_of_nonneg h1',
          Block.tangentNorm_eq, Block.tangentNorm_eq]
      _ ≤ omega * (mu * new.normal) + (1 - omega) * (mu * old.normal) :=
        add_le_add (mul_le_mul_of_nonneg_left hnew.tangent_le h0)
          (mul_le_mul_of_nonneg_left hold.tangent_le h1')
      _ = mu * (omega * new.normal + (1 - omega) * old.normal) := by ring

/-! ### Solvers for a single contact -/

/-- A solver that never leaves the friction cone. -/
def ContactSolver.KeepsCone (solver : ContactSolver ℝ) : Prop :=
  ∀ (problem : ContactProblem ℝ) (r : Block ℝ 2), 0 ≤ problem.friction →
    InCone problem.friction r → InCone problem.friction (solver.solve problem r).value.2

theorem ContactSolver.coneProjection_keepsCone (tolerance : ℝ) :
    (ContactSolver.coneProjection tolerance).KeepsCone := by
  intro problem r hmu hr
  change InCone problem.friction (problem.projectCone tolerance r).2
  unfold ContactProblem.projectCone
  split
  · exact hr
  · exact inCone_projectOnCone hmu _

theorem ContactProblem.coneStep_inCone {problem : ContactProblem ℝ} (hmu : 0 ≤ problem.friction)
    {params : ConeIterationParams ℝ} {progress : Progress ℝ (ConeIterate ℝ)}
    {outcome : ℝ × ConeIterate ℝ}
    (hok : (problem.coneStep params progress).value = .ok outcome) :
    InCone problem.friction outcome.2.reaction := by
  obtain ⟨-, tried, -, htrial⟩ := searchStep_spec
    (problem.coneTrial progress.state.reaction progress.state.corrected) params.coefficient
    params.shrink (P := fun _ => True) (fun _ _ => trivial) params.retries progress.state.step
    trivial
  obtain rfl := (Except.ok.inj hok).symm
  simp only [htrial]
  exact inCone_projectOnCone hmu _

theorem ContactSolver.coneIteration_keepsCone (params : ContactProblem.ConeIterationParams ℝ) :
    (ContactSolver.coneIteration params).KeepsCone := by
  intro problem r hmu hr
  change InCone problem.friction (problem.iterateCone params r).2
  unfold ContactProblem.iterateCone
  split
  · exact hr
  · let start : Progress ℝ (ContactProblem.ConeIterate ℝ) :=
      { iterations := 0, error := problem.error r
        state := { reaction := r, corrected := problem.correctedVelocity r
                   step := params.step / problem.normalDiagonal } }
    have hends : Progress.Ends (params.tolerance < ·) (problem.coneStep params)
        params.iterationCap start _ :=
      Progress.ends_of_final (Progress.final_eq_settled _ _ _)
    exact hends.reached.preserves
      (fun progress => InCone problem.friction progress.state.reaction) hr
      fun _ _ _ _ hok => ContactProblem.coneStep_inCone hmu hok

namespace FrictionProblem

/-! ### All contacts -/

/-- The reaction of every contact lies in its friction cone. -/
def IsAdmissible (problem : FrictionProblem ℝ) (r : Stack ℝ problem.contacts problem.tangents) :
    Prop :=
  ∀ c, InCone (problem.friction.get c) (r.block c)

variable {problem : FrictionProblem ℝ} {r : Vec ℝ problem.size} {start : Candidate ℝ problem.size}

theorem isAdmissible_zero (problem : FrictionProblem ℝ) :
    problem.IsAdmissible (Vec.zero problem.size) := by
  intro c
  have hblock : Stack.block (Vec.zero problem.size : Vec ℝ problem.size) c =
      Vec.zero (problem.tangents + 1) :=
    Vec.ext_get fun i => by rw [Stack.block, Vec.get_slice, Vec.get_zero, Vec.get_zero]
  rw [hblock]
  exact inCone_zero

/-- The blocks of the contacts may be read off with the number of tangents written out. -/
theorem isAdmissible_iff_slices (htangents : problem.tangents = t) :
    problem.IsAdmissible r ↔
      ∀ (c : Fin problem.contacts) (fits : c.val * (t + 1) + (t + 1) ≤ problem.size),
        InCone (problem.friction.get c) (Vec.slice r (c.val * (t + 1)) fits : Block ℝ t) := by
  subst htangents
  exact ⟨fun hr c _ => hr c, fun hr c => hr c (Stack.block_fits c)⟩

/-- Another point of its cone may be put in at a contact: no other contact notices. -/
theorem IsAdmissible.splice (hr : problem.IsAdmissible r) (htangents : problem.tangents = t)
    {c : Fin problem.contacts} {part : Block ℝ t} (hpart : InCone (problem.friction.get c) part) :
    problem.IsAdmissible (Vec.splice r (c.val * (t + 1)) part) := by
  refine (isAdmissible_iff_slices htangents).mpr fun d fits => ?_
  by_cases heq : d = c
  · subst heq
    rw [Vec.slice_splice]
    exact hpart
  · rw [Vec.slice_splice_of_disjoint _ _ _ (disjoint_blocks heq (t + 1))]
    exact (isAdmissible_iff_slices htangents).mp hr d fits

/-! ### Steps on all contacts at once -/

theorem projectedStep_isAdmissible (r : Vec ℝ problem.size) (rho : ℝ) (f : Vec ℝ problem.size) :
    problem.IsAdmissible (problem.projectedStep r rho f) := by
  intro c
  rw [projectedStep, project, Stack.block_mapBlocks]
  exact inCone_projectOnCone (problem.friction_nonneg c) _

/-- A predictor is a projected step, whichever of its trials was accepted. -/
theorem predict_isAdmissible (params : ProjectionParams ℝ) (r f : Vec ℝ problem.size) (step : ℝ) :
    problem.IsAdmissible (problem.predict params r f step).2.point.reaction := by
  obtain ⟨-, tried, -, htrial⟩ := searchStep_spec (problem.predictorTrial r f) params.coefficient
    params.shrink (P := fun _ => True) (fun _ _ => trivial) params.retries step trivial
  rw [predict, htrial]
  exact projectedStep_isAdmissible r tried f

theorem hyperplaneUpdate_isAdmissible (relaxation rho : ℝ) (r f : Vec ℝ problem.size)
    {predictor : Predictor ℝ problem.size} (h : problem.IsAdmissible predictor.reaction) :
    problem.IsAdmissible (problem.hyperplaneUpdate relaxation r f rho predictor) := by
  unfold hyperplaneUpdate
  dsimp only
  split
  · exact h
  · exact projectedStep_isAdmissible _ _ _

/-- Every iteration leads to an admissible reaction, at least from one. -/
def KeepsAdmissible {H S : Type} (problem : FrictionProblem ℝ)
    (candidate : S → Candidate ℝ problem.size) (advance : Iteration ℝ (Residual ℝ) H S) : Prop :=
  ∀ progress outcome, problem.IsAdmissible (candidate progress.state).reaction →
    (advance progress).value = .ok outcome → problem.IsAdmissible (candidate outcome.2).reaction

theorem KeepsAdmissible.reaches {H S : Type} {candidate : S → Candidate ℝ problem.size}
    {advance : Iteration ℝ (Residual ℝ) H S} (h : problem.KeepsAdmissible candidate advance)
    {due : Residual ℝ → Prop} {start progress : Progress (Residual ℝ) S}
    (hstart : problem.IsAdmissible (candidate start.state).reaction)
    (reached : Progress.Reaches due advance start progress) :
    problem.IsAdmissible (candidate progress.state).reaction :=
  reached.preserves (fun progress => problem.IsAdmissible (candidate progress.state).reaction)
    hstart fun progress outcome hr _ hok => h progress outcome hr hok

theorem KeepsAdmissible.runMethod {S : Type} {candidate : S → Candidate ℝ problem.size}
    {advance : Iteration ℝ (Residual ℝ) Empty S} (h : problem.KeepsAdmissible candidate advance)
    {start : S} (hstart : problem.IsAdmissible (candidate start).reaction) (method : Method)
    (cap : Nat) (tolerance : ℝ) (verbosity : UInt8) :
    problem.IsAdmissible
      (problem.runMethod method cap tolerance verbosity candidate advance start).value.reaction := by
  obtain ⟨ended, hfinal, heq⟩ := problem.exists_runMethod_eq method cap tolerance verbosity
    candidate advance start
  have hended := h.reaches hstart (Progress.ends_of_final hfinal).reached
  rw [heq]
  exact (problem.reaction_settleVelocity ended.iterations _).symm ▸ hended

theorem deSaxceStep_keepsAdmissible (params : ProjectionParams ℝ) :
    problem.KeepsAdmissible id (problem.deSaxceStep params) := by
  intro progress outcome _ hok
  cases hok
  exact projectedStep_isAdmissible _ _ _

theorem projectionStep_keepsAdmissible (params : ProjectionParams ℝ) :
    problem.KeepsAdmissible Stepping.candidate (problem.projectionStep params) := by
  intro progress outcome _ hok
  cases hok
  exact predict_isAdmissible _ _ _ _

theorem extraGradientStep_keepsAdmissible (params : ProjectionParams ℝ) :
    problem.KeepsAdmissible Stepping.candidate (problem.extraGradientStep params) := by
  intro progress outcome _ hok
  cases hok
  exact projectedStep_isAdmissible _ _ _

theorem hyperplaneStep_keepsAdmissible (params : ProjectionParams ℝ) (relaxation : ℝ) :
    problem.KeepsAdmissible HyperplaneState.candidate
      (problem.hyperplaneStep params relaxation) := by
  intro progress outcome _ hok
  cases hok
  exact hyperplaneUpdate_isAdmissible _ _ _ _ (predict_isAdmissible _ _ _ _)

/-! ### Sweeps in the plane -/

theorem planarUpdate_inCone {relaxation : ℝ} (h0 : 0 ≤ relaxation) (h1 : relaxation ≤ 1)
    (hplanar : problem.tangents = 1) (hr : problem.IsAdmissible r) (c : Fin problem.contacts) :
    InCone (problem.friction.get c) (problem.planarUpdate relaxation c r) :=
  (inCone_projectOnCone (problem.friction_nonneg c) _).relax h0 h1
    ((isAdmissible_iff_slices hplanar).mp hr c (problem.planar_fits c))

theorem planarSweep_isAdmissible {relaxation : ℝ} (h0 : 0 ≤ relaxation) (h1 : relaxation ≤ 1)
    (hplanar : problem.tangents = 1) (hr : problem.IsAdmissible r) :
    problem.IsAdmissible (problem.planarSweep relaxation r) := by
  unfold planarSweep
  generalize List.finRange problem.contacts = contacts
  induction contacts generalizing r with
  | nil => exact hr
  | cons c rest ih => exact ih (hr.splice hplanar (planarUpdate_inCone h0 h1 hplanar hr c))

theorem planarStep_keepsAdmissible {params : SweepParams ℝ} (h0 : 0 ≤ params.relaxation)
    (h1 : params.relaxation ≤ 1) (hplanar : problem.tangents = 1) :
    problem.KeepsAdmissible id (problem.planarStep params) := by
  intro progress outcome hr hok
  cases hok
  exact planarSweep_isAdmissible h0 h1 hplanar hr

theorem planarGaussSeidel_isAdmissible {params : SweepParams ℝ} (h0 : 0 ≤ params.relaxation)
    (h1 : params.relaxation ≤ 1) (hplanar : problem.tangents = 1)
    (hr : problem.IsAdmissible start.reaction) :
    problem.IsAdmissible (problem.planarGaussSeidel params start).value.reaction := by
  unfold planarGaussSeidel
  split
  · exact hr
  · exact (planarStep_keepsAdmissible h0 h1 hplanar).runMethod hr _ _ _ _

/-! ### Sweeps in space -/

/-- The reaction that an update or a sweep leaves behind is admissible, also where it was stopped. -/
def LeavesAdmissible (problem : FrictionProblem ℝ) :
    Except (SweepHalt ℝ problem.size) (Swept ℝ problem.size) → Prop
  | .ok swept => problem.IsAdmissible swept.reaction
  | .error (.degenerate _ r) => problem.IsAdmissible r
  | .error (.fault _) => True

section Updates

variable {relaxation : ℝ} (h0 : 0 ≤ relaxation) (h1 : relaxation ≤ 1)
  {solver : ContactSolver ℝ} (hsolver : solver.KeepsCone) {thresholds? : Option (List ℝ)}
  (hspatial : problem.tangents = 2)

include h0 h1 hsolver hspatial

theorem updateContact_leavesAdmissible (c : Fin problem.contacts) {swept : Swept ℝ problem.size}
    (hr : problem.IsAdmissible swept.reaction) :
    problem.LeavesAdmissible
      (problem.updateContact relaxation solver thresholds? c swept).value := by
  cases hthreshold : thresholdAt thresholds? c with
  | error fault =>
    simp only [updateContact, hthreshold]
    trivial
  | ok threshold? =>
    have fits := problem.fits_of_spatial hspatial c
    rw [value_updateContact hthreshold fits]
    dsimp only
    rw [value_settleContact]
    split
    · exact hr
    · have hold : InCone (problem.friction.get c) (problem.ownReaction c fits swept.reaction) :=
        (isAdmissible_iff_slices hspatial).mp hr c fits
      have hnew := hsolver (problem.contactProblem c fits swept.reaction threshold?) _
        (problem.friction_nonneg c) hold
      exact hr.splice hspatial (hnew.relax h0 h1 hold)

theorem sweepContacts_leavesAdmissible (contacts : List (Fin problem.contacts))
    {swept : Swept ℝ problem.size} (hr : problem.IsAdmissible swept.reaction) :
    problem.LeavesAdmissible
      (problem.sweepContacts relaxation solver thresholds? contacts swept).value := by
  induction contacts generalizing swept with
  | nil => exact hr
  | cons c rest ih =>
    have hfirst : problem.LeavesAdmissible
        (problem.updateContact relaxation solver thresholds? c swept).value :=
      updateContact_leavesAdmissible h0 h1 hsolver hspatial c hr
    rw [value_sweepContacts_cons]
    cases hupdate : (problem.updateContact relaxation solver thresholds? c swept).value with
    | error halt =>
      rw [hupdate] at hfirst
      exact hfirst
    | ok next =>
      rw [hupdate] at hfirst
      exact ih hfirst

end Updates

section Runs

variable {params : SweepParams ℝ} (h0 : 0 ≤ params.relaxation) (h1 : params.relaxation ≤ 1)
  {solver : ContactSolver ℝ} (hsolver : solver.KeepsCone) {thresholds? : Option (List ℝ)}
  (hspatial : problem.tangents = 2)

include h0 h1 hsolver hspatial

theorem sweepStep_keepsAdmissible :
    problem.KeepsAdmissible SweepState.candidate
      (problem.sweepStep params solver thresholds?) := by
  intro progress outcome hr hok
  obtain ⟨swept, hswept, hreaction⟩ := exists_swept_of_sweepStep hok
  have hleaves : problem.LeavesAdmissible (.ok swept) :=
    hswept ▸ sweepContacts_leavesAdmissible h0 h1 hsolver hspatial _ hr
  rw [hreaction]
  exact hleaves

/-- A sweep that a degenerate contact stops hands back what it has reached by then. -/
theorem isAdmissible_of_degenerate
    {progress : Progress (Residual ℝ) (SweepState ℝ problem.size)}
    (hr : problem.IsAdmissible progress.state.candidate.reaction) {run : Run ℝ problem.size}
    (hhalt : (problem.sweepStep params solver thresholds? progress).value =
      .error (.degenerate run)) : problem.IsAdmissible run.reaction := by
  rw [value_sweepStep] at hhalt
  split at hhalt
  · cases hhalt
  · rename_i contact r hstopped
    have hleaves : problem.LeavesAdmissible (.error (.degenerate contact r)) :=
      hstopped ▸ sweepContacts_leavesAdmissible h0 h1 hsolver hspatial _ hr
    cases hhalt
    exact hleaves
  · cases hhalt

/-- Sweeps return an admissible reaction, whichever way they end. -/
theorem gaussSeidel_isAdmissible (hr : problem.IsAdmissible start.reaction)
    {run : Run ℝ problem.size}
    (hrun : (problem.gaussSeidel params solver thresholds? start).value = .ok run) :
    problem.IsAdmissible run.reaction := by
  have hkeeps : problem.KeepsAdmissible SweepState.candidate
      (problem.sweepStep params solver thresholds?) :=
    sweepStep_keepsAdmissible h0 h1 hsolver hspatial
  rw [value_gaussSeidel] at hrun
  split at hrun
  · cases hrun
  · rename_i hfinal
    obtain rfl := Except.ok.inj hrun
    obtain ⟨progress, hreached, -, -, hhalt⟩ := Progress.gives_up_of_final hfinal
    exact isAdmissible_of_degenerate h0 h1 hsolver hspatial (hkeeps.reaches hr hreached) hhalt
  · rename_i ended hfinal
    obtain rfl := Except.ok.inj hrun
    exact hkeeps.reaches hr (Progress.ends_of_final hfinal).reached

end Runs

theorem exists_gaussSeidel_isAdmissible {params : SweepParams ℝ} {solver : ContactSolver ℝ}
    (hsolver : solver.KeepsCone) {thresholds? : Option (List ℝ)}
    (hsweepable : problem.IsSweepable thresholds?) (h0 : 0 ≤ params.relaxation)
    (h1 : params.relaxation ≤ 1) (hr : problem.IsAdmissible start.reaction) :
    ∃ run, (problem.gaussSeidel params solver thresholds? start).value = .ok run ∧
      problem.IsAdmissible run.reaction := by
  obtain ⟨run, hrun⟩ := hsweepable.exists_gaussSeidel_eq_ok params solver start
  exact ⟨run, hrun, gaussSeidel_isAdmissible h0 h1 hsolver hsweepable.spatial hr hrun⟩

/-! ### Runs from an admissible start -/

/-- From this start, the methods that project onto the cone return admissible reactions. -/
structure StaysAdmissible (problem : FrictionProblem ℝ) (start : Candidate ℝ problem.size) :
    Prop where
  deSaxceFixedPoint (params : ProjectionParams ℝ) :
    problem.IsAdmissible (problem.deSaxceFixedPoint params start).value.reaction
  fixedPointProjection (params : ProjectionParams ℝ) :
    problem.IsAdmissible (problem.fixedPointProjection params start).value.reaction
  extraGradient (params : ProjectionParams ℝ) :
    problem.IsAdmissible (problem.extraGradient params start).value.reaction
  hyperplaneProjection (params : ProjectionParams ℝ) (relaxation : ℝ) :
    problem.IsAdmissible (problem.hyperplaneProjection params relaxation start).value.reaction
  planarGaussSeidel (params : SweepParams ℝ) : problem.tangents = 1 →
    0 ≤ params.relaxation → params.relaxation ≤ 1 →
      problem.IsAdmissible (problem.planarGaussSeidel params start).value.reaction
  coneProjection (params : SweepParams ℝ) (tolerance : ℝ) (thresholds? : Option (List ℝ)) :
    problem.IsSweepable thresholds? → 0 ≤ params.relaxation → params.relaxation ≤ 1 →
      ∃ run, (problem.gaussSeidel params (.coneProjection tolerance) thresholds? start).value =
        .ok run ∧ problem.IsAdmissible run.reaction
  coneIteration (params : SweepParams ℝ) (inner : ContactProblem.ConeIterationParams ℝ)
    (thresholds? : Option (List ℝ)) :
    problem.IsSweepable thresholds? → 0 ≤ params.relaxation → params.relaxation ≤ 1 →
      ∃ run, (problem.gaussSeidel params (.coneIteration inner) thresholds? start).value =
        .ok run ∧ problem.IsAdmissible run.reaction

theorem IsAdmissible.staysAdmissible (hr : problem.IsAdmissible start.reaction) :
    problem.StaysAdmissible start where
  deSaxceFixedPoint params := (deSaxceStep_keepsAdmissible params).runMethod hr _ _ _ _
  fixedPointProjection params := (projectionStep_keepsAdmissible params).runMethod hr _ _ _ _
  extraGradient params := (extraGradientStep_keepsAdmissible params).runMethod hr _ _ _ _
  hyperplaneProjection params relaxation :=
    (hyperplaneStep_keepsAdmissible params relaxation).runMethod hr _ _ _ _
  planarGaussSeidel _ hplanar h0 h1 := planarGaussSeidel_isAdmissible h0 h1 hplanar hr
  coneProjection _ tolerance _ hsweepable h0 h1 := exists_gaussSeidel_isAdmissible
    (ContactSolver.coneProjection_keepsCone tolerance) hsweepable h0 h1 hr
  coneIteration _ inner _ hsweepable h0 h1 := exists_gaussSeidel_isAdmissible
    (ContactSolver.coneIteration_keepsCone inner) hsweepable h0 h1 hr

/-- Started at zero, or at any other admissible reaction, the methods that project onto the cone
return an admissible one. -/
theorem returns_admissible (problem : FrictionProblem ℝ) :
    problem.IsAdmissible (Vec.zero problem.size) ∧
      ∀ start : Candidate ℝ problem.size, problem.IsAdmissible start.reaction →
        problem.StaysAdmissible start :=
  ⟨problem.isAdmissible_zero, fun _ hr => hr.staysAdmissible⟩

/-- Steps on the sliding contact, and sweeps over it, from zero. -/
theorem slidingContact_admissible :
    slidingContact.IsAdmissible (Vec.zero 3) ∧
    slidingContact.IsAdmissible (slidingContact.hyperplaneProjection
      { iterationCap := 5, tolerance := 0, step := 1, shrink := 0.5, coefficient := 0.9,
        retries := 3, verbosity := 0 } 1.5 ⟨Vec.zero 3, Vec.zero 3⟩).value.reaction ∧
    ∃ run, (slidingContact.gaussSeidel
        { iterationCap := 5, tolerance := 0, relaxation := 0.5, evaluation := .full,
          verbosity := 0 } (.coneProjection 0) none ⟨Vec.zero 3, Vec.zero 3⟩).value = .ok run ∧
      slidingContact.IsAdmissible run.reaction := by
  obtain ⟨hzero, hstays⟩ := returns_admissible slidingContact
  have hfromZero := hstays ⟨Vec.zero 3, Vec.zero 3⟩ hzero
  refine ⟨hzero, hfromZero.hyperplaneProjection _ _, ?_⟩
  exact hfromZero.coneProjection _ _ _ (isSweepable_none rfl) (by norm_num) (by norm_num)

end FrictionProblem

end Complementarity
