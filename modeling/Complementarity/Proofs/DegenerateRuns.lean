import Complementarity.Proofs.DegenerateContacts
import Complementarity.Proofs.LightEvaluation
import Complementarity.Proofs.StalledIterations
import Complementarity.Proofs.StoppingCuts

/-!
Degenerate runs.

A diagonal entry that vanishes ends a run, and nothing else makes it degenerate. The relay methods and
the sweeps in the plane look at all entries before they start, so that neither the cap nor the tolerance
plays a part. Sweeps in space come across an entry at its contact, in the first sweep or never: the
contacts in front of it have been updated by then, and it and all behind it are as they were
(`sweepContacts_stopsAt`).
-/

namespace Complementarity

variable {R : Type} [Scalar R]

/-- A run that has been given up before its first iteration, at the candidate it would have started
from. -/
def Run.IsAbandoned {n : Nat} (run : Run R n) (status : Status) (candidate : Candidate R n) : Prop :=
  run = candidate.ending (.aborted status)

/-- A look at all indices finds none exactly if there is none to be found. -/
theorem find?_finRange_eq_none_iff {n : Nat} {p : Fin n → Prop} [DecidablePred p] :
    (List.finRange n).find? (fun i => p i) = none ↔ ¬∃ i, p i := by
  rw [List.find?_eq_none, not_exists]
  simp only [List.mem_finRange, true_imp_iff, decide_eq_true_eq]

/-! ### Relay problems -/

namespace RelayProblem

variable {problem : RelayProblem R}

/-- A diagonal entry of the matrix vanishes. -/
def IsFlat (problem : RelayProblem R) : Prop :=
  ∃ i, problem.matrix.entry i i ≤ Scalar.diagonalThreshold

/-- An entry of the search direction vanishes. -/
def HasVanishingDirection (problem : RelayProblem R) (scale : R) : Prop :=
  ∃ i, Scalar.abs (scale * problem.matrix.entry i i) ≤ Scalar.diagonalThreshold

theorem flatIndex?_eq_none_iff : problem.flatIndex? = none ↔ ¬problem.IsFlat :=
  find?_finRange_eq_none_iff

theorem vanishingIndex?_eq_none_iff {scale : R} :
    vanishingIndex? (problem.searchDirection scale) = none ↔
      ¬problem.HasVanishingDirection scale := by
  rw [vanishingIndex?, find?_finRange_eq_none_iff, HasVanishingDirection]
  simp only [searchDirection, Vec.get_ofFn, Mat.diagonal_eq_entry]

theorem gaussSeidel_of_isFlat (hflat : problem.IsFlat) (params : RelaySweepParams R) :
    (problem.gaussSeidel params).value.IsAbandoned .degenerateInput (Candidate.zero _) := by
  cases hindex : problem.flatIndex? with
  | none => exact absurd hflat (flatIndex?_eq_none_iff.mp hindex)
  | some i =>
    simp only [Run.IsAbandoned, gaussSeidel, hindex]
    rfl

theorem gaussSeidel_degenerate_iff (params : RelaySweepParams R) :
    (problem.gaussSeidel params).value.status = .degenerateInput ↔ problem.IsFlat := by
  refine ⟨fun hstatus => ?_, fun hflat => ?_⟩
  · by_contra hflat
    obtain ⟨ended, -, heq⟩ := exists_gaussSeidel_eq problem (flatIndex?_eq_none_iff.mpr hflat) params
    rw [heq] at hstatus
    exact Residual.status_ne_degenerateInput params.tolerance ended.error hstatus
  · rw [gaussSeidel_of_isFlat hflat params]
    rfl

theorem latin_of_vanishing {params : LatinParams R}
    (hvanishing : problem.HasVanishingDirection params.scale) :
    (problem.latin params).value.IsAbandoned .degenerateInput (Candidate.zero _) := by
  cases hindex : vanishingIndex? (problem.searchDirection params.scale) with
  | none => exact absurd hvanishing (vanishingIndex?_eq_none_iff.mp hindex)
  | some i =>
    simp only [Run.IsAbandoned, latin, hindex]
    rfl

/-- With a direction that does not vanish, a run is given up for want of a factor or not at all. -/
theorem latin_of_not_vanishing {params : LatinParams R}
    (hvanishing : ¬problem.HasVanishingDirection params.scale) :
    (problem.latin params).value.status ≠ .degenerateInput ∧
      ((problem.latin params).value.status = .factorizationFailed →
        (problem.latin params).value.IsAbandoned .factorizationFailed (Candidate.zero _)) := by
  have hdirection := vanishingIndex?_eq_none_iff.mpr hvanishing
  cases hfactor : Triangle.factor? (problem.latinMatrix (problem.searchDirection params.scale)) with
  | none =>
    have hvalue : (problem.latin params).value.IsAbandoned .factorizationFailed (Candidate.zero _) := by
      simp only [Run.IsAbandoned, latin, hdirection, hfactor]
      rfl
    refine ⟨?_, fun _ => hvalue⟩
    rw [hvalue]
    rintro ⟨⟩
  | some factor =>
    obtain ⟨ended, -, heq⟩ := exists_latin_eq params hdirection hfactor
    have hstatus : (problem.latin params).value.status = .ofError ended.error params.tolerance := by
      rw [heq]
      rfl
    refine ⟨?_, fun hfailed => ?_⟩
    · rw [hstatus]
      exact Status.ofError_ne_degenerateInput _ _
    · rw [hstatus, Status.ofError] at hfailed
      split at hfailed <;> cases hfailed

theorem latin_degenerate_iff (params : LatinParams R) :
    (problem.latin params).value.status = .degenerateInput ↔
      problem.HasVanishingDirection params.scale := by
  refine ⟨fun hstatus => ?_, fun hvanishing => ?_⟩
  · by_contra hvanishing
    exact (latin_of_not_vanishing hvanishing).1 hstatus
  · rw [latin_of_vanishing hvanishing]
    rfl

/-- When the methods for relay problems give up, and what they return then. -/
structure DegeneratesExactly (problem : RelayProblem R) : Prop where
  gaussSeidel_iff (params : RelaySweepParams R) :
    (problem.gaussSeidel params).value.status = .degenerateInput ↔ problem.IsFlat
  gaussSeidel_abandoned (params : RelaySweepParams R) :
    (problem.gaussSeidel params).value.status = .degenerateInput →
      (problem.gaussSeidel params).value.IsAbandoned .degenerateInput (Candidate.zero _)
  latin_iff (params : LatinParams R) :
    (problem.latin params).value.status = .degenerateInput ↔
      problem.HasVanishingDirection params.scale
  latin_abandoned (params : LatinParams R) :
    (problem.latin params).value.status = .degenerateInput →
      (problem.latin params).value.IsAbandoned .degenerateInput (Candidate.zero _)
  latin_unfactored (params : LatinParams R) :
    (problem.latin params).value.status = .factorizationFailed →
      ¬problem.HasVanishingDirection params.scale ∧
        (problem.latin params).value.IsAbandoned .factorizationFailed (Candidate.zero _)

theorem degeneratesExactly (problem : RelayProblem R) : problem.DegeneratesExactly where
  gaussSeidel_iff := gaussSeidel_degenerate_iff
  gaussSeidel_abandoned params hstatus :=
    gaussSeidel_of_isFlat ((gaussSeidel_degenerate_iff params).mp hstatus) params
  latin_iff := latin_degenerate_iff
  latin_abandoned params hstatus := latin_of_vanishing ((latin_degenerate_iff params).mp hstatus)
  latin_unfactored params hstatus := by
    have hvanishing : ¬problem.HasVanishingDirection params.scale := fun hvanishing => by
      rw [(latin_degenerate_iff params).mpr hvanishing] at hstatus
      cases hstatus
    exact ⟨hvanishing, (latin_of_not_vanishing hvanishing).2 hstatus⟩

end RelayProblem

/-! ### What a contact solver looks at -/

/-- The solver looks at this diagonal entry of a contact: Newton's method at every one, the others at
that of the normal component. -/
def ContactSolver.LooksAt (solver : ContactSolver R) (i : Fin 3) : Prop :=
  i.val = 0 ∨ solver.solver = .newton

theorem ContactSolver.IsStock.degenerate_iff {solver : ContactSolver R} (h : solver.IsStock)
    (problem : ContactProblem R) (r : Block R 2) :
    (solver.solve problem r).value.1.status = .degenerateInput ↔
      ∃ i, solver.LooksAt i ∧ problem.matrix.diagonal i ≤ Scalar.diagonalThreshold := by
  have hnormal (hother : solver.solver ≠ .newton) :
      (∃ i, solver.LooksAt i ∧ problem.matrix.diagonal i ≤ Scalar.diagonalThreshold) ↔
        problem.normalDiagonal ≤ Scalar.diagonalThreshold := by
    constructor
    · rintro ⟨i, hnormal | hnewton, hle⟩
      · obtain rfl : i = 0 := Fin.ext hnormal
        exact hle
      · exact absurd hnewton hother
    · exact fun hle => ⟨0, .inl rfl, hle⟩
  cases h with
  | coneProjection tolerance =>
    exact (ContactProblem.projectCone_degenerate_iff tolerance).trans (hnormal nofun).symm
  | coneIteration params =>
    exact (ContactProblem.iterateCone_degenerate_iff params).trans (hnormal nofun).symm
  | cylinderProjection tolerance =>
    exact (ContactProblem.projectCylinder_degenerate_iff tolerance).trans (hnormal nofun).symm
  | newton params =>
    refine (ContactProblem.newton_degenerate_iff params).trans ⟨?_, ?_⟩
    · exact fun ⟨i, hle⟩ => ⟨i, .inr rfl, hle⟩
    · exact fun ⟨i, _, hle⟩ => ⟨i, hle⟩

namespace FrictionProblem

variable {problem : FrictionProblem R} {start : Candidate R problem.size}

/-! ### Sweeps in the plane -/

/-- A normal diagonal entry vanishes: one of those in the places `0, 2, 4, …` of the diagonal. -/
def IsPlanarFlat (problem : FrictionProblem R) : Prop :=
  ∃ (c : Fin problem.contacts) (h : 2 * c.val < problem.size),
    problem.matrix.entry ⟨2 * c.val, h⟩ ⟨2 * c.val, h⟩ ≤ Scalar.diagonalThreshold

/-- What the sweeps divide by is the entry `M[2c, 2c]`. -/
theorem planarDiagonal_eq_entry {c : Fin problem.contacts} (h : 2 * c.val < problem.size) :
    problem.planarDiagonal c = problem.matrix.entry ⟨2 * c.val, h⟩ ⟨2 * c.val, h⟩ := by
  have hplace : c.val * 2 = 2 * c.val := Nat.mul_comm ..
  simp only [planarDiagonal, Mat.entry, hplace]
  rfl

theorem flatContact?_eq_none_iff : problem.flatContact? = none ↔ ¬problem.IsPlanarFlat := by
  have hentry (c : Fin problem.contacts) : problem.planarDiagonal c ≤ Scalar.diagonalThreshold ↔
      ∃ h : 2 * c.val < problem.size,
        problem.matrix.entry ⟨2 * c.val, h⟩ ⟨2 * c.val, h⟩ ≤ Scalar.diagonalThreshold := by
    have hfits := problem.planar_fits c
    have hsize : 2 * c.val < problem.size := by
      rw [size]
      omega
    rw [planarDiagonal_eq_entry hsize, exists_prop_of_true hsize]
  rw [flatContact?, find?_finRange_eq_none_iff, IsPlanarFlat]
  exact not_congr (exists_congr hentry)

theorem planarGaussSeidel_of_isPlanarFlat (hflat : problem.IsPlanarFlat) (params : SweepParams R)
    (start : Candidate R problem.size) :
    (problem.planarGaussSeidel params start).value.IsAbandoned .degenerateInput start := by
  cases hcontact : problem.flatContact? with
  | none => exact absurd hflat (flatContact?_eq_none_iff.mp hcontact)
  | some c =>
    simp only [Run.IsAbandoned, planarGaussSeidel, hcontact]
    rfl

theorem planarGaussSeidel_degenerate_iff (params : SweepParams R)
    (start : Candidate R problem.size) :
    (problem.planarGaussSeidel params start).value.status = .degenerateInput ↔
      problem.IsPlanarFlat := by
  refine ⟨fun hstatus => ?_, fun hflat => ?_⟩
  · by_contra hflat
    rw [planarGaussSeidel, flatContact?_eq_none_iff.mpr hflat] at hstatus
    obtain ⟨ended, -, heq⟩ := problem.exists_runMethod_eq .planarGaussSeidel params.iterationCap
      params.tolerance params.verbosity id (problem.planarStep params) start
    rw [heq] at hstatus
    exact Residual.status_ne_degenerateInput params.tolerance ended.error hstatus
  · rw [planarGaussSeidel_of_isPlanarFlat hflat params start]
    rfl

/-! ### Sweeps in space -/

variable {solver : ContactSolver R} {thresholds? : Option (List R)} {relaxation : R}

/-- A diagonal entry of the contact that the solver looks at vanishes. -/
def IsFlatAt (problem : FrictionProblem R) (solver : ContactSolver R) (c : Fin problem.contacts) :
    Prop :=
  problem.Fits c ∧ ∃ (i : Fin 3) (h : 3 * c.val + i.val < problem.size), solver.LooksAt i ∧
    problem.matrix.entry ⟨3 * c.val + i.val, h⟩ ⟨3 * c.val + i.val, h⟩ ≤ Scalar.diagonalThreshold

/-- A contact is flat exactly if its solver finds a vanishing entry in the block handed to it. -/
theorem isFlatAt_iff {c : Fin problem.contacts} (fits : problem.Fits c) :
    problem.IsFlatAt solver c ↔ ∃ i, solver.LooksAt i ∧
      (Mat.diagonalBlock problem.matrix (c.val * 3) fits).diagonal i ≤
        Scalar.diagonalThreshold := by
  have hentry (i : Fin 3) (h : 3 * c.val + i.val < problem.size) :
      (Mat.diagonalBlock problem.matrix (c.val * 3) fits).diagonal i =
        problem.matrix.entry ⟨3 * c.val + i.val, h⟩ ⟨3 * c.val + i.val, h⟩ := by
    have hplace : c.val * 3 + i.val = 3 * c.val + i.val := by omega
    rw [Mat.diagonal_diagonalBlock, Mat.diagonal_eq_entry]
    simp only [hplace]
  constructor
  · rintro ⟨-, i, h, hlooks, hle⟩
    exact ⟨i, hlooks, hentry i h ▸ hle⟩
  · rintro ⟨i, hlooks, hle⟩
    have h : 3 * c.val + i.val < problem.size := by
      rw [size]
      omega
    exact ⟨fits, i, h, hlooks, hentry i h ▸ hle⟩

/-- Where a sweep over a list of contacts has stopped: at the first flat one. Its block and all behind
it are as they were. -/
structure StopsAt (problem : FrictionProblem R) (solver : ContactSolver R)
    (contacts : List (Fin problem.contacts)) (r r' : Vec R problem.size) (c : Fin problem.contacts) :
    Prop where
  flat : problem.IsFlatAt solver c
  first : ∀ d ∈ contacts, d < c → ¬problem.IsFlatAt solver d
  unchanged : ∀ (d : Fin problem.contacts) (fits : problem.Fits d), c ≤ d →
    problem.ownReaction d fits r' = problem.ownReaction d fits r

section Stock

variable (hstock : solver.IsStock)

include hstock

/-- An update gives up at a flat contact, before it changes anything. -/
theorem updateContact_degenerate {c : Fin problem.contacts} {swept : Swept R problem.size}
    {contact : Nat} {r : Vec R problem.size}
    (h : (problem.updateContact relaxation solver thresholds? c swept).value =
      .error (.degenerate contact r)) :
    problem.IsFlatAt solver c ∧ r = swept.reaction := by
  cases hthreshold : thresholdAt thresholds? c with
  | error fault =>
    simp only [updateContact, hthreshold] at h
    cases h
  | ok threshold? =>
    by_cases fits : problem.Fits c
    · rw [value_updateContact hthreshold fits, value_settleContact] at h
      split at h
      · rename_i hstatus
        have hflat := (isFlatAt_iff fits).mpr ((hstock.degenerate_iff _ _).mp hstatus)
        cases h
        exact ⟨hflat, rfl⟩
      · cases h
    · simp only [updateContact, hthreshold, fits, dite_false] at h
      cases h

/-- An update that succeeds was made at a contact that is not flat, and changes its block only. -/
theorem updateContact_ok {c : Fin problem.contacts} {swept next : Swept R problem.size}
    (h : (problem.updateContact relaxation solver thresholds? c swept).value = .ok next) :
    ¬problem.IsFlatAt solver c ∧
      ∃ part : Block R 2, next.reaction = Vec.splice swept.reaction (c.val * 3) part := by
  obtain ⟨⟨threshold?, hthreshold⟩, fits⟩ := domain_of_updateContact h
  rw [value_updateContact hthreshold fits, value_settleContact] at h
  split at h
  · cases h
  · rename_i hstatus
    obtain rfl := Except.ok.inj h
    exact ⟨fun hflat => hstatus ((hstock.degenerate_iff _ _).mpr ((isFlatAt_iff fits).mp hflat)),
      _, rfl⟩

theorem sweepContacts_ok {contacts : List (Fin problem.contacts)} {swept ended : Swept R problem.size}
    (h : (problem.sweepContacts relaxation solver thresholds? contacts swept).value = .ok ended) :
    ∀ c ∈ contacts, ¬problem.IsFlatAt solver c := by
  induction contacts generalizing swept with
  | nil => exact nofun
  | cons c rest ih =>
    rw [value_sweepContacts_cons] at h
    cases hfirst : (problem.updateContact relaxation solver thresholds? c swept).value with
    | error halt =>
      rw [hfirst] at h
      cases h
    | ok next =>
      rw [hfirst] at h
      exact List.forall_mem_cons.mpr ⟨(updateContact_ok hstock hfirst).1, ih h⟩

/-- A sweep in the order of the contacts gives up at the first flat one. -/
theorem sweepContacts_stopsAt {contacts : List (Fin problem.contacts)}
    (hsorted : contacts.Pairwise (· < ·)) {swept : Swept R problem.size} {contact : Nat}
    {r : Vec R problem.size}
    (h : (problem.sweepContacts relaxation solver thresholds? contacts swept).value =
      .error (.degenerate contact r)) :
    ∃ c ∈ contacts, problem.StopsAt solver contacts swept.reaction r c := by
  induction contacts generalizing swept with
  | nil => cases h
  | cons c rest ih =>
    obtain ⟨hlt, hrest⟩ := List.pairwise_cons.mp hsorted
    rw [value_sweepContacts_cons] at h
    cases hfirst : (problem.updateContact relaxation solver thresholds? c swept).value with
    | error halt =>
      rw [hfirst] at h
      obtain rfl := Except.error.inj h
      obtain ⟨hflat, rfl⟩ := updateContact_degenerate hstock hfirst
      refine ⟨c, List.mem_cons_self, hflat, fun d hd hless => ?_, fun _ _ _ => rfl⟩
      rcases List.mem_cons.mp hd with rfl | hd
      · exact absurd hless (Nat.lt_irrefl _)
      · exact absurd hless (Nat.lt_asymm (hlt d hd))
    | ok next =>
      rw [hfirst] at h
      obtain ⟨hnot, part, hnext⟩ := updateContact_ok hstock hfirst
      obtain ⟨stop, hstop, hflat, hbefore, hunchanged⟩ := ih hrest h
      refine ⟨stop, List.mem_cons_of_mem _ hstop, hflat, ?_, fun d fits hle => ?_⟩
      · exact fun d hd hless => (List.mem_cons.mp hd).elim (fun heq => heq ▸ hnot)
          fun hd => hbefore d hd hless
      · -- the update in front belongs to an earlier contact
        have hne : d ≠ c := Fin.ne_of_gt (Nat.lt_of_lt_of_le (hlt stop hstop) hle)
        rw [hunchanged d fits hle, hnext, ownReaction, ownReaction,
          Vec.slice_splice_of_disjoint _ _ _ (disjoint_blocks hne 3)]

end Stock

/-! ### Runs in space -/

variable {params : SweepParams R} {run : Run R problem.size}

/-- What a run leaves behind that gives up at a contact, in its first sweep. -/
structure GivesUpAt (problem : FrictionProblem R) (solver : ContactSolver R)
    (start : Candidate R problem.size) (run : Run R problem.size) (c : Fin problem.contacts) : Prop
    extends GivesUp 1 run where
  flat : problem.IsFlatAt solver c
  first : ∀ d < c, ¬problem.IsFlatAt solver d
  unchanged : ∀ (d : Fin problem.contacts) (fits : problem.Fits d), c ≤ d →
    problem.ownReaction d fits run.reaction = problem.ownReaction d fits start.reaction

theorem sweepStep_givesUpAt (hstock : solver.IsStock)
    (h : (problem.sweepStep params solver thresholds? (sweepStart start)).value =
      .error (.degenerate run)) : ∃ c, problem.GivesUpAt solver start run c := by
  have hup : GivesUp 1 run := givesUp_of_sweepStep h
  rw [value_sweepStep] at h
  split at h
  · cases h
  · rename_i contact r hsweep
    cases h
    obtain ⟨c, -, hstop⟩ :=
      sweepContacts_stopsAt hstock (List.pairwise_lt_finRange _) hsweep
    exact ⟨c, hup, hstop.flat, fun d => hstop.first d (List.mem_finRange d), hstop.unchanged⟩
  · cases h

/-- A run that is degenerate has given up in its first sweep. -/
theorem gaussSeidel_givesUpAt (hstock : solver.IsStock)
    (hrun : (problem.gaussSeidel params solver thresholds? start).value = .ok run)
    (hstatus : run.status = .degenerateInput) :
    (0 < params.iterationCap ∧ Scalar.BelowTop params.tolerance) ∧
      ∃ c, problem.GivesUpAt solver start run c := by
  obtain ⟨hcap, htolerance, hstep⟩ := (final_eq_error_iff params hstock.judgesMatrix).mp
    ((gaussSeidel_eq_degenerate_iff params hstatus).mp hrun)
  exact ⟨⟨hcap, htolerance⟩, sweepStep_givesUpAt hstock hstep⟩

/-- A flat contact stops the first sweep, if there is one. -/
theorem status_of_isFlatAt (hstock : solver.IsStock) (hcap : 0 < params.iterationCap)
    (htolerance : Scalar.BelowTop params.tolerance) {c : Fin problem.contacts}
    (hflat : problem.IsFlatAt solver c)
    (hrun : (problem.gaussSeidel params solver thresholds? start).value = .ok run) :
    run.status = .degenerateInput := by
  cases hstep : (problem.sweepStep params solver thresholds? (sweepStart start)).value with
  | ok outcome =>
    obtain ⟨swept, hswept, -⟩ := exists_swept_of_sweepStep hstep
    exact absurd hflat (sweepContacts_ok hstock hswept c (List.mem_finRange c))
  | error halt =>
    rw [gaussSeidel_of_halt (Progress.final_eq_error hcap htolerance hstep)] at hrun
    obtain rfl := Halt.eq_degenerate hrun
    exact (givesUp_of_sweepStep hstep).status_eq

/-- When sweeps in space are degenerate, and what they return then. -/
structure SweepsDegenerate (problem : FrictionProblem R) (params : SweepParams R)
    (solver : ContactSolver R) (start : Candidate R problem.size) (run : Run R problem.size) : Prop
    where
  degenerate_iff : run.status = .degenerateInput ↔
    (0 < params.iterationCap ∧ Scalar.BelowTop params.tolerance) ∧
      ∃ c, problem.IsFlatAt solver c
  givesUpAt : run.status = .degenerateInput → ∃ c, problem.GivesUpAt solver start run c

theorem sweepsDegenerate_of_gaussSeidel (hstock : solver.IsStock)
    (hrun : (problem.gaussSeidel params solver thresholds? start).value = .ok run) :
    problem.SweepsDegenerate params solver start run where
  degenerate_iff := by
    constructor
    · intro hstatus
      obtain ⟨hentered, c, hup⟩ := gaussSeidel_givesUpAt hstock hrun hstatus
      exact ⟨hentered, c, hup.flat⟩
    · rintro ⟨⟨hcap, htolerance⟩, c, hflat⟩
      exact status_of_isFlatAt hstock hcap htolerance hflat hrun
  givesUpAt hstatus := (gaussSeidel_givesUpAt hstock hrun hstatus).2

/-- When the methods that look at the diagonal of a contact give up, and what they return then. -/
structure DegeneratesExactly (problem : FrictionProblem R) : Prop where
  planar_iff (params : SweepParams R) (start : Candidate R problem.size) :
    (problem.planarGaussSeidel params start).value.status = .degenerateInput ↔
      problem.IsPlanarFlat
  planar_abandoned (params : SweepParams R) (start : Candidate R problem.size) :
    (problem.planarGaussSeidel params start).value.status = .degenerateInput →
      (problem.planarGaussSeidel params start).value.IsAbandoned .degenerateInput start
  spatial (params : SweepParams R) (solver : ContactSolver R) (thresholds? : Option (List R))
      (start : Candidate R problem.size) :
    solver.IsStock → Yields (problem.gaussSeidel params solver thresholds? start).value
      (problem.IsSweepable thresholds?) (problem.SweepsDegenerate params solver start)

theorem degeneratesExactly (problem : FrictionProblem R) : problem.DegeneratesExactly where
  planar_iff := planarGaussSeidel_degenerate_iff
  planar_abandoned params start hstatus := planarGaussSeidel_of_isPlanarFlat
    ((planarGaussSeidel_degenerate_iff params start).mp hstatus) params start
  spatial params solver _ start hstock :=
    ⟨fun hdomain => hdomain.exists_gaussSeidel_eq_ok params solver start,
      fun _ => sweepsDegenerate_of_gaussSeidel hstock⟩

end FrictionProblem

/-- Runs are degenerate exactly where a diagonal entry that they look at vanishes. -/
theorem runs_degenerate_exactly (R : Type) [Scalar R] :
    (∀ problem : RelayProblem R, problem.DegeneratesExactly) ∧
      ∀ problem : FrictionProblem R, problem.DegeneratesExactly :=
  ⟨RelayProblem.degeneratesExactly, FrictionProblem.degeneratesExactly⟩

namespace FrictionProblem

/-- Two contacts at binary64. The second one has no matrix of its own. -/
def looseContacts : FrictionProblem Float where
  contacts := 2
  tangents := 2
  matrix := Mat.ofFn fun i j => if i = j ∧ i.val < 3 then 1 else 0
  offset := #v[-1, 0.5, 0, -1, 0, 0]
  friction := #v[0.3, 0.3]
  tangents_mem := spatial_tangents
  friction_nonneg := by
    have h : ∀ c : Fin 2, (0 : Float) ≤ (#v[0.3, 0.3] : Vec Float 2).get c := by decide +kernel
    exact h

/-- The first sweep updates the first contact and gives up at the second one. -/
theorem looseContacts_giveUp :
    (ContactSolver.coneProjection (1e-2 : Float)).IsStock ∧
    ∃ run, (looseContacts.gaussSeidel (tenSweeps 1e-2) (.coneProjection 1e-2) none
        (Candidate.zero 6)).value = .ok run ∧
      looseContacts.GivesUpAt (.coneProjection 1e-2) (Candidate.zero 6) run (1 : Fin 2) := by
  have hstock : (ContactSolver.coneProjection (1e-2 : Float)).IsStock := .coneProjection _
  have hsecond : looseContacts.IsFlatAt (.coneProjection 1e-2) (1 : Fin 2) :=
    ⟨by decide, 0, by decide, .inl rfl, by decide +kernel⟩
  have hfirst : ¬looseContacts.IsFlatAt (.coneProjection 1e-2) (0 : Fin 2) := by
    rintro ⟨fits, i, h, hnormal | hnewton, hle⟩
    · obtain rfl : i = 0 := Fin.ext hnormal
      exact absurd hle (by decide +revert +kernel)
    · cases hnewton
  have hyields := ((runs_degenerate_exactly Float).2 looseContacts).spatial (tenSweeps 1e-2) _ none
    (Candidate.zero 6) hstock
  obtain ⟨run, hrun⟩ := hyields.exists_eq_ok (isSweepable_none rfl)
  have hsweeps := hyields.good_of_eq_ok run hrun
  have hstatus := hsweeps.degenerate_iff.mpr
    ⟨⟨Nat.succ_pos 9, by decide +kernel⟩, (1 : Fin 2), hsecond⟩
  obtain ⟨c, hup⟩ := hsweeps.givesUpAt hstatus
  refine ⟨hstock, run, hrun, ?_⟩
  have hcases : ∀ c : Fin 2, c = 0 ∨ c = 1 := by decide
  rcases hcases c with rfl | rfl
  · exact absurd hup.flat hfirst
  · exact hup

end FrictionProblem

end Complementarity
