import Complementarity.Proofs.SweepRuns

/-!
The domain of Gauss-Seidel sweeps.

A sweep reaches for three components of every contact and, under fixed thresholds, for the threshold
of every contact. In space, with a threshold for each contact, nothing is missing: sweeps always
return a run, and so does the Tresca method, which makes its own thresholds.
-/

namespace Complementarity

/-- An answer that is there throughout a domain, and good wherever it is there. -/
structure Yields {B : Type} (answer : Except Fault B) (domain : Prop) (good : B → Prop) : Prop where
  exists_eq_ok : domain → ∃ b, answer = .ok b
  good_of_eq_ok : ∀ b, answer = .ok b → good b

namespace FrictionProblem

/-- Contacts in space may have two tangential components. -/
theorem spatial_tangents : (2 : Nat) = 1 ∨ (2 : Nat) = 2 :=
  .inr rfl

variable {R : Type} [Scalar R] {problem : FrictionProblem R}

/-- Contacts have three components each, and none lacks a threshold if there are any. -/
structure IsSweepable (problem : FrictionProblem R) (thresholds? : Option (List R)) : Prop where
  spatial : problem.tangents = 2
  enough : ∀ thresholds, thresholds? = some thresholds → problem.contacts ≤ thresholds.length

variable {thresholds? : Option (List R)}

theorem value_settleContact (relaxation : R) (solver : SolverId) (c : Fin problem.contacts)
    (swept : Swept R problem.size) (old : Block R 2) (answer : ContactReport R × Block R 2) :
    (problem.settleContact relaxation solver c swept old answer).value =
      if answer.1.status = .degenerateInput then .error (.degenerate c swept.reaction)
      else .ok (problem.relaxContact relaxation c swept old answer.2) := by
  unfold settleContact
  split
  · rename_i hstatus
    rw [if_pos hstatus]; rfl
  · rename_i hstatus
    rw [if_neg hstatus]; rfl

theorem value_sweepContacts_cons (relaxation : R) (solver : ContactSolver R)
    (c : Fin problem.contacts) (rest : List (Fin problem.contacts)) (swept : Swept R problem.size) :
    (problem.sweepContacts relaxation solver thresholds? (c :: rest) swept).value =
      (problem.updateContact relaxation solver thresholds? c swept).value.bind fun swept =>
        (problem.sweepContacts relaxation solver thresholds? rest swept).value := by
  simp only [sweepContacts, Traced.value_bind]
  generalize (problem.updateContact relaxation solver thresholds? c swept).value = answer
  rcases answer with _ | _ <;> rfl

theorem IsSweepable.exists_thresholdAt (h : problem.IsSweepable thresholds?)
    (c : Fin problem.contacts) :
    ∃ threshold?, thresholdAt thresholds? c = .ok threshold? := by
  unfold thresholdAt
  cases hthresholds : thresholds? with
  | none => exact ⟨none, rfl⟩
  | some thresholds =>
    have hlt : c.val < thresholds.length := Nat.lt_of_lt_of_le c.isLt (h.enough _ hthresholds)
    exact ⟨some thresholds[c.val], by simp [List.getElem?_eq_getElem hlt]⟩

/-- The update of a contact that lacks nothing is the answer of its solver, settled. -/
theorem value_updateContact {c : Fin problem.contacts} {threshold? : Option R}
    (hthreshold : thresholdAt thresholds? c = .ok threshold?) (fits : problem.Fits c)
    (relaxation : R) (solver : ContactSolver R) (swept : Swept R problem.size) :
    (problem.updateContact relaxation solver thresholds? c swept).value =
      let old := problem.ownReaction c fits swept.reaction
      let answer := (solver.solve
        (problem.contactProblem c fits swept.reaction threshold?) old).value
      (problem.settleContact relaxation solver.solver c swept old answer).value := by
  simp only [updateContact, hthreshold, fits, dite_true, Traced.value_bind]

/-- In the domain the update of a contact is the answer of its solver, settled. -/
theorem IsSweepable.exists_updateContact_eq (h : problem.IsSweepable thresholds?)
    (relaxation : R) (solver : ContactSolver R) (c : Fin problem.contacts)
    (swept : Swept R problem.size) :
    ∃ (threshold? : Option R) (fits : problem.Fits c),
      (problem.updateContact relaxation solver thresholds? c swept).value =
        let old := problem.ownReaction c fits swept.reaction
        let answer := (solver.solve
          (problem.contactProblem c fits swept.reaction threshold?) old).value
        (problem.settleContact relaxation solver.solver c swept old answer).value := by
  obtain ⟨threshold?, hthreshold⟩ := h.exists_thresholdAt c
  have fits := problem.fits_of_spatial h.spatial c
  exact ⟨threshold?, fits, value_updateContact hthreshold fits relaxation solver swept⟩

theorem IsSweepable.updateContact_ne_fault (h : problem.IsSweepable thresholds?)
    (relaxation : R) (solver : ContactSolver R) (c : Fin problem.contacts)
    (swept : Swept R problem.size) (fault : Fault) :
    (problem.updateContact relaxation solver thresholds? c swept).value ≠
      .error (.fault fault) := by
  obtain ⟨threshold?, fits, heq⟩ := h.exists_updateContact_eq relaxation solver c swept
  rw [heq, value_settleContact]
  split <;> simp

theorem IsSweepable.sweepContacts_ne_fault (h : problem.IsSweepable thresholds?)
    (relaxation : R) (solver : ContactSolver R) (contacts : List (Fin problem.contacts))
    (swept : Swept R problem.size) (fault : Fault) :
    (problem.sweepContacts relaxation solver thresholds? contacts swept).value ≠
      .error (.fault fault) := by
  induction contacts generalizing swept with
  | nil => exact nofun
  | cons c rest ih =>
    rw [value_sweepContacts_cons]
    cases hupdate : (problem.updateContact relaxation solver thresholds? c swept).value with
    | error halt =>
      -- a degenerate contact stops the sweep as well, but is no fault
      intro hfault
      obtain rfl := Except.error.inj hfault
      exact h.updateContact_ne_fault relaxation solver c swept fault hupdate
    | ok next => exact ih next

theorem IsSweepable.sweepStep_ne_fault (h : problem.IsSweepable thresholds?)
    (params : SweepParams R) (solver : ContactSolver R)
    (progress : Progress (Residual R) (SweepState R problem.size)) (fault : Fault) :
    (problem.sweepStep params solver thresholds? progress).value ≠ .error (.fault fault) := by
  rw [value_sweepStep]
  split
  · rename_i fault' hsweep
    exact absurd hsweep (h.sweepContacts_ne_fault _ _ _ _ fault')
  · simp
  · simp

/-- In the domain, sweeps return a run whatever the parameters. -/
theorem IsSweepable.exists_gaussSeidel_eq_ok (h : problem.IsSweepable thresholds?)
    (params : SweepParams R) (solver : ContactSolver R) (start : Candidate R problem.size) :
    ∃ run, (problem.gaussSeidel params solver thresholds? start).value = .ok run := by
  rw [value_gaussSeidel]
  split
  · rename_i fault hfinal
    obtain ⟨progress, -, -, -, hstep⟩ := Progress.gives_up_of_final hfinal
    exact absurd hstep (h.sweepStep_ne_fault params solver progress fault)
  · exact ⟨_, rfl⟩
  · exact ⟨_, rfl⟩

/-- The thresholds that the Tresca method fixes are one for each contact. -/
theorem isSweepable_thresholdsAt (hspatial : problem.tangents = 2) (r : Vec R problem.size) :
    problem.IsSweepable (some (problem.thresholdsAt r)) := by
  refine ⟨hspatial, fun thresholds heq => ?_⟩
  obtain rfl := Option.some.inj heq
  simp [thresholdsAt]

theorem isSweepable_none (hspatial : problem.tangents = 2) : problem.IsSweepable none :=
  ⟨hspatial, nofun⟩

theorem trescaStep_ne_fault (hspatial : problem.tangents = 2) (params : TrescaParams R)
    (progress : Progress (Residual R) (TrescaState R problem.size)) (fault : Fault) :
    (problem.trescaStep params progress).value ≠ .error (.fault fault) := by
  rw [value_trescaStep]
  obtain ⟨run, hrun⟩ := (isSweepable_thresholdsAt hspatial
    progress.state.candidate.reaction).exists_gaussSeidel_eq_ok
      { params.inner with
        tolerance := innerToleranceAfter params progress.error progress.state.innerTolerance }
      params.solver progress.state.candidate
  dsimp only
  rw [hrun]
  dsimp only
  split <;> simp

/-- In space, the Tresca method returns a run whatever the parameters. -/
theorem exists_trescaFixedPoint_eq_ok (hspatial : problem.tangents = 2) (params : TrescaParams R)
    (start : Candidate R problem.size) :
    ∃ run, (problem.trescaFixedPoint params start).value = .ok run := by
  rw [value_trescaFixedPoint]
  split
  · rename_i fault hfinal
    obtain ⟨progress, -, -, -, hstep⟩ := Progress.gives_up_of_final hfinal
    exact absurd hstep (trescaStep_ne_fault hspatial params progress fault)
  · exact ⟨_, rfl⟩
  · exact ⟨_, rfl⟩

end FrictionProblem

end Complementarity
