import Complementarity.OneContact.Stock

/-!
When a contact counts as degenerate.

The stock solvers look at the diagonal of the contact's matrix before they do anything else, and give
up at nothing later. So the verdict depends neither on the reaction they are given nor on the
velocities of the contact.
-/

namespace Complementarity

variable {R : Type} [Scalar R]

/-! ### The verdict of each solver -/

namespace ContactProblem

variable {problem : ContactProblem R} {r : Block R 2}

theorem status_guarded {flat : Prop} [Decidable flat] {answer : ContactReport R × Block R 2}
    (h : answer.1.status ≠ .degenerateInput) :
    (if flat then (ContactReport.degenerate, r) else answer).1.status = .degenerateInput ↔
      flat := by
  by_cases hflat : flat
  · rw [if_pos hflat]
    exact iff_of_true rfl hflat
  · rw [if_neg hflat]
    exact iff_of_false h hflat

theorem projectCone_degenerate_iff (tolerance : R) :
    (problem.projectCone tolerance r).1.status = .degenerateInput ↔
      problem.normalDiagonal ≤ Scalar.diagonalThreshold :=
  status_guarded (Status.ofError_ne_degenerateInput _ _)

theorem projectCylinder_degenerate_iff (tolerance : R) :
    (problem.projectCylinder tolerance r).1.status = .degenerateInput ↔
      problem.normalDiagonal ≤ Scalar.diagonalThreshold :=
  status_guarded (Status.ofError_ne_degenerateInput _ _)

theorem iterateCone_degenerate_iff (params : ConeIterationParams R) :
    (problem.iterateCone params r).1.status = .degenerateInput ↔
      problem.normalDiagonal ≤ Scalar.diagonalThreshold :=
  status_guarded (Status.ofError_ne_degenerateInput _ _)

theorem newton_degenerate_iff (params : NewtonParams R) :
    (problem.newton params r).value.1.status = .degenerateInput ↔ problem.IsFlat := by
  rw [newton, apply_ite Traced.value]
  exact status_guarded (Status.ofError_ne_degenerateInput _ _)

end ContactProblem

/-! ### Stock solvers -/

namespace ContactSolver

/-- The solvers that a configuration can name, with any parameters. -/
inductive IsStock : ContactSolver R → Prop
  | coneProjection (tolerance : R) : IsStock (.coneProjection tolerance)
  | coneIteration (params : ContactProblem.ConeIterationParams R) : IsStock (.coneIteration params)
  | cylinderProjection (tolerance : R) : IsStock (.cylinderProjection tolerance)
  | newton (params : ContactProblem.NewtonParams R) : IsStock (.newton params)

/-- Contacts with the same matrix get the same verdict. -/
def JudgesMatrix (solver : ContactSolver R) : Prop :=
  ∀ (problem other : ContactProblem R) (r s : Block R 2), problem.matrix = other.matrix →
    ((solver.solve problem r).value.1.status = .degenerateInput ↔
      (solver.solve other s).value.1.status = .degenerateInput)

theorem IsStock.judgesMatrix {solver : ContactSolver R} (h : solver.IsStock) :
    solver.JudgesMatrix := by
  intro problem other r s hmatrix
  have hnormal : problem.normalDiagonal = other.normalDiagonal := by
    rw [ContactProblem.normalDiagonal, hmatrix, ContactProblem.normalDiagonal]
  cases h with
  | coneProjection tolerance =>
    refine (ContactProblem.projectCone_degenerate_iff tolerance).trans ?_
    rw [hnormal]
    exact (ContactProblem.projectCone_degenerate_iff tolerance).symm
  | coneIteration params =>
    refine (ContactProblem.iterateCone_degenerate_iff params).trans ?_
    rw [hnormal]
    exact (ContactProblem.iterateCone_degenerate_iff params).symm
  | cylinderProjection tolerance =>
    refine (ContactProblem.projectCylinder_degenerate_iff tolerance).trans ?_
    rw [hnormal]
    exact (ContactProblem.projectCylinder_degenerate_iff tolerance).symm
  | newton params =>
    refine (ContactProblem.newton_degenerate_iff params).trans ?_
    rw [ContactProblem.IsFlat, hmatrix, ← ContactProblem.IsFlat]
    exact (ContactProblem.newton_degenerate_iff params).symm

/-- Every configured solver is a stock one. -/
theorem isStock_of_ofNode {node : Node R} {solver : ContactSolver R}
    (h : ofNode node = .ok solver) : solver.IsStock := by
  unfold ofNode at h
  cases htolerance : Failure.ofOption (R := R) .missingParameter (node.real? .tolerance) with
  | error failure =>
    rw [htolerance] at h
    cases h
  | ok tolerance =>
    rw [htolerance] at h
    simp only [bind, Except.bind] at h
    split at h
    · obtain rfl := Except.ok.inj h
      exact .coneProjection tolerance
    · split at h
      · cases h
      · obtain rfl := Except.ok.inj h
        exact .coneIteration _
    · obtain rfl := Except.ok.inj h
      exact .cylinderProjection tolerance
    · split at h
      · cases h
      · obtain rfl := Except.ok.inj h
        exact .newton _
    · cases h

end ContactSolver

end Complementarity
