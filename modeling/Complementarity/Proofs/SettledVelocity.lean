import Complementarity.Proofs.SweepDomain

/-!
The velocity of a finished run.

Whichever way a run ends, the velocity it returns is the one of the reaction it returns. Only a run
in the plane that gives up before its first sweep leaves both as they were handed in.
-/

namespace Complementarity.FrictionProblem

variable {R : Type} [Scalar R] {problem : FrictionProblem R}

/-- A method that measures every candidate returns a settled one. -/
theorem Measures.runMethod_isSettled {S : Type} {candidate : S → Candidate R problem.size}
    {advance : Iteration R (Residual R) Empty S} (h : problem.Measures candidate advance)
    (method : Method) (cap : Nat) (tolerance : R) (verbosity : UInt8) (start : S) :
    problem.IsSettled (problem.runMethod method cap tolerance verbosity candidate advance
      start).value.toCandidate := by
  obtain ⟨ended, hfinal, heq⟩ :=
    problem.exists_runMethod_eq method cap tolerance verbosity candidate advance start
  rw [heq]
  exact problem.settleVelocity_isSettled (h.isMeasured (Progress.ends_of_final hfinal).reached)

/-- In the plane a run settles its velocity unless it gives up at a flat contact. -/
theorem planarGaussSeidel_isSettled (problem : FrictionProblem R) (params : SweepParams R)
    (start : Candidate R problem.size)
    (hstatus : (problem.planarGaussSeidel params start).value.status ≠ .degenerateInput) :
    problem.IsSettled (problem.planarGaussSeidel params start).value.toCandidate := by
  unfold planarGaussSeidel at hstatus ⊢
  split
  · rename_i c hflat
    rw [hflat] at hstatus
    exact absurd rfl hstatus
  · exact (problem.planarStep_measures params).runMethod_isSettled _ _ _ _ _

/-- All methods return the velocity of the reaction they return, whatever their parameters. -/
structure SettlesVelocity (problem : FrictionProblem R) (start : Candidate R problem.size) :
    Prop where
  deSaxceFixedPoint (params : ProjectionParams R) :
    problem.IsSettled (problem.deSaxceFixedPoint params start).value.toCandidate
  fixedPointProjection (params : ProjectionParams R) :
    problem.IsSettled (problem.fixedPointProjection params start).value.toCandidate
  extraGradient (params : ProjectionParams R) :
    problem.IsSettled (problem.extraGradient params start).value.toCandidate
  hyperplaneProjection (params : ProjectionParams R) (relaxation : R) :
    problem.IsSettled (problem.hyperplaneProjection params relaxation start).value.toCandidate
  planarGaussSeidel (params : SweepParams R) :
    (problem.planarGaussSeidel params start).value.status ≠ .degenerateInput →
      problem.IsSettled (problem.planarGaussSeidel params start).value.toCandidate
  gaussSeidel (params : SweepParams R) (solver : ContactSolver R) (thresholds? : Option (List R)) :
    Yields (problem.gaussSeidel params solver thresholds? start).value
      (problem.IsSweepable thresholds?) fun run => problem.IsSettled run.toCandidate
  trescaFixedPoint (params : TrescaParams R) :
    Yields (problem.trescaFixedPoint params start).value (problem.tangents = 2)
      fun run => problem.IsSettled run.toCandidate

/-- On every problem, from every start, with all parameters, no way of ending a run leaves a
velocity behind that belongs to another reaction. -/
theorem settles_velocity (problem : FrictionProblem R) (start : Candidate R problem.size) :
    problem.SettlesVelocity start where
  deSaxceFixedPoint params := (problem.deSaxceStep_measures params).runMethod_isSettled _ _ _ _ _
  fixedPointProjection params :=
    (problem.projectionStep_measures params).runMethod_isSettled _ _ _ _ _
  extraGradient params := (problem.extraGradientStep_measures params).runMethod_isSettled _ _ _ _ _
  hyperplaneProjection params relaxation :=
    (problem.hyperplaneStep_measures params relaxation).runMethod_isSettled _ _ _ _ _
  planarGaussSeidel params := problem.planarGaussSeidel_isSettled params start
  gaussSeidel params solver _ :=
    ⟨fun hdomain => hdomain.exists_gaussSeidel_eq_ok params solver start,
      fun _ => gaussSeidel_isSettled⟩
  trescaFixedPoint params :=
    ⟨fun hspatial => exists_trescaFixedPoint_eq_ok hspatial params start,
      fun _ => trescaFixedPoint_isSettled⟩

end Complementarity.FrictionProblem
