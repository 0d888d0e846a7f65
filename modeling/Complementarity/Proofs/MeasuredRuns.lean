import Complementarity.Friction.ExtraGradient
import Complementarity.Friction.FixedPoint
import Complementarity.Friction.Hyperplane
import Complementarity.Friction.PlanarGaussSeidel
import Complementarity.Proofs.Loops
import Complementarity.Relay.GaussSeidel

/-!
Runs that measure every reaction they reach.

An iteration of these methods ends by computing the velocity of its reaction and the error of the
two. So at the head of every later iteration the error and the velocity belong to the current
reaction, and a run only has to look after the velocity if it makes no iteration.
-/

namespace Complementarity

variable {R : Type} [Scalar R]

namespace Residual

variable {tolerance : R} {e : Residual R}

/-- Not larger than the tolerance. Before the first measurement that takes an infinite one. -/
def AtMost (tolerance : R) : Residual R → Prop
  | unmeasured => Scalar.IsTop tolerance
  | measured error => error ≤ tolerance

theorem status_eq_converged : e.status tolerance = .converged ↔ e.AtMost tolerance := by
  cases e with
  | unmeasured => by_cases h : Scalar.IsTop tolerance <;> simp [status, AtMost, h]
  | measured error => by_cases h : error ≤ tolerance <;> simp [status, Status.ofError, AtMost, h]

/-- A comparison with the tolerance has two outcomes only. -/
theorem status_cases (tolerance : R) (e : Residual R) :
    e.status tolerance = .converged ∨ e.status tolerance = .notConverged := by
  cases e with
  | unmeasured => by_cases h : Scalar.IsTop tolerance <;> simp [status, h]
  | measured error => by_cases h : error ≤ tolerance <;> simp [status, Status.ofError, h]

/-- Errors alone make no run degenerate. -/
theorem status_ne_degenerateInput (tolerance : R) (e : Residual R) :
    e.status tolerance ≠ .degenerateInput := by
  rcases status_cases tolerance e with h | h <;>
    · rw [h]
      exact nofun

theorem status_eq_notConverged : e.status tolerance = .notConverged ↔ ¬e.AtMost tolerance := by
  rw [← status_eq_converged]
  rcases status_cases tolerance e with h | h <;> simp [h]

/-- The summary of iterations that ended with this error. -/
def outcome (tolerance : R) (iterations : Nat) (e : Residual R) : Outcome R :=
  { status := e.status tolerance, iterations, residual := e.reported }

end Residual

namespace FrictionProblem

variable (problem : FrictionProblem R)

/-- The velocity of a candidate is the one of its reaction. -/
def IsSettled (candidate : Candidate R problem.size) : Prop :=
  candidate.velocity = problem.velocity candidate.reaction

/-- Every iteration measures the candidate it reaches. -/
def Measures {H S : Type} (candidate : S → Candidate R problem.size)
    (advance : Iteration R (Residual R) H S) : Prop :=
  ∀ progress outcome, (advance progress).value = .ok outcome →
    outcome.1 = .measured (problem.error (candidate outcome.2).reaction) ∧
      problem.IsSettled (candidate outcome.2)

/-- Where a run that measures stands after some iterations. -/
structure IsMeasured (iterations : Nat) (error : Residual R)
    (candidate : Candidate R problem.size) : Prop where
  error_eq : 0 < iterations → error = .measured (problem.error candidate.reaction)
  settled : 0 < iterations → problem.IsSettled candidate

variable {problem}

/-- Wherever a loop that measures comes, its error and its velocity belong to its reaction. -/
theorem Measures.isMeasured {H S : Type} {due : Residual R → Prop}
    {candidate : S → Candidate R problem.size} {advance : Iteration R (Residual R) H S} {start : S}
    {ended : Progress (Residual R) S} (h : problem.Measures candidate advance)
    (reached : Progress.Reaches due advance ⟨0, .unmeasured, start⟩ ended) :
    problem.IsMeasured ended.iterations ended.error (candidate ended.state) := by
  have hpost := reached.establishes
    (fun error state => error = .measured (problem.error (candidate state).reaction) ∧
      problem.IsSettled (candidate state)) h
  exact ⟨fun hpos => (hpost hpos).1, fun hpos => (hpost hpos).2⟩

variable (problem)

theorem deSaxceStep_measures (params : ProjectionParams R) :
    problem.Measures id (problem.deSaxceStep params) := by
  intro progress outcome hok
  cases hok
  exact ⟨rfl, rfl⟩

theorem projectionStep_measures (params : ProjectionParams R) :
    problem.Measures Stepping.candidate (problem.projectionStep params) := by
  intro progress outcome hok
  cases hok
  exact ⟨rfl, rfl⟩

theorem extraGradientStep_measures (params : ProjectionParams R) :
    problem.Measures Stepping.candidate (problem.extraGradientStep params) := by
  intro progress outcome hok
  cases hok
  exact ⟨rfl, rfl⟩

theorem hyperplaneStep_measures (params : ProjectionParams R) (relaxation : R) :
    problem.Measures HyperplaneState.candidate (problem.hyperplaneStep params relaxation) := by
  intro progress outcome hok
  cases hok
  exact ⟨rfl, rfl⟩

theorem planarStep_measures (params : SweepParams R) :
    problem.Measures id (problem.planarStep params) := by
  intro progress outcome hok
  cases hok
  exact ⟨rfl, rfl⟩

/-- Settling the velocity of a candidate that has been measured makes no difference. -/
theorem settleVelocity_isSettled {iterations : Nat} {error : Residual R}
    {candidate : Candidate R problem.size} (h : problem.IsMeasured iterations error candidate) :
    problem.IsSettled (problem.settleVelocity iterations candidate) := by
  unfold settleVelocity
  by_cases h0 : iterations = 0
  · rw [if_pos h0]; rfl
  · rw [if_neg h0]; exact h.settled (Nat.pos_of_ne_zero h0)

@[simp] theorem reaction_settleVelocity (iterations : Nat) (candidate : Candidate R problem.size) :
    (problem.settleVelocity iterations candidate).reaction = candidate.reaction := by
  unfold settleVelocity
  split <;> rfl

variable {S : Type} (method : Method) (cap : Nat) (tolerance : R) (verbosity : UInt8)
  (candidate : S → Candidate R problem.size) (advance : Iteration R (Residual R) Empty S)
  (start : S)

/-- A run ends where its loop does, with the velocity settled. -/
theorem exists_runMethod_eq :
    ∃ ended, Progress.final (Residual.Exceeds tolerance) advance cap ⟨0, .unmeasured, start⟩ =
        .ok ended ∧
      (problem.runMethod method cap tolerance verbosity candidate advance start).value =
        (problem.settleVelocity ended.iterations (candidate ended.state)).ending
          (ended.error.outcome tolerance ended.iterations) :=
  ⟨_, Progress.final_eq_settled _ _ _, rfl⟩

end FrictionProblem

namespace RelayProblem

variable (problem : RelayProblem R)

/-- The error of a reaction, relative to the size of the data. -/
def relativeError (z : Vec R problem.size) : R :=
  problem.errorOf z (problem.velocity z) / problem.errorScale

/-- A sweep measures the reaction it reaches. -/
theorem sweepStep_measures (params : RelaySweepParams R)
    (progress : Progress (Residual R) (Candidate R problem.size))
    (outcome : Residual R × Candidate R problem.size)
    (hok : (problem.sweepStep params problem.errorScale progress).value = .ok outcome) :
    outcome.1 = .measured (problem.relativeError outcome.2.reaction) := by
  cases hok
  rfl

variable {problem} in
theorem flatIndex?_eq_none (h : ∀ i, ¬problem.matrix.diagonal i ≤ Scalar.diagonalThreshold) :
    problem.flatIndex? = none :=
  List.find?_eq_none.mpr fun i _ hflat => h i (of_decide_eq_true hflat)

/-- Without a vanishing diagonal entry, a run ends where its loop does. -/
theorem exists_gaussSeidel_eq (hflat : problem.flatIndex? = none) (params : RelaySweepParams R) :
    ∃ ended, Progress.final (Residual.Exceeds params.tolerance)
        (problem.sweepStep params problem.errorScale) params.iterationCap
        ⟨0, .unmeasured, Candidate.zero _⟩ = .ok ended ∧
      (problem.gaussSeidel params).value =
        ended.state.ending (ended.error.outcome params.tolerance ended.iterations) := by
  unfold gaussSeidel
  rw [hflat]
  exact ⟨_, Progress.final_eq_settled _ _ _, rfl⟩

/-- A run ends before its first sweep or where its loop does. -/
theorem gaussSeidel_cases (params : RelaySweepParams R) :
    (problem.gaussSeidel params).value =
        (Candidate.zero _).ending (.aborted .degenerateInput) ∨
    ∃ ended, Progress.final (Residual.Exceeds params.tolerance)
        (problem.sweepStep params problem.errorScale) params.iterationCap
        ⟨0, .unmeasured, Candidate.zero _⟩ = .ok ended ∧
      (problem.gaussSeidel params).value =
        ended.state.ending (ended.error.outcome params.tolerance ended.iterations) := by
  unfold gaussSeidel
  split
  · exact .inl rfl
  · exact .inr ⟨_, Progress.final_eq_settled _ _ _, rfl⟩

end RelayProblem

end Complementarity
