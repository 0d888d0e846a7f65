import Complementarity.Scalar

/-!
Step sizes that adapt.

A step is shortened until what it leads to passes a test, and lengthened again after an iteration
that stayed far from the limit of that test.
-/

namespace Complementarity

variable {R : Type} [Scalar R]

/-- Steps that changed little against this ratio are lengthened again. -/
def growthRatio : R := 0.3

/-- A longer step if the last accepted one was far from the limit. -/
@[specialize] def grow (ratio shrink step : R) : R :=
  if ratio < growthRatio then step / shrink else step

/-- A trial of a step size: what it led to, and how close to the limit it was. -/
structure Trial (R A : Type) where
  ratio : R
  point : A

/-- Tries a step and shortens it until its ratio is at most the bound or no retry is left. Returns
the step size for what follows with the last trial; a rejected last trial shortens the step too. -/
@[specialize] def searchStep {A : Type} (trial : R → Trial R A) (bound shrink : R) :
    Nat → R → R × Trial R A
  | 0, step =>
    let last := trial step
    (if last.ratio ≤ bound then step else step * shrink, last)
  | retries + 1, step =>
    let current := trial step
    if current.ratio ≤ bound then (step, current)
    else searchStep trial bound shrink retries (step * shrink)

/-- What shortening a step preserves holds of the step of the last trial and of the one for what
follows. -/
theorem searchStep_spec {A : Type} (trial : R → Trial R A) (bound shrink : R) {P : R → Prop}
    (hshrink : ∀ step, P step → P (step * shrink)) (retries : Nat) (step : R) (hstep : P step) :
    P (searchStep trial bound shrink retries step).1 ∧
      ∃ tried, P tried ∧ (searchStep trial bound shrink retries step).2 = trial tried := by
  induction retries generalizing step with
  | zero =>
    refine ⟨?_, step, hstep, rfl⟩
    by_cases haccepted : (trial step).ratio ≤ bound
    · rw [searchStep, if_pos haccepted]; exact hstep
    · rw [searchStep, if_neg haccepted]; exact hshrink step hstep
  | succ retries ih =>
    rw [searchStep]
    by_cases haccepted : (trial step).ratio ≤ bound
    · rw [if_pos haccepted]; exact ⟨hstep, step, hstep, rfl⟩
    · rw [if_neg haccepted]; exact ih _ (hshrink step hstep)

/-- How much the function moves against its argument: `step * moved / distance`, or zero without a
move. -/
@[specialize] def moveRatio (step moved distance : R) : R :=
  if 0 < distance then step * moved / distance else 0

end Complementarity
