import Complementarity.Scalar

/-!
Backtracking line search with the Armijo test.

Along a Newton direction the slope of the merit is minus twice the merit itself, so the test needs
the merit at the start only.
-/

namespace Complementarity

/-- A backtracking line search. -/
structure Backtracking (R : Type) where
  /-- The coefficient `c` of the test `θ(α) ≤ (1 - 2 c α) θ(0)`. -/
  armijo : R
  /-- The factor that shortens the length after a rejected trial. -/
  factor : R
  /-- The largest number of trials; none at all means full steps. -/
  trials : Nat

namespace Backtracking

variable {R : Type} [Scalar R]

/-- The test that accepts a trial. -/
def Accepts (search : Backtracking R) (merit length trialMerit : R) : Prop :=
  trialMerit ≤ merit * (1 - 2.0 * search.armijo * length)

instance (search : Backtracking R) (merit length trialMerit : R) :
    Decidable (search.Accepts merit length trialMerit) :=
  inferInstanceAs (Decidable (_ ≤ _))

/-- The length of a trial, counted from zero. -/
def trialLength (search : Backtracking R) : Nat → R
  | 0 => 1
  | k + 1 => search.trialLength k * search.factor

/-- Goes through the trials from the given one on; `trialMerit k α` is the merit that trial `k`
finds at length `α`. Returns the number of trials made and the length to take: the accepted one, or
the one after the last trial. -/
@[specialize] def searchFrom (search : Backtracking R) (merit : R) (trialMerit : Nat → R → R) :
    Nat → Nat → R → Nat × R
  | 0, count, length => (count, length)
  | left + 1, count, length =>
    if search.Accepts merit length (trialMerit count length) then
      (count + 1, length)
    else
      searchFrom search merit trialMerit left (count + 1) (length * search.factor)

/-- The number of trials made and the length to take. -/
@[specialize] def search (search : Backtracking R) (merit : R) (trialMerit : Nat → R → R) :
    Nat × R :=
  search.searchFrom merit trialMerit search.trials 0 1

/-- The lengths that were tried, in order. -/
def tried (search : Backtracking R) (count : Nat) : List R :=
  (List.range count).map search.trialLength

end Backtracking

end Complementarity
