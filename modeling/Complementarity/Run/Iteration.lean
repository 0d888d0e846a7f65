import Complementarity.Run.Traced

/-!
The loop that all iterative methods share.

A method hands in one iteration, which yields the next state and the error measured there, or gives
up. The loop repeats it as long as the iterations last and the error asks for another one.
`value_iterate` says that the events it collects on the way play no part in where it stops.
-/

namespace Complementarity

/-- Where a method stands between two iterations. -/
structure Progress (E S : Type) where
  /-- Iterations performed so far. -/
  iterations : Nat
  /-- The last error. -/
  error : E
  /-- The current iterate and all that is carried along with it. -/
  state : S

/-- One iteration: the next state with its error, or the reason for giving up. -/
abbrev Iteration (R E H S : Type) := Progress E S → Traced R (Except H (E × S))

namespace Progress

variable {R E H S : Type}

/-- The position after one more iteration. -/
def next (progress : Progress E S) (outcome : E × S) : Progress E S :=
  { iterations := progress.iterations + 1, error := outcome.1, state := outcome.2 }

/-- Iterates at most `cap` times while `due` holds; `past` holds earlier events, the latest first. -/
@[specialize] def iterateAfter (due : E → Prop) [DecidablePred due] (advance : Iteration R E H S) :
    Nat → Progress E S → List (Event R) → Traced R (Except H (Progress E S))
  | 0, progress, past => ⟨.ok progress, past.reverse⟩
  | cap + 1, progress, past =>
    if due progress.error then
      let round := advance progress
      let past := round.events.reverseAux past
      match round.value with
      | .error halt => ⟨.error halt, past.reverse⟩
      | .ok outcome => iterateAfter due advance cap (progress.next outcome) past
    else
      ⟨.ok progress, past.reverse⟩

/-- Iterates at most `cap` times while the error is `due` for improvement. -/
@[inline] def iterate (due : E → Prop) [DecidablePred due] (advance : Iteration R E H S)
    (cap : Nat) (progress : Progress E S) : Traced R (Except H (Progress E S)) :=
  iterateAfter due advance cap progress []

/-- Where the loop ends, said without events. -/
def final (due : E → Prop) [DecidablePred due] (advance : Iteration R E H S) :
    Nat → Progress E S → Except H (Progress E S)
  | 0, progress => .ok progress
  | cap + 1, progress =>
    if due progress.error then
      (advance progress).value.bind fun outcome => final due advance cap (progress.next outcome)
    else
      .ok progress

theorem value_iterateAfter (due : E → Prop) [DecidablePred due] (advance : Iteration R E H S)
    (cap : Nat) (progress : Progress E S) (past : List (Event R)) :
    (iterateAfter due advance cap progress past).value = final due advance cap progress := by
  induction cap generalizing progress past with
  | zero => rfl
  | succ cap ih =>
    unfold iterateAfter final
    split
    · cases h : (advance progress).value with
      | error halt => simp [h, Except.bind]
      | ok outcome => simp [h, Except.bind, ih]
    · rfl

/-- The events play no part in where the loop ends. -/
theorem value_iterate (due : E → Prop) [DecidablePred due] (advance : Iteration R E H S)
    (cap : Nat) (progress : Progress E S) :
    (iterate due advance cap progress).value = final due advance cap progress :=
  value_iterateAfter due advance cap progress []

end Progress

/-- The value of a computation that cannot give up. -/
def settled {α : Type} : Except Empty α → α
  | .ok a => a

end Complementarity
