import Complementarity.Run.Iteration

/-!
What is known of a loop when it stops.

`Reaches` are the positions a loop passes, so a property that one iteration keeps holds at all of
them. A loop that runs to its end stands at such a position, within its cap, and has a cause for
stopping; a loop that gives up does so in an iteration that was due.
-/

namespace Complementarity.Progress

variable {R E H S : Type} {due : E → Prop} {advance : Iteration R E H S}
  {start ended : Progress E S}

/-- The positions a loop passes from a start on, one successful iteration after the other. -/
inductive Reaches (due : E → Prop) (advance : Iteration R E H S) (start : Progress E S) :
    Progress E S → Prop
  | start : Reaches due advance start start
  | next {progress : Progress E S} {outcome : E × S} (reached : Reaches due advance start progress)
      (hdue : due progress.error) (hok : (advance progress).value = .ok outcome) :
      Reaches due advance start (progress.next outcome)

/-- A first iteration in front. -/
theorem Reaches.cons {outcome : E × S} (hdue : due start.error)
    (hok : (advance start).value = .ok outcome)
    (reached : Reaches due advance (start.next outcome) ended) :
    Reaches due advance start ended := by
  induction reached with
  | start => exact .next .start hdue hok
  | next _ hdue' hok' ih => exact .next ih hdue' hok'

theorem Reaches.trans {progress : Progress E S} (first : Reaches due advance start progress)
    (rest : Reaches due advance progress ended) : Reaches due advance start ended := by
  induction rest with
  | start => exact first
  | next _ hdue hok ih => exact .next ih hdue hok

/-- What holds at the start and is kept by every iteration holds wherever the loop comes. -/
theorem Reaches.preserves (reached : Reaches due advance start ended) (Inv : Progress E S → Prop)
    (hstart : Inv start)
    (hstep : ∀ progress outcome, Inv progress → due progress.error →
      (advance progress).value = .ok outcome → Inv (progress.next outcome)) : Inv ended := by
  induction reached with
  | start => exact hstart
  | next _ hdue hok ih => exact hstep _ _ ih hdue hok

/-- What every iteration establishes holds wherever the loop comes, once it has made one. -/
theorem Reaches.establishes (reached : Reaches due advance start ended) (Post : E → S → Prop)
    (hstep : ∀ progress outcome, (advance progress).value = .ok outcome →
      Post outcome.1 outcome.2)
    (hlt : start.iterations < ended.iterations) : Post ended.error ended.state := by
  cases reached with
  | start => exact absurd hlt (Nat.lt_irrefl _)
  | next _ _ hok => exact hstep _ _ hok

theorem Reaches.iterations_le (reached : Reaches due advance start ended) :
    start.iterations ≤ ended.iterations := by
  induction reached with
  | start => exact Nat.le_refl _
  | next _ _ _ ih => exact Nat.le_succ_of_le ih

/-- A loop that has not counted on has not moved. -/
theorem Reaches.eq_start (reached : Reaches due advance start ended)
    (h : ended.iterations ≤ start.iterations) : ended = start := by
  cases reached with
  | start => rfl
  | next reached => exact absurd (Nat.lt_of_lt_of_le h reached.iterations_le) (Nat.lt_irrefl _)

/-- Before a loop comes to a position it passes all earlier counts, where an iteration is due. -/
theorem Reaches.exists_before (reached : Reaches due advance start ended) {k : Nat}
    (hle : start.iterations ≤ k) (hlt : k < ended.iterations) :
    ∃ progress, Reaches due advance start progress ∧ progress.iterations = k ∧
      due progress.error := by
  induction reached with
  | start => omega
  | next reached hdue _ ih =>
    rcases Nat.lt_or_eq_of_le (Nat.lt_succ_iff.mp hlt) with hearlier | rfl
    · exact ih hearlier
    · exact ⟨_, reached, rfl, hdue⟩

/-- A loop that runs to its end: it has a cause for stopping there. -/
structure Ends (due : E → Prop) (advance : Iteration R E H S) (cap : Nat)
    (start ended : Progress E S) : Prop where
  reached : Reaches due advance start ended
  iterations_le : ended.iterations ≤ start.iterations + cap
  not_due : ended.iterations < start.iterations + cap → ¬due ended.error

/-- A loop that has an iteration to make makes it. -/
theorem Ends.lt_iterations {cap : Nat} (h : Ends due advance cap start ended) (hcap : 0 < cap)
    (hdue : due start.error) : start.iterations < ended.iterations := by
  rcases Nat.lt_or_ge start.iterations ended.iterations with hlt | hle
  · exact hlt
  · obtain rfl := h.reached.eq_start hle
    exact absurd hdue (h.not_due (Nat.lt_add_of_pos_right hcap))

variable [DecidablePred due] {cap : Nat}

theorem ends_of_final (h : final due advance cap start = .ok ended) :
    Ends due advance cap start ended := by
  -- what follows an iteration is a loop from the next position, with a smaller cap
  induction cap generalizing start with
  | zero =>
    obtain rfl := Except.ok.inj h
    exact ⟨.start, Nat.le_refl _, fun hlt => absurd hlt (Nat.lt_irrefl _)⟩
  | succ cap ih =>
    rw [final] at h
    by_cases hdue : due start.error
    · rw [if_pos hdue] at h
      cases hok : (advance start).value with
      | error halt => rw [hok] at h; cases h
      | ok outcome =>
        rw [hok] at h
        obtain ⟨hreach, hle, hnot⟩ := ih h
        simp only [next] at hle hnot
        exact ⟨hreach.cons hdue hok, by omega, fun hlt => hnot (by omega)⟩
    · rw [if_neg hdue] at h
      obtain rfl := Except.ok.inj h
      exact ⟨.start, Nat.le_add_right _ _, fun _ => hdue⟩

/-- A loop that gives up does so in an iteration that was due and lay within the cap. -/
theorem gives_up_of_final {halt : H} (h : final due advance cap start = .error halt) :
    ∃ progress, Reaches due advance start progress ∧ due progress.error ∧
      progress.iterations < start.iterations + cap ∧ (advance progress).value = .error halt := by
  induction cap generalizing start with
  | zero => cases h
  | succ cap ih =>
    rw [final] at h
    by_cases hdue : due start.error
    · rw [if_pos hdue] at h
      cases hok : (advance start).value with
      | error halt' =>
        rw [hok] at h
        obtain rfl := Except.error.inj h
        exact ⟨start, .start, hdue, by omega, hok⟩
      | ok outcome =>
        rw [hok] at h
        obtain ⟨progress, hreach, hdue', hlt, herr⟩ := ih h
        simp only [next] at hlt
        exact ⟨progress, hreach.cons hdue hok, hdue', by omega, herr⟩
    · rw [if_neg hdue] at h
      cases h

/-- A loop gives up when its first iteration does. -/
theorem final_eq_error {halt : H} (hcap : 0 < cap) (hdue : due start.error)
    (herror : (advance start).value = .error halt) : final due advance cap start = .error halt := by
  obtain ⟨left, rfl⟩ := Nat.exists_eq_add_of_lt hcap
  rw [Nat.zero_add, final, if_pos hdue, herror]
  rfl

/-- A loop ends where it starts if nothing is due there. -/
theorem final_eq_start (hnot : ¬due start.error) : final due advance cap start = .ok start := by
  cases cap with
  | zero => rfl
  | succ cap =>
    rw [final]
    exact if_neg hnot

/-- A loop without an iteration to make ends where it starts. -/
theorem final_eq_idle (hidle : ¬(0 < cap ∧ due start.error)) :
    final due advance cap start = .ok start := by
  rcases Nat.eq_zero_or_pos cap with rfl | hcap
  · rfl
  · exact final_eq_start fun hdue => hidle ⟨hcap, hdue⟩

/-- A loop ends after one iteration that leaves nothing to do. -/
theorem final_eq_next {outcome : E × S} (hcap : 0 < cap) (hdue : due start.error)
    (hok : (advance start).value = .ok outcome) (hnot : ¬due outcome.1) :
    final due advance cap start = .ok (start.next outcome) := by
  obtain ⟨left, rfl⟩ := Nat.exists_eq_add_of_lt hcap
  rw [Nat.zero_add, final, if_pos hdue, hok]
  exact final_eq_start hnot

/-- The error with which a loop ends, or the one it starts with if it gives up. -/
def lastError (due : E → Prop) [DecidablePred due] (advance : Iteration R E H S) (cap : Nat)
    (start : Progress E S) : E :=
  match final due advance cap start with
  | .ok ended => ended.error
  | .error _ => start.error

theorem lastError_of_final (h : final due advance cap start = .ok ended) :
    lastError due advance cap start = ended.error := by
  rw [lastError, h]

/-- Iterations that cannot give up lead to an end. -/
theorem final_eq_settled (advance : Iteration R E Empty S) (cap : Nat) (start : Progress E S) :
    final due advance cap start = .ok (settled (iterate due advance cap start).value) := by
  rw [value_iterate]
  cases h : final due advance cap start with
  | error halt => exact halt.elim
  | ok ended => rfl

end Complementarity.Progress
