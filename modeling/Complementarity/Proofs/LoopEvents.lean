import Complementarity.Proofs.Loops

/-!
What a run reports.

`Traced.Reports` says that all events of a run have a property; it passes through sequencing and
through loops. Where the order matters, `exists_iteration` finds the iteration of a loop in which an
event was reported: all that comes before the event was reported in that iteration or in an earlier
one.
-/

namespace Complementarity

variable {R A B : Type}

/-- An element of two joined lists lies in one of them. -/
theorem split_append {α : Type} {xs ys before after : List α} {a : α}
    (h : xs ++ ys = before ++ a :: after) :
    (∃ rest, xs = before ++ a :: rest) ∨ ∃ inner, before = xs ++ inner ∧ ys = inner ++ a :: after := by
  rcases List.append_eq_append_iff.mp h with ⟨inner, hbefore, hys⟩ | ⟨tail, hxs, htail⟩
  · exact .inr ⟨inner, hbefore, hys⟩
  · cases tail with
    | nil => exact .inr ⟨[], by simpa using hxs.symm, htail.symm⟩
    | cons first rest =>
      obtain ⟨rfl, -⟩ := List.cons.inj htail
      exact .inl ⟨rest, hxs⟩

namespace Progress

variable {E H S : Type} {due : E → Prop} [DecidablePred due] {advance : Iteration R E H S}

/-- The events of a loop, iteration by iteration. -/
def trail (due : E → Prop) [DecidablePred due] (advance : Iteration R E H S) :
    Nat → Progress E S → List (Event R)
  | 0, _ => []
  | cap + 1, progress =>
    if due progress.error then
      (advance progress).events ++
        match (advance progress).value with
        | .error _ => []
        | .ok outcome => trail due advance cap (progress.next outcome)
    else
      []

theorem events_iterateAfter (cap : Nat) (progress : Progress E S) (past : List (Event R)) :
    (iterateAfter due advance cap progress past).events =
      past.reverse ++ trail due advance cap progress := by
  induction cap generalizing progress past with
  | zero => simp [iterateAfter, trail]
  | succ cap ih =>
    unfold iterateAfter trail
    split
    · cases h : (advance progress).value with
      | error halt => simp [h]
      | ok outcome => simp [h, ih]
    · simp

theorem events_iterate (cap : Nat) (start : Progress E S) :
    (iterate due advance cap start).events = trail due advance cap start :=
  events_iterateAfter cap start []

/-- An event of a loop is one of an iteration that the loop comes to, and what precedes it there
comes last before it in the loop. -/
theorem exists_iteration {cap : Nat} {start : Progress E S} {event : Event R}
    {before after : List (Event R)}
    (h : (iterate due advance cap start).events = before ++ event :: after) :
    ∃ progress earlier inner rest, Reaches due advance start progress ∧ due progress.error ∧
      before = earlier ++ inner ∧ (advance progress).events = inner ++ event :: rest := by
  rw [events_iterate] at h
  -- either the first iteration reports it, or the loop that follows
  induction cap generalizing start before with
  | zero => simp [trail] at h
  | succ cap ih =>
    rw [trail] at h
    by_cases hdue : due start.error
    · rw [if_pos hdue] at h
      rcases split_append h with ⟨rest, hfirst⟩ | ⟨inner, rfl, hlater⟩
      · exact ⟨start, [], before, rest, .start, hdue, rfl, hfirst⟩
      · cases hok : (advance start).value with
        | error halt => simp [hok] at hlater
        | ok outcome =>
          rw [hok] at hlater
          obtain ⟨progress, earlier, inner', rest, hreach, hdue', rfl, hevents⟩ := ih hlater
          exact ⟨progress, (advance start).events ++ earlier, inner', rest, hreach.cons hdue hok,
            hdue', by rw [List.append_assoc], hevents⟩
    · simp [hdue] at h

/-- A loop that makes an iteration begins with the events of its first one. -/
theorem prefix_events_iterate {cap : Nat} {start : Progress E S} (hcap : 0 < cap)
    (hdue : due start.error) :
    (advance start).events <+: (iterate due advance cap start).events := by
  obtain ⟨left, rfl⟩ := Nat.exists_eq_add_of_lt hcap
  rw [events_iterate, Nat.zero_add, trail, if_pos hdue]
  exact List.prefix_append _ _

end Progress

namespace Traced

variable {P Q : Event R → Prop}

/-- All events of the run have the property. -/
def Reports (P : Event R → Prop) (run : Traced R A) : Prop :=
  ∀ event ∈ run.events, P event

namespace Reports

theorem pure (a : A) : Reports P (Pure.pure a : Traced R A) :=
  fun _ hmem => nomatch hmem

theorem bind {first : Traced R A} {next : A → Traced R B} (hfirst : first.Reports P)
    (hnext : ∀ a, (next a).Reports P) : (first >>= next).Reports P := by
  intro event hmem
  rcases List.mem_append.mp hmem with h | h
  · exact hfirst event h
  · exact hnext first.value event h

theorem map {run : Traced R A} (f : A → B) (h : run.Reports P) : (f <$> run).Reports P := by
  rwa [Reports, events_map]

theorem report {event : Event R} (h : P event) : (Traced.report event).Reports P := by
  intro other hmem
  rwa [List.mem_singleton.mp hmem]

theorem reportIf {condition : Bool} {event : Event R} (h : condition = true → P event) :
    (Traced.reportIf condition event).Reports P := by
  cases condition with
  | false => exact fun _ hmem => nomatch hmem
  | true => exact report (h rfl)

theorem mono {run : Traced R A} (h : run.Reports P) (hmono : ∀ event, P event → Q event) :
    run.Reports Q :=
  fun event hmem => hmono event (h event hmem)

theorem iterate {E H S : Type} {due : E → Prop} [DecidablePred due] {advance : Iteration R E H S}
    (hadvance : ∀ progress, (advance progress).Reports P) (cap : Nat) (start : Progress E S) :
    (Progress.iterate due advance cap start).Reports P := by
  intro event hmem
  obtain ⟨before, after, hsplit⟩ := List.append_of_mem hmem
  obtain ⟨progress, earlier, inner, rest, -, -, -, hevents⟩ := Progress.exists_iteration hsplit
  refine hadvance progress event ?_
  rw [hevents]
  exact List.mem_append_cons_self

end Reports

end Traced

end Complementarity
