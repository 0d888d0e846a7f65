import Complementarity.Proofs.Loops

/-!
Two loops side by side.

A loop with a larger cap goes on from where the one with the smaller cap ended (`final_add`). Two loops
whose iterations are alike are at related positions whenever they have made equally many
(`Alike.rel_of_reaches`), and if one of them goes on whenever the other one does, it passes a related
position for every one of the other (`Outlasts.exists_reaches`).
-/

namespace Complementarity.Progress

variable {R E H S : Type}

/-! ### The same loop with another cap -/

section Caps

variable {due : E → Prop} [DecidablePred due] {advance : Iteration R E H S}
  {start progress ended : Progress E S} {cap larger : Nat}

/-- The first iterations of a loop are a loop of their own; the rest goes on from its end. -/
theorem final_add (due : E → Prop) [DecidablePred due] (advance : Iteration R E H S) (cap more : Nat)
    (start : Progress E S) : final due advance (cap + more) start =
      (final due advance cap start).bind (final due advance more) := by
  induction cap generalizing start with
  | zero => rw [Nat.zero_add]; rfl
  | succ cap ih =>
    rw [Nat.add_right_comm, final, final]
    by_cases hdue : due start.error
    · rw [if_pos hdue, if_pos hdue]
      cases (advance start).value with
      | error halt => rfl
      | ok outcome => exact ih (start.next outcome)
    · -- where nothing is due, neither loop moves
      rw [if_neg hdue, if_neg hdue]
      exact (final_eq_start hdue).symm

/-- A loop that gives up does so with every larger cap. -/
theorem final_eq_error_of_le {halt : H} (hle : cap ≤ larger)
    (h : final due advance cap start = .error halt) :
    final due advance larger start = .error halt := by
  obtain ⟨more, rfl⟩ := Nat.exists_eq_add_of_le hle
  rw [final_add, h]
  rfl

/-- A loop that stops of its own accord stops there with every larger cap. -/
theorem final_eq_of_le (hle : cap ≤ larger) (h : final due advance cap start = .ok ended)
    (hnot : ¬due ended.error) : final due advance larger start = .ok ended := by
  obtain ⟨more, rfl⟩ := Nat.exists_eq_add_of_le hle
  rw [final_add, h]
  exact final_eq_start hnot

/-- From every position that it passes, a loop goes on with the iterations that are left. -/
theorem final_of_reaches (reached : Reaches due advance start progress) (left : Nat) :
    final due advance (progress.iterations - start.iterations + left) start =
      final due advance left progress := by
  induction reached generalizing left with
  | start => rw [Nat.sub_self, Nat.zero_add]
  | @next progress outcome reached hdue hok ih =>
    have hcount : (progress.next outcome).iterations - start.iterations + left =
        progress.iterations - start.iterations + (left + 1) := by
      have hle := reached.iterations_le
      simp only [next]
      omega
    rw [hcount, ih, final, if_pos hdue, hok]
    rfl

end Caps

/-! ### Loops whose iterations are alike -/

section Alike

variable {due due' : E → Prop} {advance advance' : Iteration R E H S}
  {Rel : Progress E S → Progress E S → Prop} {start start' progress progress' : Progress E S}

/-- From related positions, the iterations of two loops lead to related positions or give up for the
same reason. -/
structure Alike (advance advance' : Iteration R E H S) (Rel : Progress E S → Progress E S → Prop) :
    Prop where
  iterations_eq : ∀ progress progress', Rel progress progress' →
    progress.iterations = progress'.iterations
  ok : ∀ progress progress' outcome, Rel progress progress' →
    (advance progress).value = .ok outcome →
      ∃ outcome', (advance' progress').value = .ok outcome' ∧
        Rel (progress.next outcome) (progress'.next outcome')
  error : ∀ progress progress' halt, Rel progress progress' →
    (advance progress).value = .error halt → (advance' progress').value = .error halt

theorem alike_self (advance : Iteration R E H S) : Alike advance advance Eq where
  iterations_eq _ _ h := congrArg Progress.iterations h
  ok := by
    rintro progress _ outcome rfl hok
    exact ⟨outcome, hok, rfl⟩
  error := by
    rintro progress _ halt rfl herror
    exact herror

theorem Alike.symm (h : Alike advance advance' Rel) : Alike advance' advance (flip Rel) where
  iterations_eq _ _ hrel := (h.iterations_eq _ _ hrel).symm
  ok progress' progress outcome' hrel hok' := by
    cases hvalue : (advance progress).value with
    | error halt =>
      rw [h.error _ _ _ hrel hvalue] at hok'
      cases hok'
    | ok outcome =>
      obtain ⟨outcome'', hok'', hnext⟩ := h.ok _ _ _ hrel hvalue
      obtain rfl := Except.ok.inj (hok''.symm.trans hok')
      exact ⟨outcome, rfl, hnext⟩
  error progress' progress halt' hrel herror' := by
    cases hvalue : (advance progress).value with
    | error halt =>
      rw [h.error _ _ _ hrel hvalue] at herror'
      rw [Except.error.inj herror']
    | ok outcome =>
      obtain ⟨_, hok'', -⟩ := h.ok _ _ _ hrel hvalue
      rw [hok''] at herror'
      cases herror'

/-- After equally many iterations the two loops are at related positions, whatever is due. -/
theorem Alike.rel_of_reaches (h : Alike advance advance' Rel) (hstart : Rel start start')
    (reached : Reaches due advance start progress) (reached' : Reaches due' advance' start' progress')
    (hcount : progress.iterations = progress'.iterations) : Rel progress progress' := by
  have hcount₀ := h.iterations_eq _ _ hstart
  induction reached generalizing progress' with
  | start =>
    rw [reached'.eq_start (by omega)]
    exact hstart
  | next reached _ hok ih =>
    cases reached' with
    | start =>
      have hle := reached.iterations_le
      simp only [next] at hcount
      omega
    | next reached' _ hok' =>
      have hrel := ih reached' (Nat.succ.inj hcount)
      obtain ⟨outcome, houtcome, hnext⟩ := h.ok _ _ _ hrel hok
      obtain rfl := Except.ok.inj (houtcome.symm.trans hok')
      exact hnext

/-- Where one loop gives up, the other one comes no further. -/
theorem Alike.not_reaches_of_error (h : Alike advance advance' Rel) (hstart : Rel start start')
    (reached : Reaches due advance start progress) {halt : H}
    (herror : (advance progress).value = .error halt)
    (reached' : Reaches due' advance' start' progress') :
    progress'.iterations ≠ progress.iterations + 1 := by
  intro hcount
  cases reached' with
  | start =>
    have hle := reached.iterations_le
    have hcount₀ := h.iterations_eq _ _ hstart
    omega
  | next reached' _ hok' =>
    have hrel := h.rel_of_reaches hstart reached reached' (Nat.succ.inj hcount).symm
    rw [h.error _ _ _ hrel herror] at hok'
    cases hok'

/-! ### Loops that keep step -/

/-- Alike, and what is due after an iteration of the first loop is due after that of the second one. -/
structure Outlasts (due due' : E → Prop) (advance advance' : Iteration R E H S)
    (Rel : Progress E S → Progress E S → Prop) : Prop extends Alike advance advance' Rel where
  due_next : ∀ progress progress' outcome outcome', Rel progress progress' →
    (advance progress).value = .ok outcome → (advance' progress').value = .ok outcome' →
      due outcome.1 → due' outcome'.1

/-- The second loop passes a related position for every one of the first, and goes on from there if the
first one does. -/
theorem Outlasts.exists_reaches (h : Outlasts due due' advance advance' Rel)
    (hstart : Rel start start') (hdue : due start.error → due' start'.error)
    (reached : Reaches due advance start progress) :
    ∃ progress', Reaches due' advance' start' progress' ∧ Rel progress progress' ∧
      (due progress.error → due' progress'.error) := by
  induction reached with
  | start => exact ⟨start', .start, hstart, hdue⟩
  | next _ hdue hok ih =>
    obtain ⟨progress', reached', hrel, hgoes⟩ := ih
    obtain ⟨outcome', hok', hnext⟩ := h.ok _ _ _ hrel hok
    exact ⟨_, reached'.next (hgoes hdue) hok', hnext, h.due_next _ _ _ _ hrel hok hok'⟩

variable [DecidablePred due] [DecidablePred due'] {cap : Nat}

/-- Where the first loop gives up, the second one does so too. -/
theorem Outlasts.final_eq_error (h : Outlasts due due' advance advance' Rel)
    (hstart : Rel start start') (hdue : due start.error → due' start'.error) {halt : H}
    (hfinal : final due advance cap start = .error halt) :
    final due' advance' cap start' = .error halt := by
  obtain ⟨progress, reached, hlast, hlt, herror⟩ := gives_up_of_final hfinal
  obtain ⟨progress', reached', hrel, hgoes⟩ := h.exists_reaches hstart hdue reached
  have hcount := h.iterations_eq _ _ hrel
  have hcount₀ := h.iterations_eq _ _ hstart
  have hle := reached'.iterations_le
  -- one iteration more from the related position, and then nothing is left to do
  have hgives := Progress.final_eq_error Nat.one_pos (hgoes hlast) (h.error _ _ _ hrel herror)
  rw [← final_of_reaches reached'] at hgives
  exact final_eq_error_of_le (by omega) hgives

end Alike

end Complementarity.Progress
