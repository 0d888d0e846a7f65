import Complementarity.Proofs.LoopPairs
import Complementarity.Run.Result

/-!
The runs of a method for all ways to stop them.

A method has one sequence of iterates from its start, and the cap and the tolerance only choose where
it is cut. A larger cap changes nothing for a run that stopped of its own accord, and lets any other run
go on from where it ended (`IsLooped.capCuts`). A smaller tolerance lets a run pass the very reaction at
which a larger one would have stopped it (`IsLooped.toleranceCuts`). Both need no more than that the runs
make one loop, whose iterations are alike for all parameters, and return what it ends with.
-/

namespace Complementarity

variable {R E H S : Type} {n : Nat}

/-- The parameters that stop a run. -/
structure Stop (R : Type) where
  cap : Nat
  tolerance : R

/-- The runs of a method from one start, for all ways to stop them. -/
structure RunFamily (R E H S : Type) (n : Nat) where
  /-- The runs come to their loop, and do not end before it. -/
  loops : Prop
  /-- The errors that ask for another iteration under a tolerance. -/
  due : R → E → Prop
  decideDue : ∀ tolerance, DecidablePred (due tolerance)
  /-- One iteration. -/
  advance : Stop R → Iteration R E H S
  /-- Where the iterations start. -/
  start : Progress E S
  /-- The reaction of a state. -/
  reaction : S → Vec R n
  /-- What the method returns. -/
  run : Stop R → Except Fault (Run R n)

namespace RunFamily

instance (family : RunFamily R E H S n) (tolerance : R) : DecidablePred (family.due tolerance) :=
  family.decideDue tolerance

/-- The loop of the run passes the position. -/
def Reaches (family : RunFamily R E H S n) (stop : Stop R) (progress : Progress E S) : Prop :=
  Progress.Reaches (family.due stop.tolerance) (family.advance stop) family.start progress

/-- Where the loop of the run ends. -/
def final (family : RunFamily R E H S n) (stop : Stop R) : Except H (Progress E S) :=
  Progress.final (family.due stop.tolerance) (family.advance stop) stop.cap family.start

/-- After so many iterations a run holds the reaction: its loop passes it, or the run ends with it. -/
def HoldsAfter (family : RunFamily R E H S n) (stop : Stop R) (count : Nat) (reaction : Vec R n) :
    Prop :=
  (family.loops ∧ count ≤ stop.cap ∧ ∃ progress, family.Reaches stop progress ∧
    progress.iterations = count ∧ family.reaction progress.state = reaction) ∨
  ∃ run, family.run stop = .ok run ∧ run.iterations = count ∧ run.reaction = reaction

/-- The cap only cuts: a run that has stopped of its own accord does so with every larger cap, and any
other run has come to the reaction that the run with the larger cap holds at that time. -/
structure CapCuts (family : RunFamily R E H S n) : Prop where
  same : ∀ cap larger tolerance run, cap ≤ larger → family.run ⟨cap, tolerance⟩ = .ok run →
    run.iterations < cap ∨ run.status = .converged → family.run ⟨larger, tolerance⟩ = .ok run
  held_by_larger : ∀ cap larger tolerance run, cap ≤ larger →
    family.run ⟨cap, tolerance⟩ = .ok run → run.iterations = cap →
      family.HoldsAfter ⟨larger, tolerance⟩ cap run.reaction
  unique_of_tolerance : ∀ cap cap' tolerance count r r',
    family.HoldsAfter ⟨cap, tolerance⟩ count r → family.HoldsAfter ⟨cap', tolerance⟩ count r' → r = r'

/-- The tolerance only cuts: a run with a larger tolerance stops no later, at the reaction that the run
with the smaller one holds at that time. -/
structure ToleranceCuts [Scalar R] (family : RunFamily R E H S n) : Prop where
  iterations_le : ∀ cap loose tight run run', tight ≤ loose →
    family.run ⟨cap, loose⟩ = .ok run → family.run ⟨cap, tight⟩ = .ok run' →
      run.iterations ≤ run'.iterations
  held_by_tighter : ∀ cap loose tight run, tight ≤ loose → family.run ⟨cap, loose⟩ = .ok run →
    family.HoldsAfter ⟨cap, tight⟩ run.iterations run.reaction
  unique : ∀ stop stop' count r r',
    family.HoldsAfter stop count r → family.HoldsAfter stop' count r' → r = r'

/-- Neither parameter does more than cut. -/
structure OnlyCuts [Scalar R] (family : RunFamily R E H S n) : Prop extends
  family.CapCuts, family.ToleranceCuts

variable {family : RunFamily R E H S n}

/-- There is nothing to cut where all runs end before their loop in the same way. -/
theorem onlyCuts_of_constant [Scalar R] {aborted : Run R n} (hloops : ¬family.loops)
    (hrun : ∀ stop, family.run stop = .ok aborted) : family.OnlyCuts := by
  have hconstant {stop : Stop R} {run : Run R n} (h : family.run stop = .ok run) : run = aborted :=
    Except.ok.inj (h.symm.trans (hrun stop))
  have hheld {stop : Stop R} {count : Nat} {r : Vec R n} (h : family.HoldsAfter stop count r) :
      r = aborted.reaction := by
    rcases h with ⟨hloop, -⟩ | ⟨run, h, -, rfl⟩
    · exact absurd hloop hloops
    · rw [hconstant h]
  exact
    { same := fun _ _ _ run _ h _ => by rw [hrun, hconstant h]
      held_by_larger := fun _ _ _ run _ h hcount =>
        .inr ⟨run, by rw [hrun, hconstant h], hcount, rfl⟩
      unique_of_tolerance := fun _ _ _ _ _ _ h h' => (hheld h).trans (hheld h').symm
      iterations_le := fun _ _ _ _ _ _ h h' =>
        Nat.le_of_eq (by rw [hconstant h, hconstant h'])
      held_by_tighter := fun _ _ _ run _ h => .inr ⟨run, by rw [hrun, hconstant h], rfl, rfl⟩
      unique := fun _ _ _ _ _ h h' => (hheld h).trans (hheld h').symm }

/-! ### Families with a loop -/

/-- Runs that make the loop of their family, and return what it ends with or what it gives up with. -/
structure IsLooped (family : RunFamily R E H S n) (giveUp : H → Except Fault (Run R n))
    (ending : R → Progress E S → Run R n) : Prop where
  loops : family.loops
  run_eq_giveUp : ∀ stop halt, family.final stop = .error halt → family.run stop = giveUp halt
  run_eq_ending : ∀ stop ended, family.final stop = .ok ended →
    family.run stop = .ok (ending stop.tolerance ended)
  start_eq : family.start.iterations = 0
  advance_eq : ∀ cap cap' tolerance, family.advance ⟨cap, tolerance⟩ = family.advance ⟨cap', tolerance⟩
  iterations_eq : ∀ tolerance ended, (ending tolerance ended).iterations = ended.iterations
  reaction_eq : ∀ tolerance ended,
    (ending tolerance ended).reaction = family.reaction ended.state
  not_due : ∀ tolerance ended, (ending tolerance ended).status = .converged →
    ¬family.due tolerance ended.error
  giveUp_eq : ∀ stop progress halt run, (family.advance stop progress).value = .error halt →
    giveUp halt = .ok run → run.iterations = progress.iterations + 1

/-- Runs whose iterations are alike, through positions with the same reaction. -/
structure IsAlike (family : RunFamily R E H S n) (stop stop' : Stop R)
    (Rel : Progress E S → Progress E S → Prop) : Prop where
  alike : Progress.Alike (family.advance stop) (family.advance stop') Rel
  start : Rel family.start family.start
  reaction_eq : ∀ progress progress', Rel progress progress' →
    family.reaction progress.state = family.reaction progress'.state

theorem isAlike_of_advance_eq {stop stop' : Stop R} (h : family.advance stop = family.advance stop') :
    family.IsAlike stop stop' Eq where
  alike := h ▸ Progress.alike_self _
  start := rfl
  reaction_eq _ _ heq := by rw [heq]

variable {giveUp : H → Except Fault (Run R n)} {ending : R → Progress E S → Run R n}
  {stop stop' : Stop R} {run : Run R n} {Rel : Progress E S → Progress E S → Prop}
  {progress : Progress E S} {count : Nat} {r r' : Vec R n}

/-- A run gives up, or it ends where its loop does. -/
theorem IsLooped.cases (h : family.IsLooped giveUp ending) (hrun : family.run stop = .ok run) :
    (∃ halt, family.final stop = .error halt ∧ giveUp halt = .ok run) ∨
    ∃ ended, family.final stop = .ok ended ∧ run = ending stop.tolerance ended := by
  cases hfinal : family.final stop with
  | error halt =>
    rw [h.run_eq_giveUp _ _ hfinal] at hrun
    exact .inl ⟨halt, rfl, hrun⟩
  | ok ended =>
    rw [h.run_eq_ending _ _ hfinal] at hrun
    exact .inr ⟨ended, rfl, (Except.ok.inj hrun).symm⟩

theorem IsLooped.reaches_of_final (h : family.IsLooped giveUp ending) {ended : Progress E S}
    (hfinal : family.final stop = .ok ended) :
    family.Reaches stop ended ∧ ended.iterations ≤ stop.cap := by
  have hends := Progress.ends_of_final hfinal
  have hcap := hends.iterations_le
  rw [h.start_eq, Nat.zero_add] at hcap
  exact ⟨hends.reached, hcap⟩

/-! ### Caps -/

theorem IsLooped.final_eq_error_of_le (h : family.IsLooped giveUp ending) {cap larger : Nat}
    {tolerance : R} {halt : H} (hle : cap ≤ larger)
    (hfinal : family.final ⟨cap, tolerance⟩ = .error halt) :
    family.final ⟨larger, tolerance⟩ = .error halt := by
  rw [final, h.advance_eq cap larger] at hfinal
  exact Progress.final_eq_error_of_le hle hfinal

theorem IsLooped.final_eq_of_le (h : family.IsLooped giveUp ending) {cap larger : Nat}
    {tolerance : R} {ended : Progress E S} (hle : cap ≤ larger)
    (hfinal : family.final ⟨cap, tolerance⟩ = .ok ended) (hnot : ¬family.due tolerance ended.error) :
    family.final ⟨larger, tolerance⟩ = .ok ended := by
  rw [final, h.advance_eq cap larger] at hfinal
  exact Progress.final_eq_of_le hle hfinal hnot

/-- A run that ends within its cap or with convergence has no iteration due. -/
theorem IsLooped.not_due_of_stopped (h : family.IsLooped giveUp ending) {ended : Progress E S}
    (hfinal : family.final stop = .ok ended)
    (hstopped : ended.iterations < stop.cap ∨ (ending stop.tolerance ended).status = .converged) :
    ¬family.due stop.tolerance ended.error := by
  rcases hstopped with hlt | hstatus
  · refine (Progress.ends_of_final hfinal).not_due ?_
    rw [h.start_eq, Nat.zero_add]
    exact hlt
  · exact h.not_due _ _ hstatus

theorem IsLooped.run_eq_of_le (h : family.IsLooped giveUp ending) {cap larger : Nat} {tolerance : R}
    (hle : cap ≤ larger) (hrun : family.run ⟨cap, tolerance⟩ = .ok run)
    (hstopped : run.iterations < cap ∨ run.status = .converged) :
    family.run ⟨larger, tolerance⟩ = .ok run := by
  rcases h.cases hrun with ⟨halt, hfinal, hgive⟩ | ⟨ended, hfinal, rfl⟩
  · rw [h.run_eq_giveUp _ _ (h.final_eq_error_of_le hle hfinal), hgive]
  · rw [h.iterations_eq] at hstopped
    exact h.run_eq_ending _ _
      (h.final_eq_of_le hle hfinal (h.not_due_of_stopped hfinal hstopped))

theorem IsLooped.holdsAfter_larger (h : family.IsLooped giveUp ending) {cap larger : Nat}
    {tolerance : R} (hle : cap ≤ larger) (hrun : family.run ⟨cap, tolerance⟩ = .ok run)
    (hcount : run.iterations = cap) : family.HoldsAfter ⟨larger, tolerance⟩ cap run.reaction := by
  rcases h.cases hrun with ⟨halt, hfinal, hgive⟩ | ⟨ended, hfinal, rfl⟩
  · refine .inr ⟨run, ?_, hcount, rfl⟩
    rw [h.run_eq_giveUp _ _ (h.final_eq_error_of_le hle hfinal), hgive]
  · have hreached := (h.reaches_of_final hfinal).1
    rw [Reaches, h.advance_eq cap larger] at hreached
    rw [h.iterations_eq] at hcount
    exact .inl ⟨h.loops, hle, ended, hreached, hcount, (h.reaction_eq _ _).symm⟩

/-! ### Iterates -/

/-- What a run holds is passed by its loop, or left behind by an iteration that gives up. -/
theorem IsLooped.cases_of_holdsAfter (h : family.IsLooped giveUp ending)
    (hheld : family.HoldsAfter stop count r) :
    (∃ progress, family.Reaches stop progress ∧ progress.iterations = count ∧
      family.reaction progress.state = r) ∨
    ∃ progress halt run, family.Reaches stop progress ∧ progress.iterations + 1 = count ∧
      (family.advance stop progress).value = .error halt ∧ giveUp halt = .ok run ∧
        run.reaction = r := by
  rcases hheld with ⟨-, -, hpasses⟩ | ⟨run, hrun, rfl, rfl⟩
  · exact .inl hpasses
  · rcases h.cases hrun with ⟨halt, hfinal, hgive⟩ | ⟨ended, hfinal, rfl⟩
    · obtain ⟨progress, reached, -, -, herror⟩ := Progress.gives_up_of_final hfinal
      have hcount := (h.giveUp_eq _ _ _ _ herror hgive).symm
      exact .inr ⟨progress, halt, run, reached, hcount, herror, hgive, rfl⟩
    · exact .inl ⟨ended, (h.reaches_of_final hfinal).1, (h.iterations_eq _ _).symm,
        (h.reaction_eq _ _).symm⟩

/-- Runs that are alike hold the same reactions at the same times. -/
theorem IsLooped.unique (h : family.IsLooped giveUp ending) (hRel : family.IsAlike stop stop' Rel)
    (hheld : family.HoldsAfter stop count r) (hheld' : family.HoldsAfter stop' count r') : r = r' := by
  rcases h.cases_of_holdsAfter hheld with
    ⟨p, reached, hcount, rfl⟩ | ⟨p, halt, run, reached, hcount, herror, hgive, rfl⟩ <;>
  rcases h.cases_of_holdsAfter hheld' with
    ⟨p', reached', hcount', rfl⟩ | ⟨p', halt', run', reached', hcount', herror', hgive', rfl⟩
  · exact hRel.reaction_eq _ _
      (hRel.alike.rel_of_reaches hRel.start reached reached' (hcount.trans hcount'.symm))
  · exact absurd (hcount.trans hcount'.symm)
      (hRel.alike.symm.not_reaches_of_error hRel.start reached' herror' reached)
  · exact absurd (hcount'.trans hcount.symm)
      (hRel.alike.not_reaches_of_error hRel.start reached herror reached')
  · have hrel := hRel.alike.rel_of_reaches hRel.start reached reached' (by omega)
    rw [hRel.alike.error _ _ _ hrel herror] at herror'
    obtain rfl := Except.error.inj herror'
    obtain rfl := Except.ok.inj (hgive.symm.trans hgive')
    rfl

theorem IsLooped.capCuts (h : family.IsLooped giveUp ending) : family.CapCuts where
  same _ _ _ _ hle hrun hstopped := h.run_eq_of_le hle hrun hstopped
  held_by_larger _ _ _ _ hle hrun hcount := h.holdsAfter_larger hle hrun hcount
  unique_of_tolerance _ _ _ _ _ _ hheld hheld' :=
    h.unique (isAlike_of_advance_eq (h.advance_eq _ _ _)) hheld hheld'

/-! ### Tolerances -/

/-- Among runs that are alike, the one with the second tolerance goes on whenever the other one does. -/
structure KeepsStep (family : RunFamily R E H S n) (cap : Nat) (loose tight : R)
    (Rel : Progress E S → Progress E S → Prop) : Prop where
  isAlike : family.IsAlike ⟨cap, loose⟩ ⟨cap, tight⟩ Rel
  due_start : family.due loose family.start.error → family.due tight family.start.error
  due_next : ∀ progress progress' outcome outcome', Rel progress progress' →
    (family.advance ⟨cap, loose⟩ progress).value = .ok outcome →
      (family.advance ⟨cap, tight⟩ progress').value = .ok outcome' →
        family.due loose outcome.1 → family.due tight outcome'.1

variable {cap : Nat} {loose tight : R}

theorem KeepsStep.outlasts (h : family.KeepsStep cap loose tight Rel) :
    Progress.Outlasts (family.due loose) (family.due tight) (family.advance ⟨cap, loose⟩)
      (family.advance ⟨cap, tight⟩) Rel where
  toAlike := h.isAlike.alike
  due_next := h.due_next

/-- What the run of one tolerance ends with, a run that keeps step with it holds at that time. -/
theorem IsLooped.holdsAfter_tighter (h : family.IsLooped giveUp ending)
    (hstep : family.KeepsStep cap loose tight Rel) (hrun : family.run ⟨cap, loose⟩ = .ok run) :
    family.HoldsAfter ⟨cap, tight⟩ run.iterations run.reaction := by
  rcases h.cases hrun with ⟨halt, hfinal, hgive⟩ | ⟨ended, hfinal, rfl⟩
  · have htight : family.final ⟨cap, tight⟩ = .error halt :=
      hstep.outlasts.final_eq_error hstep.isAlike.start hstep.due_start hfinal
    exact .inr ⟨run, (h.run_eq_giveUp _ _ htight).trans hgive, rfl, rfl⟩
  · obtain ⟨reached, hle⟩ := h.reaches_of_final hfinal
    obtain ⟨progress, reached', hrel, -⟩ :=
      hstep.outlasts.exists_reaches hstep.isAlike.start hstep.due_start reached
    rw [h.iterations_eq, h.reaction_eq]
    exact .inl ⟨h.loops, hle, progress, reached', (hstep.isAlike.alike.iterations_eq _ _ hrel).symm,
      (hstep.isAlike.reaction_eq _ _ hrel).symm⟩

/-- A run counts at least as many iterations as its loop has made at any position within its cap. -/
theorem IsLooped.iterations_le_of_reaches (h : family.IsLooped giveUp ending)
    (reached : family.Reaches stop progress) (hle : progress.iterations ≤ stop.cap)
    (hrun : family.run stop = .ok run) : progress.iterations ≤ run.iterations := by
  obtain ⟨left, hleft⟩ := Nat.exists_eq_add_of_le hle
  have hcap : stop.cap = progress.iterations - family.start.iterations + left := by
    rw [h.start_eq, Nat.sub_zero, hleft]
  rcases h.cases hrun with ⟨halt, hfinal, hgive⟩ | ⟨ended, hfinal, rfl⟩
  · rw [final, hcap, Progress.final_of_reaches reached] at hfinal
    obtain ⟨last, hlast, -, -, herror⟩ := Progress.gives_up_of_final hfinal
    rw [h.giveUp_eq _ _ _ _ herror hgive]
    exact Nat.le_succ_of_le hlast.iterations_le
  · rw [final, hcap, Progress.final_of_reaches reached] at hfinal
    rw [h.iterations_eq]
    exact (Progress.ends_of_final hfinal).reached.iterations_le

/-- A run counts no less than the time at which it holds some reaction. -/
theorem IsLooped.count_le (h : family.IsLooped giveUp ending)
    (hheld : family.HoldsAfter stop count r) (hrun : family.run stop = .ok run) :
    count ≤ run.iterations := by
  rcases hheld with ⟨-, hle, progress, reached, rfl, -⟩ | ⟨run', hrun', rfl, -⟩
  · exact h.iterations_le_of_reaches reached hle hrun
  · obtain rfl := Except.ok.inj (hrun.symm.trans hrun')
    exact Nat.le_refl _

theorem IsLooped.toleranceCuts [Scalar R] (h : family.IsLooped giveUp ending)
    (halike : ∀ stop stop', family.IsAlike stop stop' Rel)
    (hstep : ∀ cap loose tight, tight ≤ loose → family.KeepsStep cap loose tight Rel) :
    family.ToleranceCuts where
  iterations_le _ _ _ _ _ hle hrun hrun' :=
    h.count_le (h.holdsAfter_tighter (hstep _ _ _ hle) hrun) hrun'
  held_by_tighter _ _ _ _ hle hrun := h.holdsAfter_tighter (hstep _ _ _ hle) hrun
  unique _ _ _ _ _ hheld hheld' := h.unique (halike _ _) hheld hheld'

/-- The iterations read neither of the two parameters. -/
theorem IsLooped.onlyCuts [Scalar R] (h : family.IsLooped giveUp ending)
    (hadvance : ∀ stop stop', family.advance stop = family.advance stop')
    (hdue : ∀ loose tight error, tight ≤ loose → family.due loose error → family.due tight error) :
    family.OnlyCuts where
  toCapCuts := h.capCuts
  toToleranceCuts := by
    refine h.toleranceCuts (fun _ _ => isAlike_of_advance_eq (hadvance _ _)) ?_
    intro cap loose tight hle
    refine ⟨isAlike_of_advance_eq (hadvance _ _), hdue loose tight _ hle, ?_⟩
    rintro progress _ outcome outcome' rfl hok hok'
    rw [hadvance _ ⟨cap, tight⟩, hok'] at hok
    obtain rfl := Except.ok.inj hok
    exact hdue loose tight _ hle

end RunFamily

end Complementarity
