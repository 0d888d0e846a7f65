import Complementarity.Proofs.FixedThresholds
import Complementarity.Proofs.LatinRuns
import Complementarity.Proofs.ReportedCalls
import Complementarity.Proofs.TrivialSolutions
import Complementarity.Proofs.Verbosity

/-!
Which calls come with a threshold.

Only the Tresca method fixes thresholds, and a checked configuration has a projection onto the
cylinder inside the Tresca method and nowhere else. So whenever a solver for single contacts is
called, a threshold is there exactly if the solver projects onto the cylinder, and then it belongs to
the reaction that the current outer iteration starts from. What a solver makes of a contact that does
not suit it plays no part in any run (`guarded`).
-/

namespace Complementarity

variable {R : Type}

/-- A threshold is there exactly for the projection onto the cylinder. -/
def SolverId.Suits (solver : SolverId) (threshold? : Option R) : Prop :=
  threshold?.isSome = true ↔ solver = .cylinderProjection

instance (solver : SolverId) (threshold? : Option R) : Decidable (solver.Suits threshold?) :=
  inferInstanceAs (Decidable (_ ↔ _))

open Traced

section Methods

variable [Scalar R]

namespace FrictionProblem

variable {problem : FrictionProblem R} {solver : ContactSolver R}

/-! ### Pairs -/

omit [Scalar R] in
theorem suits_of_thresholdAt {thresholds? : Option (List R)} {c : Nat} {threshold? : Option R}
    {solver : SolverId} (h : thresholdAt thresholds? c = .ok threshold?) :
    solver.Suits threshold? ↔ solver.Suits thresholds? := by
  rw [SolverId.Suits, SolverId.Suits, isSome_of_thresholdAt h]

/-- Thresholds go with projections onto the cylinder: the problem of a call has a threshold exactly
if the call projects so, and then it is the threshold of its contact at the reaction that the
current outer iteration starts from. -/
structure PairsThresholds (problem : FrictionProblem R) (tree : ConfigTree R)
    (start : Candidate R problem.size) (events : List (Event R)) : Prop where
  suits (solver : SolverId) (contact : Nat) (own : ContactProblem R) :
    .contactCall solver contact own ∈ events → solver.Suits own.threshold?
  fixed (before after : List (Event R)) (solver : SolverId) (contact : Nat)
    (own : ContactProblem R) (threshold : R) :
    events = before ++ .contactCall solver contact own :: after →
    own.threshold? = some threshold →
    ∃ (c : Fin problem.contacts) (params : TrescaParams R) (progress : _),
      c.val = contact ∧ TrescaParams.ofTree tree = .ok params ∧
      problem.IsCalledIn params start before (.contactCall solver contact own) progress ∧
      threshold = problem.thresholdOf progress.state.candidate.reaction c

namespace PairsThresholds

variable {tree : ConfigTree R} {start : Candidate R problem.size} {events more : List (Event R)}

theorem of_messages (h : ∀ event ∈ events, event.IsMessage) :
    problem.PairsThresholds tree start events where
  suits solver contact own hmem := nomatch h _ hmem
  fixed before after solver contact own threshold hsplit _ := by
    subst hsplit
    exact nomatch h _ List.mem_append_cons_self

theorem append (h : problem.PairsThresholds tree start events)
    (hmore : problem.PairsThresholds tree start more) :
    problem.PairsThresholds tree start (events ++ more) where
  suits solver contact own hmem :=
    (List.mem_append.mp hmem).elim (h.suits _ _ _) (hmore.suits _ _ _)
  fixed before after solver contact own threshold hsplit hown := by
    rcases split_append hsplit with ⟨rest, hevents⟩ | ⟨inner, rfl, hevents⟩
    · exact h.fixed before rest solver contact own threshold hevents hown
    · obtain ⟨c, params, progress, hc, hparams, hcalled, heq⟩ :=
        hmore.fixed inner after solver contact own threshold hevents hown
      exact ⟨c, params, progress, hc, hparams, hcalled.append events, heq⟩

end PairsThresholds

/-! ### Configurations -/

variable {tree : ConfigTree R}

/-- A node configures the solver that it names. -/
theorem solver_of_ofNode {node : Node R} (h : ContactSolver.ofNode node = .ok solver) :
    solver.solver = node.solver := by
  obtain ⟨tolerance, -, h⟩ := exists_of_bind_eq_ok h
  split at h
  · rename_i hsolver
    cases h
    exact hsolver.symm
  · rename_i hsolver
    obtain ⟨_, -, h⟩ := exists_of_bind_eq_ok h
    cases h
    exact hsolver.symm
  · rename_i hsolver
    cases h
    exact hsolver.symm
  · rename_i hsolver
    obtain ⟨_, -, h⟩ := exists_of_bind_eq_ok h
    cases h
    exact hsolver.symm
  · cases h

/-- Checked sweeps on their own call a solver that takes no threshold. -/
theorem gaussSeidelParams_suits {params : SweepParams R} (hvalid : tree.validate = .ok ())
    (hroot : tree.root.solver = .gaussSeidel)
    (h : gaussSeidelParams tree = .ok (solver, params)) :
    solver.IsStock ∧ solver.solver.Suits (none : Option (List R)) := by
  obtain ⟨below, hbelow, h⟩ := exists_of_bind_eq_ok h
  obtain ⟨solver', hsolver, h⟩ := exists_of_bind_eq_ok h
  obtain ⟨_, -, h⟩ := exists_of_bind_eq_ok h
  cases h
  refine ⟨ContactSolver.isStock_of_ofNode hsolver, ?_⟩
  rw [SolverId.Suits, solver_of_ofNode hsolver]
  cases (ConfigTree.isWellShaped_of_validate hvalid).1 with
  | alone => cases hbelow
  | sweeps _ _ hne =>
    cases hbelow
    exact iff_of_false nofun hne
  | thresholds houter => rw [ConfigTree.root, houter] at hroot; cases hroot

/-- The sweeps inside a checked Tresca method call the projection onto the cylinder. -/
theorem trescaParams_suits {params : TrescaParams R} (hvalid : tree.validate = .ok ())
    (hroot : tree.root.solver = .trescaFixedPoint) (h : TrescaParams.ofTree tree = .ok params) :
    params.solver.IsStock ∧ params.solver.solver = .cylinderProjection := by
  obtain ⟨sweeps, hsweeps, h⟩ := exists_of_bind_eq_ok h
  obtain ⟨below, hbelow, h⟩ := exists_of_bind_eq_ok h
  obtain ⟨solver, hsolver, h⟩ := exists_of_bind_eq_ok h
  obtain ⟨inner, -, h⟩ := exists_of_bind_eq_ok h
  have hrecord := eq_some_of_ofOption h
  simp only [Option.bind_eq_bind, Option.bind_eq_some_iff] at hrecord
  obtain ⟨_, -, cap, -, tolerance, -, heq⟩ := hrecord
  cases heq
  refine ⟨ContactSolver.isStock_of_ofNode hsolver, ?_⟩
  change solver.solver = _
  rw [solver_of_ofNode hsolver]
  cases (ConfigTree.isWellShaped_of_validate hvalid).1 with
  | alone => cases hsweeps
  | sweeps houter => rw [ConfigTree.root, houter] at hroot; cases hroot
  | thresholds _ _ hcontact =>
    cases hsweeps
    cases hbelow
    exact hcontact

/-! ### Algorithms -/

variable {start : Candidate R problem.size}

omit [Scalar R] in
theorem events_answering {B : Type} (run : Traced R (Except Fault B)) :
    (answering run).events = run.events :=
  events_map run _

theorem gaussSeidelFrom_pairs (hvalid : tree.validate = .ok ())
    (hroot : tree.root.solver = .gaussSeidel) :
    problem.PairsThresholds tree start (problem.gaussSeidelFrom tree start).events := by
  unfold gaussSeidelFrom
  cases hparams : gaussSeidelParams tree with
  | error failure => exact .of_messages nofun
  | ok pair =>
    obtain ⟨solver, params⟩ := pair
    obtain ⟨hstock, hsuits⟩ := gaussSeidelParams_suits hvalid hroot hparams
    have hcalls : (problem.gaussSeidel params solver none start).Reports _ :=
      gaussSeidel_calls hstock params none start
    refine ⟨fun called contact own hmem => ?_,
      fun before after called contact own threshold hsplit hown => ?_⟩
    · rw [events_answering] at hmem
      obtain ⟨rfl, c, -, hthreshold⟩ := (hcalls _ hmem).exists_of_call
      exact (suits_of_thresholdAt hthreshold).mpr hsuits
    · rw [events_answering] at hsplit
      obtain ⟨rfl, c, -, hthreshold⟩ :=
        (hcalls _ (hsplit ▸ List.mem_append_cons_self)).exists_of_call
      rw [hown] at hthreshold
      cases hthreshold

theorem trescaFrom_pairs (hspatial : problem.tangents = 2) (hvalid : tree.validate = .ok ())
    (hroot : tree.root.solver = .trescaFixedPoint) :
    problem.PairsThresholds tree start (problem.trescaFrom tree start).events := by
  unfold trescaFrom
  cases hparams : TrescaParams.ofTree tree with
  | error failure => exact .of_messages nofun
  | ok params =>
    obtain ⟨hstock, hcylinder⟩ := trescaParams_suits hvalid hroot hparams
    have hiterations : problem.PairsThresholds tree start
        (Progress.iterate (Residual.Exceeds params.tolerance) (problem.trescaStep params)
          params.iterationCap (trescaStart params start)).events := by
      refine ⟨fun solver contact own hmem => ?_,
        fun before after solver contact own threshold hsplit hown => ?_⟩
      · obtain ⟨before, after, hsplit⟩ := List.append_of_mem hmem
        obtain ⟨rfl, c, progress, -, -, hthreshold⟩ := exists_isCalledIn hstock hsplit
        rw [suits_of_thresholdAt hthreshold]
        exact iff_of_true rfl hcylinder
      · obtain ⟨rfl, c, progress, hc, hcalled, hthreshold⟩ := exists_isCalledIn hstock hsplit
        exact ⟨c, params, progress, hc, hparams, hcalled,
          Option.some.inj (hown ▸ thresholdAt_eq_thresholdOf hspatial hthreshold)⟩
    dsimp only
    rw [events_answering]
    refine hiterations.append (.of_messages ?_)
    -- the iterations are over, and what is left is to tell how they ended
    generalize (Progress.iterate (Residual.Exceeds params.tolerance) _ _ _).value = outcome
    rcases outcome with (_ | _) | ended
    · exact Reports.pure _
    · exact Reports.pure _
    · exact Reports.bind (.reportIf fun _ => rfl) fun _ => .pure _

theorem tangents_of_check {solver : SolverId} (h : checkDimension solver 3 problem = .ok ()) :
    problem.tangents = 2 := by
  unfold checkDimension at h
  split at h
  · rename_i hdimension
    exact Nat.succ.inj hdimension
  · cases h

/-- No algorithm for frictional contact mixes up its calls. -/
theorem stock_pairs : ∀ algorithm ∈ stock (R := R), ∀ (problem : FrictionProblem R)
    (tree : ConfigTree R) (start : Candidate R problem.size), algorithm.check problem = .ok () →
      tree.validate = .ok () → tree.root.solver = algorithm.solver →
      problem.PairsThresholds tree start (algorithm.run problem tree start).events := by
  intro algorithm hmem problem tree start hcheck hvalid hroot
  simp only [stock, List.mem_cons, List.not_mem_nil, or_false] at hmem
  rcases hmem with rfl | rfl | rfl | rfl | rfl | rfl | rfl
  · exact .of_messages (withParams_messages fun params => planarGaussSeidel_messages params start)
  · exact gaussSeidelFrom_pairs hvalid hroot
  · exact trescaFrom_pairs (tangents_of_check hcheck) hvalid hroot
  all_goals
    exact .of_messages (withParams_messages fun _ =>
      runMethod_messages (fun _ => reported_messages _ _ _ _ _ _) _ _ _ _ _ _)

end FrictionProblem

/-! ### Contacts that do not suit a solver -/

/-- The solver with another answer for the contacts that do not suit it: those that lack a threshold
it needs, or have one it ignores. -/
def ContactSolver.guarded
    (fallback : ContactProblem R → Block R 2 → Traced R (ContactReport R × Block R 2))
    (solver : ContactSolver R) : ContactSolver R where
  solver := solver.solver
  solve problem r :=
    if solver.solver.Suits problem.threshold? then solver.solve problem r else fallback problem r

namespace FrictionProblem

variable {problem : FrictionProblem R} {solver : ContactSolver R} {thresholds? : Option (List R)}
  {tree : ConfigTree R}
  (fallback : ContactProblem R → Block R 2 → Traced R (ContactReport R × Block R 2))

theorem updateContact_guarded (hsuits : solver.solver.Suits thresholds?) (relaxation : R)
    (c : Fin problem.contacts) (swept : Swept R problem.size) :
    problem.updateContact relaxation (solver.guarded fallback) thresholds? c swept =
      problem.updateContact relaxation solver thresholds? c swept := by
  unfold updateContact
  split
  · rfl
  · rename_i threshold? hthreshold
    have hcalled (fits : problem.Fits c) : (solver.guarded fallback).solve
        (problem.contactProblem c fits swept.reaction threshold?) =
        solver.solve (problem.contactProblem c fits swept.reaction threshold?) := by
      funext r
      exact if_pos ((suits_of_thresholdAt hthreshold).mpr hsuits)
    simp only [hcalled]
    rfl

theorem sweepContacts_guarded (hsuits : solver.solver.Suits thresholds?) (relaxation : R)
    (contacts : List (Fin problem.contacts)) (swept : Swept R problem.size) :
    problem.sweepContacts relaxation (solver.guarded fallback) thresholds? contacts swept =
      problem.sweepContacts relaxation solver thresholds? contacts swept := by
  induction contacts generalizing swept with
  | nil => rfl
  | cons c rest ih => simp only [sweepContacts, updateContact_guarded fallback hsuits, ih]

/-- Sweeps make no use of what their solver does with contacts that do not suit it. -/
theorem gaussSeidel_guarded (hsuits : solver.solver.Suits thresholds?) (params : SweepParams R)
    (start : Candidate R problem.size) :
    problem.gaussSeidel params (solver.guarded fallback) thresholds? start =
      problem.gaussSeidel params solver thresholds? start := by
  have hstep : problem.sweepStep params (solver.guarded fallback) thresholds? =
      problem.sweepStep params solver thresholds? := by
    funext progress
    simp only [sweepStep, sweepContacts_guarded fallback hsuits]
  rw [gaussSeidel, hstep]
  rfl

theorem trescaFixedPoint_guarded {params : TrescaParams R}
    (hcylinder : params.solver.solver = .cylinderProjection) (start : Candidate R problem.size) :
    problem.trescaFixedPoint { params with solver := params.solver.guarded fallback } start =
      problem.trescaFixedPoint params start := by
  have hstep : problem.trescaStep { params with solver := params.solver.guarded fallback } =
      problem.trescaStep params := by
    funext progress
    have hsuits (r : Vec R problem.size) :
        params.solver.solver.Suits (some (problem.thresholdsAt r)) := iff_of_true rfl hcylinder
    simp only [trescaStep, gaussSeidel_guarded fallback (hsuits _)]
    rfl
  rw [trescaFixedPoint, hstep]
  rfl

/-- The algorithm with a guard before the solver for single contacts, if it calls one. -/
def guardedAlgorithm (algorithm : Algorithm R (FrictionProblem R)) :
    Algorithm R (FrictionProblem R) where
  solver := algorithm.solver
  check := algorithm.check
  run problem tree start :=
    match algorithm.solver with
    | .gaussSeidel =>
      match gaussSeidelParams tree with
      | .error failure => pure (.error failure)
      | .ok (solver, params) =>
        answering (problem.gaussSeidel params (solver.guarded fallback) none start)
    | .trescaFixedPoint =>
      match TrescaParams.ofTree tree with
      | .error failure => pure (.error failure)
      | .ok params =>
        answering <|
          problem.trescaFixedPoint { params with solver := params.solver.guarded fallback } start
    | _ => algorithm.run problem tree start

theorem stock_guarded : ∀ algorithm ∈ stock (R := R), ∀ (problem : FrictionProblem R)
    (tree : ConfigTree R) (start : Candidate R problem.size), tree.validate = .ok () →
      tree.root.solver = algorithm.solver →
      (guardedAlgorithm fallback algorithm).run problem tree start =
        algorithm.run problem tree start := by
  intro algorithm hmem problem tree start hvalid hroot
  simp only [stock, List.mem_cons, List.not_mem_nil, or_false] at hmem
  rcases hmem with rfl | rfl | rfl | rfl | rfl | rfl | rfl
  · rfl
  · change _ = problem.gaussSeidelFrom tree start
    unfold gaussSeidelFrom
    simp only [guardedAlgorithm]
    cases hparams : gaussSeidelParams tree with
    | error failure => rfl
    | ok pair =>
      exact congrArg answering
        (gaussSeidel_guarded fallback (gaussSeidelParams_suits hvalid hroot hparams).2 _ _)
  · change _ = problem.trescaFrom tree start
    unfold trescaFrom
    simp only [guardedAlgorithm]
    cases hparams : TrescaParams.ofTree tree with
    | error failure => rfl
    | ok params =>
      exact congrArg answering
        (trescaFixedPoint_guarded fallback (trescaParams_suits hvalid hroot hparams).2 _)
  all_goals rfl

/-- The dispatcher with a guard in each of its algorithms. -/
def guardedDispatcher (dispatcher : Dispatcher R (FrictionProblem R)) :
    Dispatcher R (FrictionProblem R) :=
  ⟨dispatcher.algorithms.map (guardedAlgorithm fallback)⟩

theorem select_guarded (dispatcher : Dispatcher R (FrictionProblem R))
    (problem : FrictionProblem R) (tree : ConfigTree R) :
    (guardedDispatcher fallback dispatcher).select problem tree =
      (dispatcher.select problem tree).map (guardedAlgorithm fallback) := by
  have hfind : (guardedDispatcher fallback dispatcher).find? tree.root.solver =
      (dispatcher.find? tree.root.solver).map (guardedAlgorithm fallback) :=
    List.find?_map ..
  unfold Dispatcher.select
  rw [hfind]
  cases tree.validate with
  | error error => rfl
  | ok _ =>
    cases dispatcher.find? tree.root.solver with
    | none => rfl
    | some algorithm =>
      change (algorithm.check problem).bind _ = Except.map _ ((algorithm.check problem).bind _)
      cases algorithm.check problem <;> rfl

/-- A call of a dispatcher of stock algorithms goes as if there were a guard. -/
theorem solve_guarded {dispatcher : Dispatcher R (FrictionProblem R)}
    (assembled : dispatcher.Assembled stock) (problem : FrictionProblem R) (tree : ConfigTree R)
    (verbosity? : Option UInt8) :
    (guardedDispatcher fallback dispatcher).solve problem tree verbosity? =
      dispatcher.solve problem tree verbosity? := by
  simp only [Dispatcher.solve_eq, select_guarded]
  cases hselect : dispatcher.select problem
      (Dispatcher.effective tree.fillDefaults verbosity?) with
  | error error => rfl
  | ok algorithm =>
    obtain ⟨hvalid, hmem, hsolver⟩ := Dispatcher.select_eq_ok hselect
    have hrun : (guardedAlgorithm fallback algorithm).run problem
        (Dispatcher.effective tree.fillDefaults verbosity?) =
        algorithm.run problem (Dispatcher.effective tree.fillDefaults verbosity?) :=
      funext fun start => stock_guarded fallback algorithm (assembled.mem_stock _ hmem) problem _
        start hvalid hsolver.symm
    simp only [Except.map, Dispatcher.runAlgorithm, hrun]

end FrictionProblem

/-! ### Calls of a dispatcher -/

theorem Dispatcher.events_solve {P : Type} [Problem R P] (dispatcher : Dispatcher R P)
    (problem : P) (tree : ConfigTree R) (verbosity? : Option UInt8) :
    (dispatcher.solve problem tree verbosity?).events =
      match dispatcher.select problem (effective tree.fillDefaults verbosity?) with
      | .error _ => []
      | .ok algorithm =>
        (runAlgorithm algorithm problem (effective tree.fillDefaults verbosity?)).events := by
  rw [solve_eq]
  cases dispatcher.select problem (effective tree.fillDefaults verbosity?) with
  | error error => rfl
  | ok algorithm => exact List.append_nil _

theorem Dispatcher.check_of_select {P : Type} [Problem R P] {dispatcher : Dispatcher R P}
    {problem : P} {tree : ConfigTree R} {algorithm : Algorithm R P}
    (h : dispatcher.select problem tree = .ok algorithm) : algorithm.check problem = .ok () := by
  obtain ⟨_, -, h⟩ := exists_of_bind_eq_ok h
  split at h
  · cases h
  · obtain ⟨_, hcheck, h⟩ := exists_of_bind_eq_ok h
    cases h
    exact hcheck

theorem FrictionProblem.solve_pairs {dispatcher : Dispatcher R (FrictionProblem R)}
    (assembled : dispatcher.Assembled stock) (problem : FrictionProblem R) (tree : ConfigTree R)
    (verbosity? : Option UInt8) :
    problem.PairsThresholds (Dispatcher.effective tree.fillDefaults verbosity?)
      (Candidate.zero problem.size) (dispatcher.solve problem tree verbosity?).events := by
  rw [Dispatcher.events_solve]
  cases hselect : dispatcher.select problem
      (Dispatcher.effective tree.fillDefaults verbosity?) with
  | error error => exact .of_messages nofun
  | ok algorithm =>
    obtain ⟨hvalid, hmem, hsolver⟩ := Dispatcher.select_eq_ok hselect
    have hpairs := stock_pairs algorithm (assembled.mem_stock _ hmem) problem _
      (Candidate.zero problem.size) (Dispatcher.check_of_select hselect) hvalid hsolver.symm
    simp only [Dispatcher.runAlgorithm, Problem.trivialSolution]
    by_cases hopen : problem.IsOpen
    · simp only [if_pos hopen]
      exact .of_messages (Reports.bind (.reportIf fun _ => rfl) fun _ => .pure _)
    · simp only [if_neg hopen]
      exact .append (.of_messages (Reports.reportIf fun _ => rfl)) hpairs

theorem RelayProblem.solve_messages {dispatcher : Dispatcher R (RelayProblem R)}
    (assembled : dispatcher.Assembled stock) (problem : RelayProblem R) (tree : ConfigTree R)
    (verbosity? : Option UInt8) :
    (dispatcher.solve problem tree verbosity?).Reports Event.IsMessage := by
  rw [Reports, Dispatcher.events_solve]
  cases hselect : dispatcher.select problem
      (Dispatcher.effective tree.fillDefaults verbosity?) with
  | error error =>
    intro event hmem
    cases hmem
  | ok algorithm =>
    have hstock := assembled.mem_stock _ (Dispatcher.select_eq_ok hselect).2.1
    have hrun (start : Candidate R problem.size) : (algorithm.run problem
        (Dispatcher.effective tree.fillDefaults verbosity?) start).Reports Event.IsMessage := by
      simp only [stock, List.mem_cons, List.not_mem_nil, or_false] at hstock
      rcases hstock with rfl | rfl
      · exact FrictionProblem.withParams_messages problem.gaussSeidel_messages
      · exact FrictionProblem.withParams_messages problem.latin_messages
    dsimp only [Dispatcher.runAlgorithm]
    split
    · exact Reports.bind (.reportIf fun _ => rfl) fun _ => .pure _
    · exact Reports.bind (.reportIf fun _ => rfl) fun _ => hrun _

end Methods

/-! ### Exact thresholds -/

theorem FrictionProblem.thresholdOf_eq (problem : FrictionProblem ℝ)
    (r : Stack ℝ problem.contacts problem.tangents) (c : Fin problem.contacts) :
    problem.thresholdOf r c = problem.friction.get c * max (r.block c).normal 0 := by
  rw [thresholdOf, Scalar.greater_eq_max]

namespace FrictionProblem

theorem slidingContact_not_open : ¬slidingContact.IsOpen := by
  intro hopen
  have hnormal : -Scalar.epsilon ≤ (-1 : ℝ) := hopen (0 : Fin 1)
  norm_num [Scalar.epsilon] at hnormal

theorem thresholdOf_zero (problem : FrictionProblem ℝ) (c : Fin problem.contacts) :
    problem.thresholdOf (Vec.zero problem.size) c = 0 := by
  rw [thresholdOf_eq, block_zero, Block.normal_zero, max_self, mul_zero]

/-- Solved by the Tresca method, the sliding contact is first projected onto the cylinder of the
threshold zero. -/
theorem slidingContact_callsFirst :
    ∃ own after, own.threshold? = some 0 ∧
      (dispatcher.solve slidingContact (.ofSolver .trescaFixedPoint) none).events =
        [slidingContact.fixing (Vec.zero 3)] ++ .contactCall .cylinderProjection 0 own ::
          after := by
  have hvalid : (ConfigTree.ofSolver .trescaFixedPoint : ConfigTree ℝ).validate = .ok () :=
    ConfigTree.validate_ofSolver nofun
  obtain ⟨algorithm, hfind, hcheck, hrun⟩ : ∃ algorithm : Algorithm ℝ (FrictionProblem ℝ),
      dispatcher.find? .trescaFixedPoint = some algorithm ∧
        algorithm.check slidingContact = .ok () ∧
        algorithm.run slidingContact = slidingContact.trescaFrom :=
    ⟨_, rfl, rfl, rfl⟩
  have hselect : dispatcher.select slidingContact (.ofSolver .trescaFixedPoint) =
      .ok algorithm := by
    rw [Dispatcher.select_of_found hvalid hfind, hcheck]
    rfl
  obtain ⟨params, hparams, hcap, hinner⟩ : ∃ params,
      TrescaParams.ofTree (ConfigTree.ofSolver .trescaFixedPoint : ConfigTree ℝ) = .ok params ∧
        0 < params.iterationCap ∧ 0 < params.inner.iterationCap :=
    ⟨_, rfl, by decide, by decide⟩
  have hcylinder := (trescaParams_suits hvalid rfl hparams).2
  have hpos : 0 < slidingContact.contacts := one_pos
  have fits : slidingContact.Fits ⟨0, hpos⟩ := slidingContact.fits_of_spatial rfl _
  obtain ⟨after, hafter⟩ := trescaFixedPoint_callsFirst params hpos rfl fits hcap
    (Residual.exceeds_unmeasured _) hinner (Residual.exceeds_unmeasured _) (.zero _)
  have hfirst : slidingContact.thresholdOf (Candidate.zero _).reaction ⟨0, hpos⟩ = 0 :=
    slidingContact.thresholdOf_zero _
  rw [hcylinder, hfirst] at hafter
  refine ⟨slidingContact.contactProblem ⟨0, hpos⟩ fits (Vec.zero 3) (some 0), after, rfl, ?_⟩
  rw [Dispatcher.events_solve, Dispatcher.effective_none,
    show (ConfigTree.ofSolver .trescaFixedPoint : ConfigTree ℝ).fillDefaults =
      .ofSolver .trescaFixedPoint from rfl, hselect]
  dsimp only [Dispatcher.runAlgorithm, Problem.trivialSolution]
  rw [if_neg slidingContact_not_open]
  dsimp only
  rw [hrun, trescaFrom, hparams]
  exact (events_answering _).trans hafter.symm

end FrictionProblem

/-- Whatever algorithms of the library a dispatcher has been given, thresholds and projections onto
the cylinder come together in every call of a solver for single contacts: in those of a friction
problem, and there are no others. In exact arithmetic such a threshold is `μ max(r_N, 0)` for the
reaction that the current outer iteration starts from. So it does not matter what the projection
does without a threshold and the other solvers with one. -/
theorem thresholds_meet_cylinders (R : Type) [Scalar R] :
    (∀ dispatcher : Dispatcher R (FrictionProblem R), dispatcher.Assembled FrictionProblem.stock →
      ∀ problem tree verbosity?,
        problem.PairsThresholds (Dispatcher.effective tree.fillDefaults verbosity?)
          (Candidate.zero problem.size) (dispatcher.solve problem tree verbosity?).events ∧
        ∀ fallback,
          (FrictionProblem.guardedDispatcher fallback dispatcher).solve problem tree verbosity? =
            dispatcher.solve problem tree verbosity?) ∧
    (∀ dispatcher : Dispatcher R (RelayProblem R), dispatcher.Assembled RelayProblem.stock →
      ∀ problem tree verbosity? solver contact own,
        .contactCall solver contact own ∉
          (dispatcher.solve problem tree verbosity?).events) ∧
    ∀ dispatcher : Dispatcher ℝ (FrictionProblem ℝ), dispatcher.Assembled FrictionProblem.stock →
      ∀ problem tree verbosity? before after solver contact own threshold,
        (dispatcher.solve problem tree verbosity?).events =
          before ++ .contactCall solver contact own :: after →
        own.threshold? = some threshold →
        0 ≤ threshold ∧ ∃ (c : Fin problem.contacts) (params : TrescaParams ℝ) (progress : _),
          c.val = contact ∧
          TrescaParams.ofTree (Dispatcher.effective tree.fillDefaults verbosity?) = .ok params ∧
          problem.IsCalledIn params (Candidate.zero problem.size) before
            (.contactCall solver contact own) progress ∧
          threshold = problem.friction.get c *
            max (Stack.block progress.state.candidate.reaction c).normal 0 := by
  refine ⟨fun dispatcher assembled problem tree verbosity? => ⟨?_, fun fallback => ?_⟩,
    fun dispatcher assembled problem tree verbosity? solver contact own hmem => ?_,
    fun dispatcher assembled problem tree verbosity? before after solver contact own threshold
      hsplit hown => ?_⟩
  · exact FrictionProblem.solve_pairs assembled problem tree verbosity?
  · exact FrictionProblem.solve_guarded fallback assembled problem tree verbosity?
  · exact nomatch RelayProblem.solve_messages assembled problem tree verbosity? _ hmem
  · obtain ⟨c, params, progress, hc, hparams, hcalled, heq⟩ :=
      (FrictionProblem.solve_pairs assembled problem tree verbosity?).fixed before after solver
        contact own threshold hsplit hown
    rw [FrictionProblem.thresholdOf_eq] at heq
    refine ⟨?_, c, params, progress, hc, hparams, hcalled, heq⟩
    rw [heq]
    exact mul_nonneg (problem.friction_nonneg c) (le_max_right _ _)

/-- The full dispatchers at work: the Tresca method projects the sliding contact onto a cylinder in
its first call, under the threshold at the reaction it starts from, and it would go on in the same
way if its solver gave up without a threshold; a relay problem calls no such solver. -/
theorem slidingContact_called :
    FrictionProblem.dispatcher.Assembled (FrictionProblem.stock (R := ℝ)) ∧
    RelayProblem.dispatcher.Assembled (RelayProblem.stock (R := ℝ)) ∧
    (∃ own after, own.threshold? = some 0 ∧
      (FrictionProblem.dispatcher.solve FrictionProblem.slidingContact
        (.ofSolver .trescaFixedPoint) none).events =
          [FrictionProblem.slidingContact.fixing (Vec.zero 3)] ++
            .contactCall .cylinderProjection 0 own :: after ∧
      SolverId.cylinderProjection.Suits own.threshold? ∧
      ∃ params progress, TrescaParams.ofTree (.ofSolver .trescaFixedPoint) = .ok params ∧
        FrictionProblem.slidingContact.IsCalledIn params (Candidate.zero _)
          [FrictionProblem.slidingContact.fixing (Vec.zero 3)]
          (.contactCall .cylinderProjection 0 own) progress) ∧
    (FrictionProblem.guardedDispatcher (fun _ r => pure (.degenerate, r))
      FrictionProblem.dispatcher).solve FrictionProblem.slidingContact
        (.ofSolver .trescaFixedPoint) none =
      FrictionProblem.dispatcher.solve FrictionProblem.slidingContact
        (.ofSolver .trescaFixedPoint) none ∧
    .contactCall .cylinderProjection 0 ⟨Mat.identity 3, Vec.zero 3, 0, none⟩ ∉
      (RelayProblem.dispatcher.solve RelayProblem.coupledRelays (.ofSolver .relayLatin)
        none).events := by
  obtain ⟨hfriction, hrelay, hexact⟩ := thresholds_meet_cylinders ℝ
  obtain ⟨hpairs, hguarded⟩ := hfriction FrictionProblem.dispatcher .full
    FrictionProblem.slidingContact (.ofSolver .trescaFixedPoint) none
  obtain ⟨own, after, hown, hafter⟩ := FrictionProblem.slidingContact_callsFirst
  have hsuits := hpairs.suits _ _ _ (hafter ▸ List.mem_append_cons_self)
  obtain ⟨-, c, params, progress, -, hparams, hcalled, -⟩ :=
    hexact FrictionProblem.dispatcher .full _ _ _ _ _ _ _ _ _ hafter hown
  rw [Dispatcher.effective_none] at hparams
  refine ⟨.full, .full, ⟨own, after, hown, hafter, hsuits, params, progress, hparams, hcalled⟩,
    hguarded _, ?_⟩
  exact hrelay RelayProblem.dispatcher .full _ _ _ _ _ _

end Complementarity
