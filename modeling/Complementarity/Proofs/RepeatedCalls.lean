import Complementarity.Proofs.SolveEffect

/-!
Calls with a configuration that has been used before.

What a call writes into a configuration no later call reads: neither the check nor an algorithm of
the library looks at an output entry. So a call can be repeated with what it left behind, and a
usable configuration stays usable however often it is handed on.
-/

namespace Complementarity

variable {R P : Type} [Problem R P]

/-! ### Algorithms -/

/-- The output entries play no part in a run. -/
def Algorithm.IgnoresOutputs (algorithm : Algorithm R P) : Prop :=
  ∀ (problem : P) (left right : ConfigTree R) (start : Candidate R (Problem.size problem)),
    left.SameInputs right → algorithm.run problem left start = algorithm.run problem right start

variable [Scalar R]

namespace FrictionProblem

/-- A method reads its parameters from its own node. -/
theorem ignoresOutputs_of_params {A : Type} {solver : SolverId} {dimension : Nat}
    {read : Node R → Option A}
    {method : (problem : FrictionProblem R) → A → Candidate R problem.size →
      Traced R (Run R problem.size)} (hread : ReadsInputs read) :
    Algorithm.IgnoresOutputs
      { solver, check := checkDimension solver dimension
        run := fun problem tree start =>
          withParams (read tree.root) (method problem · start) } := by
  intro problem left right start h
  dsimp only
  rw [hread _ _ h.root]

/-- No algorithm for frictional contact reads an output entry. -/
theorem stock_ignoresOutputs : ∀ algorithm ∈ stock (R := R), algorithm.IgnoresOutputs := by
  intro algorithm hmem
  simp only [stock, List.mem_cons, List.not_mem_nil, or_false] at hmem
  rcases hmem with rfl | rfl | rfl | rfl | rfl | rfl | rfl
  · exact ignoresOutputs_of_params ReadsInputs.sweepParams
  · intro problem left right start h
    dsimp only
    rw [gaussSeidelFrom, gaussSeidelFrom, h.gaussSeidelParams]
  · intro problem left right start h
    dsimp only
    rw [trescaFrom, trescaFrom, h.trescaParams]
  · exact ignoresOutputs_of_params ReadsInputs.projectionParams
  · exact ignoresOutputs_of_params ReadsInputs.projectionParams
  · exact ignoresOutputs_of_params ReadsInputs.projectionParams
  · exact ignoresOutputs_of_params ReadsInputs.hyperplaneParams

end FrictionProblem

namespace RelayProblem

open FrictionProblem (withParams)

/-- A method reads its parameters from its own node. -/
theorem ignoresOutputs_of_params {A : Type} {solver : SolverId} {read : Node R → Option A}
    {method : (problem : RelayProblem R) → A → Traced R (Run R problem.size)}
    (hread : ReadsInputs read) :
    Algorithm.IgnoresOutputs
      { solver, check := fun _ => .ok ()
        run := fun problem tree _ => withParams (read tree.root) (method problem) } := by
  intro problem left right start h
  dsimp only
  rw [hread _ _ h.root]

/-- No algorithm for relay problems reads an output entry. -/
theorem stock_ignoresOutputs : ∀ algorithm ∈ stock (R := R), algorithm.IgnoresOutputs := by
  intro algorithm hmem
  simp only [stock, List.mem_cons, List.not_mem_nil, or_false] at hmem
  rcases hmem with rfl | rfl
  · exact ignoresOutputs_of_params ReadsInputs.relaySweepParams
  · exact ignoresOutputs_of_params ReadsInputs.latinParams

end RelayProblem

/-! ### Two calls -/

namespace Dispatcher

variable {dispatcher : Dispatcher R P} {problem : P} {left right tree : ConfigTree R}
  {verbosity? : Option UInt8}

omit [Problem R P] [Scalar R] in
theorem sameInputs_effective (h : left.SameInputs right) (verbosity? : Option UInt8) :
    (effective left verbosity?).SameInputs (effective right verbosity?) := by
  unfold effective ConfigTree.withVerbosity
  rw [h.root.verbosity_eq]
  exact h.mapRoot fun _ _ hnode => hnode.withVerbosity _

theorem select_congr (h : left.SameInputs right) :
    dispatcher.select problem left = dispatcher.select problem right := by
  rw [select, h.validate, h.root.solver_eq]
  rfl

theorem runAlgorithm_congr {algorithm : Algorithm R P}
    (hignores : algorithm.IgnoresOutputs) (h : left.SameInputs right) :
    runAlgorithm algorithm problem left = runAlgorithm algorithm problem right := by
  simp only [runAlgorithm, h.root.verbosity_eq, h.root.solver_eq, hignores problem left right _ h]

/-- Calls with completed configurations that differ in output entries go the same way. -/
theorem solve_congr (hignores : ∀ algorithm ∈ dispatcher.algorithms, algorithm.IgnoresOutputs)
    (h : left.fillDefaults.SameInputs right.fillDefaults) :
    (dispatcher.solve problem left verbosity?).value.result =
        (dispatcher.solve problem right verbosity?).value.result ∧
      (dispatcher.solve problem left verbosity?).events =
        (dispatcher.solve problem right verbosity?).events := by
  have heffective := sameInputs_effective h verbosity?
  have hselect : dispatcher.select problem (effective left.fillDefaults verbosity?) =
      dispatcher.select problem (effective right.fillDefaults verbosity?) :=
    select_congr heffective
  rw [solve_eq, solve_eq, hselect]
  cases hfound : dispatcher.select problem (effective right.fillDefaults verbosity?) with
  | error error => exact ⟨rfl, rfl⟩
  | ok algorithm =>
    have hrun : runAlgorithm algorithm problem (effective left.fillDefaults verbosity?) =
        runAlgorithm algorithm problem (effective right.fillDefaults verbosity?) :=
      runAlgorithm_congr (hignores algorithm (select_eq_ok hfound).2.1) heffective
    dsimp only
    rw [hrun]
    exact ⟨rfl, rfl⟩

/-- Filling finds nothing to do in what a call has left. -/
theorem fillDefaults_solve (dispatcher : Dispatcher R P) (problem : P) (tree : ConfigTree R)
    (verbosity? : Option UInt8) :
    (dispatcher.solve problem tree verbosity?).value.tree.fillDefaults =
      (dispatcher.solve problem tree verbosity?).value.tree :=
  ConfigTree.fillDefaults_eq_self_iff.mpr
    ((sameInputs_solve dispatcher problem tree verbosity?).isFilled tree.isFilled_fillDefaults)

theorem validate_solve (dispatcher : Dispatcher R P) (problem : P) (tree : ConfigTree R)
    (verbosity? : Option UInt8) :
    (dispatcher.solve problem tree verbosity?).value.tree.validate = tree.fillDefaults.validate :=
  (sameInputs_solve dispatcher problem tree verbosity?).validate

omit [Problem R P] [Scalar R] in
/-- The same outcome may be recorded twice. -/
theorem recorded_recorded {n : Nat} (tree : ConfigTree R) (run : Run R n) :
    recorded (recorded tree (.ok run)) (.ok run) = recorded tree (.ok run) := by
  cases tree <;> simp [recorded, ConfigTree.mapRoot, Node.record, Node.setInteger, Node.setReal]

/-- A call repeated with what it left behind goes the same way, and leaves the same. -/
theorem solve_again (hignores : ∀ algorithm ∈ dispatcher.algorithms, algorithm.IgnoresOutputs)
    {run : Run R (Problem.size problem)}
    (h : (dispatcher.solve problem tree verbosity?).value = ⟨.ok run, left⟩) :
    (dispatcher.solve problem left verbosity?).value = ⟨.ok run, left⟩ := by
  have hleft : left = recorded tree.fillDefaults (.ok run) := by
    have htree := tree_solve dispatcher problem tree verbosity?
    rwa [h] at htree
  have hfilled : left.fillDefaults = left := by
    have hsolve := fillDefaults_solve dispatcher problem tree verbosity?
    rwa [h] at hsolve
  have hsame : left.fillDefaults.SameInputs tree.fillDefaults := by
    have hsolve := sameInputs_solve dispatcher problem tree verbosity?
    rw [h] at hsolve
    rwa [hfilled]
  have hresult : (dispatcher.solve problem left verbosity?).value.result = .ok run := by
    rw [(solve_congr hignores hsame).1, h]
  have htree : (dispatcher.solve problem left verbosity?).value.tree = left := by
    rw [tree_solve, hresult, hfilled, hleft, recorded_recorded]
  exact congrArg₂ Answer.mk hresult htree

/-- The output entries do not feed back: calls do not tell configurations apart that differ in
nothing else, and a call repeated with what it left behind changes nothing. -/
structure IgnoresOutputs (dispatcher : Dispatcher R P) : Prop where
  result_eq (problem : P) (left right : ConfigTree R) (verbosity? : Option UInt8) :
    left.SameInputs right → (dispatcher.solve problem left verbosity?).value.result =
      (dispatcher.solve problem right verbosity?).value.result
  events_eq (problem : P) (left right : ConfigTree R) (verbosity? : Option UInt8) :
    left.SameInputs right → (dispatcher.solve problem left verbosity?).events =
      (dispatcher.solve problem right verbosity?).events
  again (problem : P) (tree left : ConfigTree R) (verbosity? : Option UInt8)
    (run : Run R (Problem.size problem)) :
    (dispatcher.solve problem tree verbosity?).value = ⟨.ok run, left⟩ →
      (dispatcher.solve problem left verbosity?).value = ⟨.ok run, left⟩

theorem ignoresOutputs_of_algorithms
    (hignores : ∀ algorithm ∈ dispatcher.algorithms, algorithm.IgnoresOutputs) :
    dispatcher.IgnoresOutputs where
  result_eq _ _ _ _ h := (solve_congr hignores h.fillDefaults).1
  events_eq _ _ _ _ h := (solve_congr hignores h.fillDefaults).2
  again _ _ _ _ _ h := solve_again hignores h

end Dispatcher

/-! ### Sequences of calls -/

/-- A call, up to the configuration. -/
structure Call (R : Type) where
  Problems : Type
  [isProblem : Problem R Problems]
  dispatcher : Dispatcher R Problems
  problem : Problems
  verbosity? : Option UInt8

attribute [instance] Call.isProblem

namespace Call

variable {R : Type} [Scalar R]

/-- The configuration after a call. -/
def leaves (call : Call R) (tree : ConfigTree R) : ConfigTree R :=
  (call.dispatcher.solve call.problem tree call.verbosity?).value.tree

/-- The configuration after a sequence of calls, each with what the one before it left. -/
def leavesAll (calls : List (Call R)) (tree : ConfigTree R) : ConfigTree R :=
  calls.foldl (fun tree call => call.leaves tree) tree

/-- One call leaves a configuration filled, and usable if it could be made so. -/
theorem ready_leaves (call : Call R) {tree : ConfigTree R}
    (h : tree.fillDefaults.validate = .ok ()) :
    (call.leaves tree).validate = .ok () ∧ (call.leaves tree).fillDefaults = call.leaves tree :=
  ⟨(Dispatcher.validate_solve _ _ _ _).trans h, Dispatcher.fillDefaults_solve _ _ _ _⟩

/-- So does any sequence that is not empty. -/
theorem ready_leavesAll {calls : List (Call R)} (hne : calls ≠ []) {tree : ConfigTree R}
    (h : tree.fillDefaults.validate = .ok ()) :
    (leavesAll calls tree).validate = .ok () ∧
      (leavesAll calls tree).fillDefaults = leavesAll calls tree := by
  -- the first call makes the configuration ready, and every later one keeps it so
  induction calls generalizing tree with
  | nil => exact absurd rfl hne
  | cons call rest ih =>
    have hready := call.ready_leaves h
    cases rest with
    | nil => exact hready
    | cons next rest => exact ih (List.cons_ne_nil _ _) (by rw [hready.2, hready.1])

end Call

/-- Output entries never feed back: not into the calls of a dispatcher with algorithms of the
library, and not into the check or the filling after any sequence of calls. -/
theorem outputs_never_feed_back (R : Type) [Scalar R] :
    (∀ dispatcher : Dispatcher R (FrictionProblem R), dispatcher.Assembled FrictionProblem.stock →
      dispatcher.IgnoresOutputs) ∧
    (∀ dispatcher : Dispatcher R (RelayProblem R), dispatcher.Assembled RelayProblem.stock →
      dispatcher.IgnoresOutputs) ∧
    ∀ (calls : List (Call R)) (tree : ConfigTree R), calls ≠ [] →
      tree.fillDefaults.validate = .ok () →
      (Call.leavesAll calls tree).validate = .ok () ∧
        (Call.leavesAll calls tree).fillDefaults = Call.leavesAll calls tree := by
  refine ⟨fun dispatcher assembled => ?_, fun dispatcher assembled => ?_,
    fun calls tree hne => Call.ready_leavesAll hne⟩
  · exact Dispatcher.ignoresOutputs_of_algorithms fun algorithm hmem =>
      FrictionProblem.stock_ignoresOutputs algorithm (assembled.mem_stock algorithm hmem)
  · exact Dispatcher.ignoresOutputs_of_algorithms fun algorithm hmem =>
      RelayProblem.stock_ignoresOutputs algorithm (assembled.mem_stock algorithm hmem)

/-- The sliding contact again: with other values in the output entries the result is the same, a
second call repeats the first, and after a call that succeeds and one that fails the configuration
is usable. -/
theorem slidingContact_solved_again :
    FrictionProblem.dispatcher.Assembled (FrictionProblem.stock (R := ℝ)) ∧
    (FrictionProblem.dispatcher.solve FrictionProblem.slidingContact
        ((ConfigTree.ofSolver .gaussSeidel).mapRoot (·.record 7 1)) none).value.result =
      (FrictionProblem.dispatcher.solve FrictionProblem.slidingContact
        (.ofSolver .gaussSeidel) none).value.result ∧
    (∃ run left, (FrictionProblem.dispatcher.solve FrictionProblem.slidingContact
        (.ofSolver .gaussSeidel) none).value = ⟨.ok run, left⟩ ∧
      (FrictionProblem.dispatcher.solve FrictionProblem.slidingContact left none).value =
        ⟨.ok run, left⟩) ∧
    (Call.leavesAll
      [⟨_, FrictionProblem.dispatcher, FrictionProblem.slidingContact, none⟩,
        ⟨_, .empty, FrictionProblem.slidingContact, none⟩]
      (.uninitialized .gaussSeidel)).validate = .ok () := by
  obtain ⟨hfriction, -, hcalls⟩ := outputs_never_feed_back ℝ
  have hignores := hfriction FrictionProblem.dispatcher .full
  obtain ⟨run, left, hsolve⟩ :=
    exists_solve_slidingContact (.ofSolver .gaussSeidel) rfl none
  refine ⟨.full, ?_, ⟨run, left, hsolve, ?_⟩, ?_⟩
  · exact hignores.result_eq _ _ _ none (.mapRoot_record _ 7 1)
  · exact hignores.again _ _ _ none run hsolve
  · have husable : (ConfigTree.uninitialized .gaussSeidel : ConfigTree ℝ).fillDefaults.validate =
        .ok () := ConfigTree.validate_ofSolver nofun
    exact (hcalls _ _ (List.cons_ne_nil _ _) husable).1

end Complementarity
