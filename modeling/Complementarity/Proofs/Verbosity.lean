import Complementarity.Proofs.LoggedRuns
import Complementarity.Proofs.SolveEffect

/-!
Verbosity.

What a reader wants to hear plays no part in a solve. `ConfigTree.muted` forgets the verbosities of a
configuration, so two configurations with the same muted one differ in verbosities at most. Whatever
is read from a configuration is read from the muted one as well, but for the verbosity itself, which
the methods hand to their reports only.
-/

namespace Complementarity

variable {R A B P : Type} [Problem R P]

/-! ### Muted configurations -/

/-- The node without its verbosity. -/
def Node.muted (node : Node R) : Node R :=
  { node with verbosity := 0 }

namespace ConfigTree

/-- The configuration without its verbosities. -/
def muted : ConfigTree R → ConfigTree R
  | leaf node => leaf node.muted
  | above node internal => above node.muted internal.muted

/-- Nobody is told more than a reader at this verbosity wants to hear. -/
def TalksWithin (bound : UInt8) (tree : ConfigTree R) : Prop :=
  ∀ node ∈ tree.nodes, node.verbosity ≤ bound

variable {bound : UInt8} {tree : ConfigTree R}

@[simp] theorem root_muted (tree : ConfigTree R) : tree.muted.root = tree.root.muted := by
  cases tree <;> rfl

theorem internal_muted (tree : ConfigTree R) :
    tree.muted.internal = tree.internal.map muted := by
  cases tree <;> rfl

theorem talksWithin_leaf {node : Node R} :
    (leaf node).TalksWithin bound ↔ node.verbosity ≤ bound :=
  List.forall_mem_singleton

theorem talksWithin_above {node : Node R} {internal : ConfigTree R} :
    (above node internal).TalksWithin bound ↔
      node.verbosity ≤ bound ∧ internal.TalksWithin bound :=
  List.forall_mem_cons

/-- There is no larger verbosity than 255. -/
theorem talksWithin_max (tree : ConfigTree R) : tree.TalksWithin 255 :=
  fun node _ => UInt8.le_iff_toNat_le.mpr (Nat.le_of_lt_succ node.verbosity.toNat_lt)

theorem TalksWithin.root (h : tree.TalksWithin bound) : tree.root.verbosity ≤ bound := by
  cases tree with
  | leaf node => exact talksWithin_leaf.mp h
  | above node internal => exact (talksWithin_above.mp h).1

theorem TalksWithin.internal {internal : ConfigTree R} (h : tree.TalksWithin bound)
    (hinternal : tree.internal = .ok internal) : internal.TalksWithin bound := by
  cases tree with
  | leaf node => cases hinternal
  | above node below =>
    cases hinternal
    exact (talksWithin_above.mp h).2

end ConfigTree

/-! ### Reading -/

/-- A record of parameters that takes over the verbosity of its node and reads nothing else from
it. -/
structure TakesVerbosity (read : Node R → Option A) (verbosity : A → UInt8) (quiet : A → A) :
    Prop where
  read_muted (node : Node R) : read node.muted = (read node).map quiet
  verbosity_eq (node : Node R) (a : A) : read node = some a → verbosity a = node.verbosity

namespace TakesVerbosity

variable {verbosity : A → UInt8} {quiet : A → A}

/-- One entry after another, of which only the last step looks at the verbosity. -/
theorem bind {entry : Node R → Option B} (hentry : ∀ node, entry node.muted = entry node)
    {next : B → Node R → Option A} (hnext : ∀ b, TakesVerbosity (next b) verbosity quiet) :
    TakesVerbosity (fun node => entry node >>= fun b => next b node) verbosity quiet where
  read_muted node := by
    simp only [hentry]
    cases entry node with
    | none => rfl
    | some b => exact (hnext b).read_muted node
  verbosity_eq node a h := by
    obtain ⟨b, -, h⟩ := Option.bind_eq_some_iff.mp h
    exact (hnext b).verbosity_eq node a h

theorem pure {record : Node R → A} (hquiet : ∀ node, record node.muted = quiet (record node))
    (hverbosity : ∀ node, verbosity (record node) = node.verbosity) :
    TakesVerbosity (fun node => some (record node)) verbosity quiet where
  read_muted node := congrArg some (hquiet node)
  verbosity_eq node _ h := Option.some.inj h ▸ hverbosity node

theorem sweepParams : TakesVerbosity (SweepParams.ofNode? (R := R)) (·.verbosity)
    fun params => { params with verbosity := 0 } :=
  bind (fun _ => rfl) fun _ => bind (fun _ => rfl) fun _ => bind (fun _ => rfl) fun _ =>
    bind (fun _ => rfl) fun _ => pure (fun _ => rfl) fun _ => rfl

theorem projectionParams : TakesVerbosity (ProjectionParams.ofNode? (R := R)) (·.verbosity)
    fun params => { params with verbosity := 0 } :=
  bind (fun _ => rfl) fun _ => bind (fun _ => rfl) fun _ => bind (fun _ => rfl) fun _ =>
    bind (fun _ => rfl) fun _ => bind (fun _ => rfl) fun _ => bind (fun _ => rfl) fun _ =>
      pure (fun _ => rfl) fun _ => rfl

theorem hyperplaneParams :
    TakesVerbosity (FrictionProblem.hyperplaneParams? (R := R)) (·.1.verbosity)
      fun params => ({ params.1 with verbosity := 0 }, params.2) where
  read_muted node := by
    have hrelaxation : node.muted.real? .relaxation = node.real? .relaxation := rfl
    simp only [FrictionProblem.hyperplaneParams?, projectionParams.read_muted, hrelaxation]
    cases ProjectionParams.ofNode? node with
    | none => rfl
    | some params => cases node.real? .relaxation <;> rfl
  verbosity_eq node params h := by
    obtain ⟨projection, hprojection, h⟩ := Option.bind_eq_some_iff.mp h
    obtain ⟨_, -, h⟩ := Option.bind_eq_some_iff.mp h
    cases h
    exact projectionParams.verbosity_eq node _ hprojection

theorem relaySweepParams : TakesVerbosity (RelaySweepParams.ofNode? (R := R)) (·.verbosity)
    fun params => { params with verbosity := 0 } :=
  bind (fun _ => rfl) fun _ => bind (fun _ => rfl) fun _ => bind (fun _ => rfl) fun _ =>
    pure (fun _ => rfl) fun _ => rfl

theorem latinParams : TakesVerbosity (LatinParams.ofNode? (R := R)) (·.verbosity)
    fun params => { params with verbosity := 0 } :=
  bind (fun _ => rfl) fun _ => bind (fun _ => rfl) fun _ => bind (fun _ => rfl) fun _ =>
    pure (fun _ => rfl) fun _ => rfl

end TakesVerbosity

variable [Scalar R] {tree : ConfigTree R} {bound : UInt8}

/-- A solver for single contacts has no verbosity. -/
theorem contactSolver_muted (tree : ConfigTree R) :
    ContactSolver.ofNode tree.muted.root = ContactSolver.ofNode tree.root := by
  rw [ConfigTree.root_muted]
  rfl

theorem gaussSeidelParams_muted (tree : ConfigTree R) :
    FrictionProblem.gaussSeidelParams tree.muted = (FrictionProblem.gaussSeidelParams tree).map
      fun params => (params.1, { params.2 with verbosity := 0 }) := by
  unfold FrictionProblem.gaussSeidelParams
  rw [ConfigTree.internal_muted, ConfigTree.root_muted, TakesVerbosity.sweepParams.read_muted]
  cases tree.internal with
  | error error => rfl
  | ok contact =>
    simp only [Except.map, Except.mapError, bind, Except.bind, contactSolver_muted]
    cases ContactSolver.ofNode contact.root with
    | error failure => rfl
    | ok solver => cases SweepParams.ofNode? tree.root <;> rfl

theorem trescaParams_muted (tree : ConfigTree R) :
    TrescaParams.ofTree tree.muted =
      (TrescaParams.ofTree tree).map FrictionProblem.quietTresca := by
  unfold TrescaParams.ofTree
  rw [ConfigTree.internal_muted, ConfigTree.root_muted]
  cases tree.internal with
  | error error => rfl
  | ok sweeps =>
    simp only [Except.map, Except.mapError, bind, Except.bind]
    rw [ConfigTree.internal_muted, ConfigTree.root_muted, TakesVerbosity.sweepParams.read_muted]
    cases sweeps.internal with
    | error error => rfl
    | ok contact =>
      simp only [Except.map, contactSolver_muted]
      cases ContactSolver.ofNode contact.root with
      | error failure => rfl
      | ok solver =>
        cases SweepParams.ofNode? sweeps.root with
        | none => rfl
        | some inner =>
          have hpolicy : tree.root.muted.integer? .internalTolerance =
            tree.root.integer? .internalTolerance := rfl
          have hcap : tree.root.muted.count? .iterationCap = tree.root.count? .iterationCap := rfl
          have htolerance : tree.root.muted.real? .tolerance = tree.root.real? .tolerance := rfl
          rw [hpolicy, hcap, htolerance]
          cases tree.root.integer? .internalTolerance <;> cases tree.root.count? .iterationCap <;>
            cases tree.root.real? .tolerance <;> rfl

/-! ### Algorithms -/

open Traced (OnlyLogs HeardAt)

/-- A muted configuration leads to the same run, and what the algorithm reports is meant for readers
at the verbosities of the configuration. -/
def Algorithm.OnlyLogs (algorithm : Algorithm R P) : Prop :=
  ∀ (problem : P) (tree : ConfigTree R) (start : Candidate R (Problem.size problem))
    (bound : UInt8), tree.TalksWithin bound →
      Traced.OnlyLogs bound (algorithm.run problem tree start)
        (algorithm.run problem tree.muted start)

omit [Scalar R] in
/-- A method that reads its parameters from its own node. -/
theorem onlyLogs_withParams {read : Node R → Option A} {verbosity : A → UInt8} {quiet : A → A}
    (hread : TakesVerbosity read verbosity quiet) {method : A → Traced R B}
    (hmethod : ∀ params, verbosity params ≤ bound → OnlyLogs bound (method params)
      (method (quiet params))) (htalks : tree.TalksWithin bound) :
    OnlyLogs bound (FrictionProblem.withParams (read tree.root) method)
      (FrictionProblem.withParams (read tree.muted.root) method) := by
  rw [ConfigTree.root_muted, hread.read_muted]
  cases hparams : read tree.root with
  | none => exact .pure _
  | some params =>
    refine .map _ (hmethod params ?_)
    rw [hread.verbosity_eq _ _ hparams]
    exact htalks.root

namespace FrictionProblem

theorem onlyLogs_gaussSeidelFrom (problem : FrictionProblem R)
    (start : Candidate R problem.size) (htalks : tree.TalksWithin bound) :
    OnlyLogs bound (problem.gaussSeidelFrom tree start)
      (problem.gaussSeidelFrom tree.muted start) := by
  unfold gaussSeidelFrom
  rw [gaussSeidelParams_muted]
  cases hparams : gaussSeidelParams tree with
  | error failure => exact .pure _
  | ok params =>
    obtain ⟨contact, -, h⟩ := exists_of_bind_eq_ok hparams
    obtain ⟨solver, hsolver, h⟩ := exists_of_bind_eq_ok h
    obtain ⟨sweeps, hsweeps, h⟩ := exists_of_bind_eq_ok h
    cases h
    have hverbosity := TakesVerbosity.sweepParams.verbosity_eq _ _ (eq_some_of_ofOption hsweeps)
    refine .map _ (onlyLogs_gaussSeidel (ContactSolver.isStock_of_ofNode hsolver) ?_ _ _)
    rw [hverbosity]
    exact htalks.root

theorem onlyLogs_trescaFrom (problem : FrictionProblem R)
    (start : Candidate R problem.size) (htalks : tree.TalksWithin bound) :
    OnlyLogs bound (problem.trescaFrom tree start) (problem.trescaFrom tree.muted start) := by
  unfold trescaFrom
  rw [trescaParams_muted]
  cases hparams : TrescaParams.ofTree tree with
  | error failure => exact .pure _
  | ok params =>
    obtain ⟨sweeps, hsweeps, h⟩ := exists_of_bind_eq_ok hparams
    obtain ⟨contact, -, h⟩ := exists_of_bind_eq_ok h
    obtain ⟨solver, hsolver, h⟩ := exists_of_bind_eq_ok h
    obtain ⟨inner, hinner, h⟩ := exists_of_bind_eq_ok h
    have hrecord := eq_some_of_ofOption h
    simp only [Option.bind_eq_bind, Option.bind_eq_some_iff] at hrecord
    obtain ⟨_, -, cap, -, tolerance, -, heq⟩ := hrecord
    cases heq
    have hverbosity := TakesVerbosity.sweepParams.verbosity_eq _ _ (eq_some_of_ofOption hinner)
    refine .map _ (onlyLogs_trescaFixedPoint (ContactSolver.isStock_of_ofNode hsolver)
      htalks.root ?_)
    change inner.verbosity ≤ bound
    rw [hverbosity]
    cases hinternal : tree.internal with
    | error error =>
      rw [hinternal] at hsweeps
      cases hsweeps
    | ok internal =>
      rw [hinternal] at hsweeps
      cases hsweeps
      exact (htalks.internal hinternal).root

/-- No algorithm for frictional contact does more with a verbosity than to log. -/
theorem stock_onlyLogs : ∀ algorithm ∈ stock (R := R), algorithm.OnlyLogs := by
  intro algorithm hmem
  simp only [stock, List.mem_cons, List.not_mem_nil, or_false] at hmem
  rcases hmem with rfl | rfl | rfl | rfl | rfl | rfl | rfl <;> intro problem tree start bound htalks
  · exact onlyLogs_withParams .sweepParams (fun _ => onlyLogs_planarGaussSeidel) htalks
  · exact onlyLogs_gaussSeidelFrom problem start htalks
  · exact onlyLogs_trescaFrom problem start htalks
  · exact onlyLogs_withParams .projectionParams (fun _ => onlyLogs_deSaxceFixedPoint) htalks
  · exact onlyLogs_withParams .projectionParams (fun _ => onlyLogs_fixedPointProjection) htalks
  · exact onlyLogs_withParams .projectionParams (fun _ => onlyLogs_extraGradient) htalks
  · exact onlyLogs_withParams .hyperplaneParams
      (fun params hle => onlyLogs_hyperplaneProjection params.2 hle) htalks

end FrictionProblem

/-- Neither does one for relay problems. -/
theorem RelayProblem.stock_onlyLogs : ∀ algorithm ∈ stock (R := R), algorithm.OnlyLogs := by
  intro algorithm hmem
  simp only [stock, List.mem_cons, List.not_mem_nil, or_false] at hmem
  rcases hmem with rfl | rfl <;> intro problem tree start bound htalks
  · exact onlyLogs_withParams .relaySweepParams (fun _ => onlyLogs_gaussSeidel) htalks
  · exact onlyLogs_withParams .latinParams (fun _ => onlyLogs_latin) htalks

/-! ### Calls -/

namespace ConfigTree

/-- The default internal configurations are quiet. -/
theorem muted_of_defaultInternal? {solver : SolverId} {internal : ConfigTree R}
    (h : solver.defaultInternal? = some internal) : internal.muted = internal := by
  cases solver <;> cases h <;> rfl

theorem talksWithin_of_defaultInternal? {solver : SolverId} {internal : ConfigTree R}
    (h : solver.defaultInternal? = some internal) : internal.TalksWithin bound := by
  have hquiet (solver : SolverId) : (Node.complete solver : Node R).verbosity ≤ bound :=
    UInt8.zero_le
  cases solver with
  | gaussSeidel =>
    cases h
    exact talksWithin_leaf.mpr (hquiet _)
  | trescaFixedPoint =>
    cases h
    exact talksWithin_above.mpr ⟨hquiet _, talksWithin_leaf.mpr (hquiet _)⟩
  | _ => cases h

/-- Filling takes no notice of a verbosity. -/
theorem fillDefaults_muted (tree : ConfigTree R) :
    tree.muted.fillDefaults = tree.fillDefaults.muted := by
  induction tree with
  | leaf node =>
    have hset : node.muted.isSet = node.isSet := rfl
    rw [muted, fillDefaults_leaf, fillDefaults_leaf, hset]
    split
    · rfl
    · change ofNode node.withDefaults.muted node.solver.defaultInternal? = _
      cases hinternal : (node.solver.defaultInternal? : Option (ConfigTree R)) with
      | none => rfl
      | some internal => exact congrArg _ (muted_of_defaultInternal? hinternal).symm
  | above node internal ih =>
    have hnode : node.muted.filled = node.filled.muted := by
      unfold Node.filled
      change (if node.isSet then _ else _) = _
      split <;> rfl
    simp only [muted, fillDefaults, ih, hnode]

theorem TalksWithin.fillDefaults (h : tree.TalksWithin bound) :
    tree.fillDefaults.TalksWithin bound := by
  induction tree with
  | leaf node =>
    rw [fillDefaults_leaf]
    split
    · exact h
    · cases hinternal : (node.solver.defaultInternal? : Option (ConfigTree R)) with
      | none => exact talksWithin_leaf.mpr h.root
      | some internal =>
        exact talksWithin_above.mpr ⟨h.root, talksWithin_of_defaultInternal? hinternal⟩
  | above node internal ih =>
    obtain ⟨hnode, hinternal⟩ := talksWithin_above.mp h
    rw [← node.verbosity_filled] at hnode
    exact talksWithin_above.mpr ⟨hnode, ih hinternal⟩

theorem validate_muted (tree : ConfigTree R) : tree.muted.validate = tree.validate := by
  have hdefect (inside : Bool) : tree.muted.defect? inside = tree.defect? inside := by
    induction tree generalizing inside with
    | leaf node => rfl
    | above node internal ih =>
      simp only [muted, defect?, ih, root_muted]
      rfl
  rw [validate, hdefect]
  rfl

end ConfigTree

namespace Dispatcher

variable {dispatcher : Dispatcher R P} {problem : P} {verbosity? : Option UInt8}

theorem select_muted (dispatcher : Dispatcher R P) (problem : P) (tree : ConfigTree R) :
    dispatcher.select problem tree.muted = dispatcher.select problem tree := by
  rw [select, tree.validate_muted, ConfigTree.root_muted]
  rfl

omit [Problem R P] [Scalar R] in
theorem muted_effective (tree : ConfigTree R) (verbosity? : Option UInt8) :
    (effective tree verbosity?).muted = tree.muted := by
  cases tree <;> rfl

omit [Problem R P] [Scalar R] in
theorem effective_none (tree : ConfigTree R) : effective tree none = tree := by
  cases tree <;> rfl

theorem onlyLogs_runAlgorithm {algorithm : Algorithm R P} (halgorithm : algorithm.OnlyLogs)
    (htalks : tree.TalksWithin bound) :
    OnlyLogs bound (runAlgorithm algorithm problem tree)
      (runAlgorithm algorithm problem tree.muted) := by
  have hinfo (event : Event R) (hlevel : event.level? = some .info)
      (htalking : decide (0 < tree.root.verbosity) = true) : event.HeardAt bound := by
    refine ⟨fun _ => UInt8.lt_of_lt_of_le (of_decide_eq_true htalking) htalks.root, ?_⟩
    rw [hlevel]
    exact nofun
  unfold runAlgorithm
  dsimp only
  split
  · exact .bind (.reportIf (hinfo _ rfl)) fun _ => .pure _
  · exact .bind (.reportIf (hinfo _ rfl)) fun _ => halgorithm _ _ _ _ htalks

/-- A call comes to the result of a muted one. -/
theorem result_solve_eq_muted
    (honly : ∀ algorithm ∈ dispatcher.algorithms, algorithm.OnlyLogs) (problem : P)
    (tree : ConfigTree R) (verbosity? : Option UInt8) :
    (dispatcher.solve problem tree verbosity?).value.result =
      (dispatcher.solve problem tree.muted none).value.result := by
  have hmuted : effective tree.muted.fillDefaults none =
      (effective tree.fillDefaults verbosity?).muted := by
    rw [effective_none, muted_effective, ConfigTree.fillDefaults_muted]
  rw [result_solve, result_solve, hmuted, select_muted]
  cases hselect : dispatcher.select problem (effective tree.fillDefaults verbosity?) with
  | error error => rfl
  | ok algorithm =>
    have halgorithm := honly algorithm (select_eq_ok hselect).2.1
    exact (onlyLogs_runAlgorithm halgorithm (ConfigTree.talksWithin_max _)).value_eq

/-- What a call logs is meant for readers at the verbosities it runs with. -/
theorem heardAt_solve (honly : ∀ algorithm ∈ dispatcher.algorithms, algorithm.OnlyLogs)
    (problem : P) (htalks : (effective tree verbosity?).TalksWithin bound) :
    (dispatcher.solve problem tree verbosity?).HeardAt bound := by
  have hfilled := htalks.fillDefaults
  rw [fillDefaults_effective] at hfilled
  rw [solve_eq]
  cases hselect : dispatcher.select problem (effective tree.fillDefaults verbosity?) with
  | error error => exact .pure _
  | ok algorithm =>
    have halgorithm := honly algorithm (select_eq_ok hselect).2.1
    exact .bind (onlyLogs_runAlgorithm halgorithm hfilled).heard fun _ => .pure _

omit [Problem R P] [Scalar R] in
theorem recorded_muted {n : Nat} (tree : ConfigTree R) (result : Except (Failure R) (Run R n)) :
    (recorded tree result).muted = recorded tree.muted result := by
  cases result with
  | error failure => rfl
  | ok run => cases tree <;> rfl

/-- The verbosity changes only the log: calls with configurations that differ in verbosities come to
the same result and leave the same up to the verbosities, and a call reports only what some node is
asked for. -/
structure OnlyLogs (dispatcher : Dispatcher R P) : Prop where
  result_eq (problem : P) (left right : ConfigTree R) (verbosity? verbosity'? : Option UInt8) :
    left.muted = right.muted → (dispatcher.solve problem left verbosity?).value.result =
      (dispatcher.solve problem right verbosity'?).value.result
  tree_eq (problem : P) (left right : ConfigTree R) (verbosity? verbosity'? : Option UInt8) :
    left.muted = right.muted → (dispatcher.solve problem left verbosity?).value.tree.muted =
      (dispatcher.solve problem right verbosity'?).value.tree.muted
  silent (problem : P) (tree : ConfigTree R) (verbosity? : Option UInt8) :
    (∀ node ∈ (effective tree verbosity?).nodes, node.verbosity = 0) →
    ∀ event ∈ (dispatcher.solve problem tree verbosity?).events,
      event.level? ≠ some .info ∧ event.level? ≠ some .debug
  brief (problem : P) (tree : ConfigTree R) (verbosity? : Option UInt8) :
    (∀ node ∈ (effective tree verbosity?).nodes, node.verbosity ≤ 1) →
    ∀ event ∈ (dispatcher.solve problem tree verbosity?).events, event.level? ≠ some .debug

theorem onlyLogs_of_algorithms
    (honly : ∀ algorithm ∈ dispatcher.algorithms, algorithm.OnlyLogs) : dispatcher.OnlyLogs where
  result_eq problem left right verbosity? verbosity'? h := by
    rw [result_solve_eq_muted honly, h, ← result_solve_eq_muted honly]
  tree_eq problem left right verbosity? verbosity'? h := by
    rw [tree_solve, tree_solve, recorded_muted, recorded_muted, result_solve_eq_muted honly,
      ← ConfigTree.fillDefaults_muted, h, ConfigTree.fillDefaults_muted,
      ← result_solve_eq_muted honly]
  silent problem tree verbosity? hquiet event hmem := by
    have htalks : (effective tree verbosity?).TalksWithin 0 :=
      fun node hnode => UInt8.le_of_eq (hquiet node hnode)
    have hheard := heardAt_solve honly problem htalks event hmem
    exact ⟨fun h => UInt8.lt_irrefl _ (hheard.info h),
      fun h => absurd (hheard.debug h) (by decide)⟩
  brief problem tree verbosity? hbrief event hmem h :=
    UInt8.lt_irrefl _ ((heardAt_solve honly problem hbrief event hmem).debug h)

end Dispatcher

/-- Whatever algorithms of the library a dispatcher has been given, a verbosity changes nothing but
its log. -/
theorem verbosity_only_logs (R : Type) [Scalar R] :
    (∀ dispatcher : Dispatcher R (FrictionProblem R), dispatcher.Assembled FrictionProblem.stock →
      dispatcher.OnlyLogs) ∧
    ∀ dispatcher : Dispatcher R (RelayProblem R), dispatcher.Assembled RelayProblem.stock →
      dispatcher.OnlyLogs := by
  constructor
  · intro dispatcher assembled
    exact Dispatcher.onlyLogs_of_algorithms fun algorithm hmem =>
      FrictionProblem.stock_onlyLogs algorithm (assembled.mem_stock algorithm hmem)
  · intro dispatcher assembled
    exact Dispatcher.onlyLogs_of_algorithms fun algorithm hmem =>
      RelayProblem.stock_onlyLogs algorithm (assembled.mem_stock algorithm hmem)

/-- Solved by the Tresca method, the sliding contact has the same result whether the caller and the
inner sweeps want to hear every iteration or not; and without such wishes nothing is said. -/
theorem slidingContact_overheard :
    FrictionProblem.dispatcher.Assembled (FrictionProblem.stock (R := ℝ)) ∧
    (FrictionProblem.dispatcher.solve FrictionProblem.slidingContact
        ((ConfigTree.ofSolver .trescaFixedPoint).mapAt (·.withVerbosity 2) 1) (some 2)).value.result =
      (FrictionProblem.dispatcher.solve FrictionProblem.slidingContact
        (.ofSolver .trescaFixedPoint) none).value.result ∧
    ∀ event ∈ (FrictionProblem.dispatcher.solve FrictionProblem.slidingContact
        (.ofSolver .trescaFixedPoint) none).events,
      event.level? ≠ some .info ∧ event.level? ≠ some .debug := by
  have honly := (verbosity_only_logs ℝ).1 FrictionProblem.dispatcher .full
  refine ⟨.full, ?_, ?_⟩
  · exact honly.result_eq _ _ _ _ _ rfl
  · refine honly.silent _ _ none fun node hmem => ?_
    rw [Dispatcher.effective_none] at hmem
    obtain ⟨_, rfl⟩ := ConfigTree.exists_eq_complete hmem
    rfl

end Complementarity
