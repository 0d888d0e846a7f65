import Complementarity.Proofs.ExactReals
import Complementarity.Proofs.ScopedVerbosity
import Complementarity.Proofs.StockAlgorithms

/-!
How a dispatcher answers.

A call is answered by the first of four findings: the completed configuration is unusable, nobody is
registered under its name, the algorithm is made for another dimension, or there is a run. Given
that the registered algorithms deliver, no fifth answer is possible.
-/

namespace Complementarity

variable {R P : Type} [Problem R P]

namespace Dispatcher

/-! ### Registration -/

/-- The dispatchers that arise from an empty or a full one when stock algorithms are registered. -/
inductive Assembled (stock : List (Algorithm R P)) : Dispatcher R P → Prop
  | empty : Assembled stock .empty
  | full : Assembled stock (.ofList stock)
  | register {dispatcher : Dispatcher R P} {algorithm : Algorithm R P}
      (assembled : Assembled stock dispatcher) (hmem : algorithm ∈ stock) :
      Assembled stock (dispatcher.register algorithm)

variable {dispatcher : Dispatcher R P} {algorithm : Algorithm R P} {stock : List (Algorithm R P)}

theorem mem_register {other : Algorithm R P} :
    other ∈ (dispatcher.register algorithm).algorithms ↔
      other = algorithm ∨ (other ∈ dispatcher.algorithms ∧ other.solver ≠ algorithm.solver) := by
  simp [register]

/-- Registering a list adds nothing but its members. -/
theorem mem_of_mem_foldl_register (algorithms : List (Algorithm R P)) (dispatcher : Dispatcher R P)
    (h : algorithm ∈ (algorithms.foldl register dispatcher).algorithms) :
    algorithm ∈ algorithms ∨ algorithm ∈ dispatcher.algorithms := by
  -- the converse fails: a later member replaces an earlier one of the same name
  induction algorithms generalizing dispatcher with
  | nil => exact .inr h
  | cons first rest ih =>
    rcases ih (dispatcher.register first) h with hrest | hregister
    · exact .inl (List.mem_cons_of_mem _ hrest)
    · rcases mem_register.mp hregister with rfl | ⟨hold, -⟩
      · exact .inl List.mem_cons_self
      · exact .inr hold

/-- Whatever is registered comes from the stock. -/
theorem Assembled.mem_stock (assembled : Assembled stock dispatcher) :
    ∀ algorithm ∈ dispatcher.algorithms, algorithm ∈ stock := by
  induction assembled with
  | empty => exact nofun
  | full =>
    intro algorithm hmem
    rcases mem_of_mem_foldl_register stock .empty hmem with h | h
    · exact h
    · cases h
  | register _ hmem ih =>
    intro other hother
    rcases mem_register.mp hother with rfl | ⟨hold, -⟩
    · exact hmem
    · exact ih other hold

theorem find?_eq_some {solver : SolverId} (h : dispatcher.find? solver = some algorithm) :
    algorithm ∈ dispatcher.algorithms ∧ algorithm.solver = solver :=
  ⟨List.mem_of_find?_eq_some h, by simpa using List.find?_some h⟩

/-! ### Selection -/

variable [Scalar R] {problem : P} {tree : ConfigTree R}

theorem select_of_invalid {error : Error R} (h : tree.validate = .error error) :
    dispatcher.select problem tree = .error error := by
  rw [select, h]; rfl

theorem select_of_unregistered (hvalid : tree.validate = .ok ())
    (hfind : dispatcher.find? tree.root.solver = none) :
    dispatcher.select problem tree =
      .error (.unregisteredSolver tree.root.solver (Problem.family problem)) := by
  rw [select, hvalid, hfind]; rfl

theorem select_of_found (hvalid : tree.validate = .ok ())
    (hfind : dispatcher.find? tree.root.solver = some algorithm) :
    dispatcher.select problem tree = (algorithm.check problem).map fun _ => algorithm := by
  rw [select, hvalid, hfind]; rfl

/-! ### Answers -/

/-- The verbosity plays no part in the check. -/
@[simp] theorem validate_effective (tree : ConfigTree R) (verbosity? : Option UInt8) :
    (effective tree verbosity?).validate = tree.validate := by
  cases tree <;> rfl

omit [Scalar R] in
@[simp] theorem solver_effective (tree : ConfigTree R) (verbosity? : Option UInt8) :
    (effective tree verbosity?).root.solver = tree.root.solver := by
  cases tree <;> rfl

theorem result_solve (dispatcher : Dispatcher R P) (problem : P) (tree : ConfigTree R)
    (verbosity? : Option UInt8) :
    (dispatcher.solve problem tree verbosity?).value.result =
      match dispatcher.select problem (effective tree.fillDefaults verbosity?) with
      | .error error => .error (.error error)
      | .ok algorithm =>
        (runAlgorithm algorithm problem (effective tree.fillDefaults verbosity?)).value := by
  rw [solve_eq]
  cases dispatcher.select problem (effective tree.fillDefaults verbosity?) <;> rfl

/-- An algorithm that delivers is run to its end, unless the problem is solved without it. -/
theorem exists_runAlgorithm_eq_ok {dimension? : P → Option Nat}
    (hdelivers : algorithm.Delivers dimension?) (hvalid : tree.validate = .ok ())
    (hroot : tree.root.solver = algorithm.solver)
    (hsame : algorithm.solver.contactDimension? = dimension? problem) :
    ∃ run, (runAlgorithm algorithm problem tree).value = .ok run ∧
      algorithm.solver.MayEnd run.status := by
  unfold runAlgorithm
  dsimp only
  split
  · exact ⟨_, rfl, trivial⟩
  · exact hdelivers.returns problem tree _ hvalid hroot hsame

/-- The four answers, each with the finding behind it. -/
inductive Verdict (dispatcher : Dispatcher R P) (problem : P) (dimension? : Option Nat)
    (tree : ConfigTree R) : Except (Failure R) (Run R (Problem.size problem)) → Prop
  | invalid {solver : SolverId} {defect : ConfigDefect R}
      (hinvalid : tree.validate = .error (.invalidConfiguration solver defect)) :
      Verdict dispatcher problem dimension? tree
        (.error (.error (.invalidConfiguration solver defect)))
  | unregistered (hvalid : tree.validate = .ok ())
      (hregistered : dispatcher.isRegistered tree.root.solver = false) :
      Verdict dispatcher problem dimension? tree
        (.error (.error (.unregisteredSolver tree.root.solver (Problem.family problem))))
  | unsupported {dimension : Nat} (hvalid : tree.validate = .ok ())
      (hregistered : dispatcher.isRegistered tree.root.solver = true)
      (hdimension : dimension? = some dimension)
      (hother : tree.root.solver.contactDimension? ≠ some dimension) :
      Verdict dispatcher problem dimension? tree
        (.error (.error (.unsupportedDimension tree.root.solver dimension)))
  | solved {run : Run R (Problem.size problem)} (hvalid : tree.validate = .ok ())
      (hregistered : dispatcher.isRegistered tree.root.solver = true)
      (hsame : tree.root.solver.contactDimension? = dimension?)
      (hstatus : tree.root.solver.MayEnd run.status) :
      Verdict dispatcher problem dimension? tree (.ok run)

theorem validate_eq_error {error : Error R} (h : tree.validate = .error error) :
    ∃ solver defect, error = .invalidConfiguration solver defect := by
  unfold ConfigTree.validate at h
  split at h
  · cases h
  · exact ⟨_, _, (Except.error.inj h).symm⟩

/-- Every call is answered in one of the four ways. -/
theorem verdict_solve {dimension? : P → Option Nat}
    (hdelivers : ∀ algorithm ∈ dispatcher.algorithms, algorithm.Delivers dimension?) (problem : P)
    (tree : ConfigTree R) (verbosity? : Option UInt8) :
    Verdict dispatcher problem (dimension? problem) tree.fillDefaults
      (dispatcher.solve problem tree verbosity?).value.result := by
  rw [result_solve]
  generalize tree.fillDefaults = filled
  -- the selection sees the effective configuration, the findings are about the completed one
  cases hvalid : filled.validate with
  | error error =>
    obtain ⟨solver, defect, rfl⟩ := validate_eq_error hvalid
    rw [select_of_invalid (by rwa [validate_effective])]
    exact .invalid hvalid
  | ok =>
    have heffective : (effective filled verbosity?).validate = .ok () := by
      rwa [validate_effective]
    cases hfind : dispatcher.find? filled.root.solver with
    | none =>
      rw [select_of_unregistered heffective (by rwa [solver_effective]), solver_effective]
      exact .unregistered hvalid (by rw [isRegistered, hfind]; rfl)
    | some algorithm =>
      obtain ⟨hmem, hsolver⟩ := find?_eq_some hfind
      have hregistered : dispatcher.isRegistered filled.root.solver = true := by
        rw [isRegistered, hfind]; rfl
      rw [select_of_found heffective (by rwa [solver_effective])]
      by_cases hsame : algorithm.solver.contactDimension? = dimension? problem
      · rw [(hdelivers algorithm hmem).accepts problem hsame]
        obtain ⟨run, hrun, hstatus⟩ := exists_runAlgorithm_eq_ok (hdelivers algorithm hmem)
          heffective (by rw [solver_effective, hsolver]) hsame
        simp only [Except.map, hrun]
        rw [hsolver] at hsame hstatus
        exact .solved hvalid hregistered hsame hstatus
      · obtain ⟨dimension, hdimension, hcheck⟩ :=
          (hdelivers algorithm hmem).refuses problem hsame
        rw [hcheck, hsolver]
        rw [hsolver, hdimension] at hsame
        exact .unsupported hvalid hregistered hdimension hsame

/-- When which answer is given, and what comes with a run. -/
structure Classified (dispatcher : Dispatcher R P) (problem : P) (dimension? : Option Nat)
    (tree : ConfigTree R) (result : Except (Failure R) (Run R (Problem.size problem))) : Prop where
  invalid_iff : (∃ solver defect,
      result = .error (.error (.invalidConfiguration solver defect))) ↔ tree.validate ≠ .ok ()
  invalid_eq (error : Error R) : tree.validate = .error error → result = .error (.error error)
  unregistered_iff (solver : SolverId) (family : Family) :
    result = .error (.error (.unregisteredSolver solver family)) ↔
      tree.validate = .ok () ∧ dispatcher.isRegistered tree.root.solver = false ∧
        solver = tree.root.solver ∧ family = Problem.family problem
  unsupported_iff (solver : SolverId) (dimension : Nat) :
    result = .error (.error (.unsupportedDimension solver dimension)) ↔
      tree.validate = .ok () ∧ dispatcher.isRegistered tree.root.solver = true ∧
        tree.root.solver.contactDimension? ≠ dimension? ∧
        solver = tree.root.solver ∧ dimension? = some dimension
  solved_iff : (∃ run, result = .ok run) ↔
    tree.validate = .ok () ∧ dispatcher.isRegistered tree.root.solver = true ∧
      tree.root.solver.contactDimension? = dimension?
  no_fault (fault : Fault) : result ≠ .error (.fault fault)
  lengths (run : Run R (Problem.size problem)) : result = .ok run →
    run.reaction.toList.length = Problem.size problem ∧
      run.velocity.toList.length = Problem.size problem
  mayEnd (run : Run R (Problem.size problem)) : result = .ok run →
    tree.root.solver.MayEnd run.status

/-- The findings exclude each other, so each answer is given just when its finding is made. -/
theorem Verdict.classified {dimension? : Option Nat}
    {result : Except (Failure R) (Run R (Problem.size problem))}
    (verdict : Verdict dispatcher problem dimension? tree result) :
    Classified dispatcher problem dimension? tree result := by
  cases verdict with
  | invalid hinvalid => constructor <;> simp [hinvalid]
  | unregistered hvalid hregistered => constructor <;> simp [hvalid, hregistered, eq_comm]
  | unsupported hvalid hregistered hdimension hother =>
    constructor <;> simp [hvalid, hregistered, hdimension, hother, eq_comm]
  | solved hvalid hregistered hsame hstatus =>
    constructor <;> simp [hvalid, hregistered, hsame, hstatus]

end Dispatcher

/-- Both families of problems: whatever stock algorithms a dispatcher has been given, all its
answers are classified. -/
theorem solve_classified (R : Type) [Scalar R] :
    (∀ dispatcher : Dispatcher R (FrictionProblem R), dispatcher.Assembled FrictionProblem.stock →
      ∀ problem tree verbosity?,
        dispatcher.Classified problem (some problem.dimension) tree.fillDefaults
          (dispatcher.solve problem tree verbosity?).value.result) ∧
    ∀ dispatcher : Dispatcher R (RelayProblem R), dispatcher.Assembled RelayProblem.stock →
      ∀ problem tree verbosity?,
        dispatcher.Classified problem none tree.fillDefaults
          (dispatcher.solve problem tree verbosity?).value.result := by
  constructor
  · intro dispatcher assembled problem tree verbosity?
    have hdelivers (algorithm) (hmem : algorithm ∈ dispatcher.algorithms) :=
      FrictionProblem.stock_delivers algorithm (assembled.mem_stock algorithm hmem)
    exact (Dispatcher.verdict_solve hdelivers problem tree verbosity?).classified
  · intro dispatcher assembled problem tree verbosity?
    have hdelivers (algorithm) (hmem : algorithm ∈ dispatcher.algorithms) :=
      RelayProblem.stock_delivers algorithm (assembled.mem_stock algorithm hmem)
    exact (Dispatcher.verdict_solve hdelivers problem tree verbosity?).classified

/-- One contact on the unit matrix. It closes and slides. -/
noncomputable def FrictionProblem.slidingContact : FrictionProblem ℝ where
  contacts := 1
  tangents := 2
  matrix := Mat.ofFn fun i j => if i = j then 1 else 0
  offset := #v[-1, 0.5, 0]
  friction := #v[0.3]
  tangents_mem := .inr rfl
  friction_nonneg c := by
    obtain rfl : c = 0 := Subsingleton.elim _ _
    change (0 : ℝ) ≤ 0.3
    norm_num

/-- The full dispatcher runs the Tresca method on it with the default configuration. -/
theorem solve_slidingContact :
    FrictionProblem.dispatcher.Assembled (FrictionProblem.stock (R := ℝ)) ∧
    ∃ run, (FrictionProblem.dispatcher.solve FrictionProblem.slidingContact
      (.ofSolver .trescaFixedPoint) none).value.result = .ok run ∧
      SolverId.trescaFixedPoint.MayEnd run.status := by
  refine ⟨.full, ?_⟩
  have hclassified := (solve_classified ℝ).1 FrictionProblem.dispatcher .full
    FrictionProblem.slidingContact (.ofSolver .trescaFixedPoint) none
  have hfilled : (ConfigTree.ofSolver .trescaFixedPoint : ConfigTree ℝ).fillDefaults =
      .ofSolver .trescaFixedPoint := rfl
  rw [hfilled] at hclassified
  obtain ⟨run, hrun⟩ :=
    hclassified.solved_iff.mpr ⟨ConfigTree.validate_ofSolver nofun, rfl, rfl⟩
  exact ⟨run, hrun, hclassified.mayEnd run hrun⟩

end Complementarity
