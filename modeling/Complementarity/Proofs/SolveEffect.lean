import Complementarity.Proofs.Classification
import Complementarity.Proofs.IterationCaps
import Complementarity.Proofs.OutputEntries

/-!
What a call leaves behind.

A call completes the configuration it is given. If there is a run, two entries of the outermost node
then receive the number of iterations and the residual; nothing else changes, and if the call fails,
not even they do. A stock algorithm makes no more iterations than its cap, an entry of the same
list, so the number always fits.
-/

namespace Complementarity

variable {R P : Type} [Problem R P]

/-! ### Entries -/

namespace Node

/-- A count as an entry: it is kept as it is, up to the largest entry. -/
theorem toInt_integerOfCount (k : Nat) :
    (integerOfCount k).toInt = min (k : Int) (2 ^ 31 - 1) := by
  unfold integerOfCount
  split
  next h =>
    change k < 2 ^ 31 at h
    rw [Int32.toInt_ofNat_of_lt h]
    omega
  next h =>
    change ¬k < 2 ^ 31 at h
    have hmax : Int32.maxValue.toInt = 2 ^ 31 - 1 := by decide
    omega

end Node

variable [Scalar R]

/-! ### Calls -/

/-- The configuration `left` is the completed one with an outcome in the output entries of its
outermost node; the number of iterations stops at the end of its range. -/
structure ConfigTree.Records (filled : ConfigTree R) (outcome : Outcome R) (left : ConfigTree R) :
    Prop where
  internal?_eq : left.internal? = filled.internal?
  root_sameInputs : left.root.SameInputs filled.root
  iterations_entry : ∃ entry, left.root.integer? .iterationsDone = some entry ∧
    entry.toInt = min (outcome.iterations : Int) (2 ^ 31 - 1)
  residual_entry : left.root.real? .residual = some outcome.residual

/-- A usable node has the output entries. -/
theorem ConfigTree.records_record {filled : ConfigTree R} (husable : filled.root.IsUsable)
    (outcome : Outcome R) :
    filled.Records outcome (filled.mapRoot (·.record outcome.iterations outcome.residual)) := by
  have hroot : (filled.mapRoot (·.record outcome.iterations outcome.residual)).root =
      filled.root.record outcome.iterations outcome.residual := by
    cases filled <;> rfl
  refine ⟨by cases filled <;> rfl, ?_, ?_, ?_⟩ <;> rw [hroot]
  · exact .record filled.root outcome.iterations outcome.residual
  · refine ⟨_, List.getElem?_set_self ?_, Node.toInt_integerOfCount _⟩
    rw [husable.integers_length]
    decide
  · refine List.getElem?_set_self ?_
    change _ < filled.root.reals.length
    rw [husable.reals_length]
    decide

namespace Dispatcher

variable {dispatcher : Dispatcher R P} {problem : P} {tree : ConfigTree R}
  {verbosity? : Option UInt8}

theorem select_eq_ok {algorithm : Algorithm R P}
    (h : dispatcher.select problem tree = .ok algorithm) :
    tree.validate = .ok () ∧ algorithm ∈ dispatcher.algorithms ∧
      algorithm.solver = tree.root.solver := by
  obtain ⟨_, hvalid, h⟩ := exists_of_bind_eq_ok h
  split at h
  · cases h
  · next found hfind =>
    obtain ⟨_, -, h⟩ := exists_of_bind_eq_ok h
    cases h
    exact ⟨hvalid, find?_eq_some hfind⟩

theorem tree_solve (dispatcher : Dispatcher R P) (problem : P) (tree : ConfigTree R)
    (verbosity? : Option UInt8) :
    (dispatcher.solve problem tree verbosity?).value.tree =
      recorded tree.fillDefaults (dispatcher.solve problem tree verbosity?).value.result := by
  rw [solve_eq]
  cases dispatcher.select problem (effective tree.fillDefaults verbosity?) <;> rfl

/-- A call fills, and changes nothing beyond that but output entries. -/
theorem sameInputs_solve (dispatcher : Dispatcher R P) (problem : P) (tree : ConfigTree R)
    (verbosity? : Option UInt8) :
    (dispatcher.solve problem tree verbosity?).value.tree.SameInputs tree.fillDefaults := by
  rw [tree_solve]
  cases (dispatcher.solve problem tree verbosity?).value.result with
  | error failure => exact .refl _
  | ok run => exact .mapRoot_record _ _ _

/-- After a call the entries that are no output stand where the algorithm has read them. -/
theorem count?_solve (slot : IntegerSlot) (hslot : slot ≠ .iterationsDone) :
    (dispatcher.solve problem tree verbosity?).value.tree.root.count? slot =
      (effective tree.fillDefaults verbosity?).root.count? slot := by
  have hroot : (effective tree.fillDefaults verbosity?).root.count? slot =
      tree.fillDefaults.root.count? slot := by
    cases tree.fillDefaults <;> rfl
  rw [hroot]
  exact (sameInputs_solve dispatcher problem tree verbosity?).root.count? hslot

theorem real?_solve (slot : RealSlot) (hslot : slot ≠ .residual) :
    (dispatcher.solve problem tree verbosity?).value.tree.root.real? slot =
      (effective tree.fillDefaults verbosity?).root.real? slot := by
  have hroot : (effective tree.fillDefaults verbosity?).root.real? slot =
      tree.fillDefaults.root.real? slot := by
    cases tree.fillDefaults <;> rfl
  rw [hroot]
  exact (sameInputs_solve dispatcher problem tree verbosity?).root.real? hslot

/-- Behind a result stand a usable configuration and a run of the algorithm registered under its
name. -/
theorem exists_run_of_result {run : Run R (Problem.size problem)}
    (h : (dispatcher.solve problem tree verbosity?).value.result = .ok run) :
    tree.fillDefaults.validate = .ok () ∧ ∃ algorithm ∈ dispatcher.algorithms,
      algorithm.solver = tree.fillDefaults.root.solver ∧
      (runAlgorithm algorithm problem (effective tree.fillDefaults verbosity?)).value =
        .ok run := by
  rw [result_solve] at h
  split at h
  · cases h
  · next algorithm hselect =>
    obtain ⟨hvalid, hmem, hsolver⟩ := select_eq_ok hselect
    rw [validate_effective] at hvalid
    rw [solver_effective] at hsolver
    exact ⟨hvalid, algorithm, hmem, hsolver, h⟩

/-- What a call with this configuration leaves behind: on an error the completed configuration, and
otherwise a record of the outcome in it. No verbosity is changed, wherever it is found. -/
structure Effect (tree : ConfigTree R) {n : Nat} (answer : Answer R n) : Prop where
  of_error (failure : Failure R) : answer.result = .error failure → answer.tree = tree.fillDefaults
  of_ok (run : Run R n) : answer.result = .ok run →
    tree.fillDefaults.Records run.toOutcome answer.tree
  verbosity (depth : Nat) (below : ConfigTree R) : tree.at? depth = some below →
    ∃ left, answer.tree.at? depth = some left ∧ left.root.verbosity = below.root.verbosity

/-- The run made no more iterations than the cap, and their number is in the configuration. -/
def CountsExactly {n : Nat} (answer : Answer R n) : Prop :=
  ∀ run : Run R n, answer.result = .ok run →
    ∃ cap, answer.tree.root.count? .iterationCap = some cap ∧ run.iterations ≤ cap ∧
    ∃ entry, answer.tree.root.integer? .iterationsDone = some entry ∧
      entry.toInt = run.iterations

theorem effect_solve (dispatcher : Dispatcher R P) (problem : P) (tree : ConfigTree R)
    (verbosity? : Option UInt8) :
    Effect tree (dispatcher.solve problem tree verbosity?).value where
  of_error failure h := by rw [tree_solve, h]; rfl
  of_ok run h := by
    rw [tree_solve, h]
    exact ConfigTree.records_record (ConfigTree.root_isUsable (exists_run_of_result h).1) _
  verbosity depth below h := by
    obtain ⟨left, hleft, hsame⟩ :=
      (sameInputs_solve dispatcher problem tree verbosity?).at? (ConfigTree.at?_fillDefaults h)
    refine ⟨left, hleft, ?_⟩
    rw [hsame.root.verbosity_eq, ConfigTree.root_fillDefaults, Node.verbosity_filled]

/-- A run is the trivial solution or one of the algorithm. -/
theorem runAlgorithm_cases {algorithm : Algorithm R P} {run : Run R (Problem.size problem)}
    (h : (runAlgorithm algorithm problem tree).value = .ok run) :
    run.toOutcome = .aborted .converged ∨
    ∃ start, Problem.trivialSolution problem (Candidate.zero _) = (false, start) ∧
      (algorithm.run problem tree start).value = .ok run := by
  unfold runAlgorithm at h
  dsimp only at h
  split at h
  · cases h
    exact .inl rfl
  · next start hstart => exact .inr ⟨start, hstart, h⟩

/-- The trivial solution takes no iteration. -/
theorem runAlgorithm_withinCap {algorithm : Algorithm R P} (hwithin : algorithm.StaysWithinCap)
    (husable : tree.root.IsUsable) {run : Run R (Problem.size problem)}
    (h : (runAlgorithm algorithm problem tree).value = .ok run) :
    ∃ cap, tree.root.count? .iterationCap = some cap ∧ run.iterations ≤ cap := by
  rcases runAlgorithm_cases h with htrivial | ⟨start, -, hrun⟩
  · obtain ⟨cap, hcap⟩ := IsReadable.count .iterationCap tree.root husable
    have hnone : run.iterations = 0 := congrArg Outcome.iterations htrivial
    exact ⟨cap, hcap, hnone ▸ Nat.zero_le cap⟩
  · exact hwithin problem tree start run hrun

/-- Algorithms that stay within their caps are counted exactly. -/
theorem countsExactly_solve
    (hwithin : ∀ algorithm ∈ dispatcher.algorithms, algorithm.StaysWithinCap) :
    CountsExactly (dispatcher.solve problem tree verbosity?).value := by
  intro run h
  obtain ⟨hvalid, algorithm, hmem, -, hrun⟩ := exists_run_of_result h
  have heffective : (effective tree.fillDefaults verbosity?).validate = .ok () := by
    rwa [validate_effective]
  obtain ⟨cap, hcap, hle⟩ := runAlgorithm_withinCap (hwithin algorithm hmem)
    (ConfigTree.root_isUsable heffective) hrun
  have heffect := (effect_solve dispatcher problem tree verbosity?).of_ok run h
  obtain ⟨entry, hentry, hvalue⟩ := heffect.iterations_entry
  refine ⟨cap, (count?_solve .iterationCap nofun).trans hcap, hle, entry, hentry, ?_⟩
  have hlt : cap < 2 ^ 31 := Node.lt_of_count? hcap
  change entry.toInt = min (run.iterations : Int) (2 ^ 31 - 1) at hvalue
  omega

end Dispatcher

/-- What a call leaves behind, whatever the dispatcher; and the number of iterations is exact if
its algorithms come from the library. -/
theorem solve_leaves_outputs (R : Type) [Scalar R] :
    (∀ (P : Type) [Problem R P] (dispatcher : Dispatcher R P) (problem : P) (tree : ConfigTree R)
      (verbosity? : Option UInt8),
      Dispatcher.Effect tree (dispatcher.solve problem tree verbosity?).value) ∧
    (∀ dispatcher : Dispatcher R (FrictionProblem R), dispatcher.Assembled FrictionProblem.stock →
      ∀ problem tree verbosity?,
        Dispatcher.CountsExactly (dispatcher.solve problem tree verbosity?).value) ∧
    ∀ dispatcher : Dispatcher R (RelayProblem R), dispatcher.Assembled RelayProblem.stock →
      ∀ problem tree verbosity?,
        Dispatcher.CountsExactly (dispatcher.solve problem tree verbosity?).value := by
  refine ⟨fun P _ => Dispatcher.effect_solve, ?_, ?_⟩
  · intro dispatcher assembled problem tree verbosity?
    exact Dispatcher.countsExactly_solve fun algorithm hmem =>
      FrictionProblem.stock_withinCap algorithm (assembled.mem_stock algorithm hmem)
  · intro dispatcher assembled problem tree verbosity?
    exact Dispatcher.countsExactly_solve fun algorithm hmem =>
      RelayProblem.stock_withinCap algorithm (assembled.mem_stock algorithm hmem)

/-- The sliding contact is solved, whatever of the default configuration is already there. -/
theorem exists_solve_slidingContact (tree : ConfigTree ℝ)
    (h : tree.fillDefaults = .ofSolver .gaussSeidel) (verbosity? : Option UInt8) :
    ∃ run left, (FrictionProblem.dispatcher.solve FrictionProblem.slidingContact tree
      verbosity?).value = ⟨.ok run, left⟩ := by
  have hfull : FrictionProblem.dispatcher.Assembled (FrictionProblem.stock (R := ℝ)) := .full
  have hdelivers (algorithm) (hmem : algorithm ∈ FrictionProblem.dispatcher.algorithms) :=
    FrictionProblem.stock_delivers algorithm (hfull.mem_stock algorithm hmem)
  have hclassified :=
    (Dispatcher.verdict_solve hdelivers FrictionProblem.slidingContact tree verbosity?).classified
  rw [h] at hclassified
  obtain ⟨run, hrun⟩ :=
    hclassified.solved_iff.mpr ⟨ConfigTree.validate_ofSolver nofun, rfl, rfl⟩
  exact ⟨run, _, congrArg₂ Dispatcher.Answer.mk hrun rfl⟩

/-- A call on the sliding contact with an empty configuration: the defaults are filled in, the
outcome is recorded, and the verbosity of the call is forgotten. -/
theorem solve_slidingContact_recorded :
    FrictionProblem.dispatcher.Assembled (FrictionProblem.stock (R := ℝ)) ∧
    ∃ run left, (FrictionProblem.dispatcher.solve FrictionProblem.slidingContact
        (.uninitialized .gaussSeidel) (some 2)).value = ⟨.ok run, left⟩ ∧
      ConfigTree.Records (.ofSolver .gaussSeidel) run.toOutcome left ∧
      left.root.verbosity = 0 ∧
      ∃ entry, left.root.integer? .iterationsDone = some entry ∧
        entry.toInt = run.iterations := by
  refine ⟨.full, ?_⟩
  obtain ⟨run, left, hsolve⟩ :=
    exists_solve_slidingContact (.uninitialized .gaussSeidel) rfl (some 2)
  obtain ⟨heffect, hcounts, -⟩ := solve_leaves_outputs ℝ
  have heffect := heffect _ FrictionProblem.dispatcher FrictionProblem.slidingContact
    (.uninitialized .gaussSeidel) (some 2)
  have hcounts := hcounts FrictionProblem.dispatcher .full FrictionProblem.slidingContact
    (.uninitialized .gaussSeidel) (some 2)
  rw [hsolve] at heffect hcounts
  obtain ⟨_, hroot, hverbosity⟩ := heffect.verbosity 0 _ rfl
  cases hroot
  obtain ⟨cap, -, -, hentry⟩ := hcounts run rfl
  exact ⟨run, left, hsolve, heffect.of_ok run rfl, hverbosity, hentry⟩

end Complementarity
