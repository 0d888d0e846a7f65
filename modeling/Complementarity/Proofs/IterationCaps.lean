import Complementarity.Dispatch.Stock
import Complementarity.Proofs.ExitContract

/-!
Iteration caps.

The cap and the tolerance of a run are entries of the outermost node, which every algorithm reads as
they stand there. Each method keeps to the cap it is given, so no algorithm of the library makes more
iterations than its configuration allows.
-/

namespace Complementarity

variable {R P : Type} [Problem R P]

/-! ### Reading -/

namespace Node

/-- What can be read as a count can be written as one. -/
theorem lt_of_count? {node : Node R} {slot : IntegerSlot} {cap : Nat}
    (h : node.count? slot = some cap) : cap < Nat.pow 2 31 := by
  obtain ⟨entry, -, rfl⟩ := Option.map_eq_some_iff.mp h
  have hlt := entry.toInt_lt
  change entry.toInt.toNat < 2 ^ 31
  omega

end Node

/-- A computation that returns has returned at its first step. -/
theorem exists_of_bind_eq_ok {E A B : Type} {first : Except E A} {next : A → Except E B} {b : B}
    (h : first >>= next = .ok b) : ∃ a, first = .ok a ∧ next a = .ok b := by
  cases first with
  | error e => cases h
  | ok a => exact ⟨a, rfl, h⟩

theorem eq_some_of_ofOption {A : Type} {fault : Fault} {a? : Option A} {a : A}
    (h : (Failure.ofOption fault a? : Except (Failure R) A) = .ok a) : a? = some a := by
  cases a? with
  | none => cases h
  | some b => exact congrArg some (Except.ok.inj h)

/-- The entries that stop a run: its cap and its tolerance. -/
structure Node.Stops (node : Node R) (cap : Nat) (tolerance : R) : Prop where
  cap_eq : node.count? .iterationCap = some cap
  tolerance_eq : node.real? .tolerance = some tolerance

/-- A computation of which something is known has returned. -/
theorem exists_of_toOption_map {E A B : Type} {result : Except E A} {f : A → B} {b : B}
    (h : result.toOption.map f = some b) : ∃ a, result = .ok a ∧ f a = b := by
  cases result with
  | error e => cases h
  | ok a => exact ⟨a, rfl, Option.some.inj h⟩

section Records

variable {node : Node R}

theorem SweepParams.stops {params : SweepParams R} (h : ofNode? node = some params) :
    node.Stops params.iterationCap params.tolerance := by
  simp only [ofNode?, Option.bind_eq_bind, Option.bind_eq_some_iff] at h
  obtain ⟨cap, hcap, tolerance, htolerance, _, -, _, -, heq⟩ := h
  cases heq
  exact ⟨hcap, htolerance⟩

theorem ProjectionParams.stops {params : ProjectionParams R} (h : ofNode? node = some params) :
    node.Stops params.iterationCap params.tolerance := by
  simp only [ofNode?, Option.bind_eq_bind, Option.bind_eq_some_iff] at h
  obtain ⟨cap, hcap, tolerance, htolerance, _, -, _, -, _, -, _, -, heq⟩ := h
  cases heq
  exact ⟨hcap, htolerance⟩

theorem stops_of_hyperplaneParams? {params : ProjectionParams R × R}
    (h : FrictionProblem.hyperplaneParams? node = some params) :
    node.Stops params.1.iterationCap params.1.tolerance := by
  simp only [FrictionProblem.hyperplaneParams?, Option.bind_eq_bind, Option.bind_eq_some_iff] at h
  obtain ⟨projection, hprojection, _, -, heq⟩ := h
  cases heq
  exact ProjectionParams.stops hprojection

theorem RelaySweepParams.stops {params : RelaySweepParams R} (h : ofNode? node = some params) :
    node.Stops params.iterationCap params.tolerance := by
  simp only [ofNode?, Option.bind_eq_bind, Option.bind_eq_some_iff] at h
  obtain ⟨cap, hcap, tolerance, htolerance, _, -, heq⟩ := h
  cases heq
  exact ⟨hcap, htolerance⟩

theorem LatinParams.stops {params : LatinParams R} (h : ofNode? node = some params) :
    node.Stops params.iterationCap params.tolerance := by
  simp only [ofNode?, Option.bind_eq_bind, Option.bind_eq_some_iff] at h
  obtain ⟨cap, hcap, tolerance, htolerance, _, -, heq⟩ := h
  cases heq
  exact ⟨hcap, htolerance⟩

variable [Scalar R] {tree : ConfigTree R}

theorem TrescaParams.stops {params : TrescaParams R} (h : ofTree tree = .ok params) :
    tree.root.Stops params.iterationCap params.tolerance := by
  obtain ⟨sweeps, -, h⟩ := exists_of_bind_eq_ok h
  obtain ⟨contact, -, h⟩ := exists_of_bind_eq_ok h
  obtain ⟨solver, -, h⟩ := exists_of_bind_eq_ok h
  obtain ⟨inner, -, h⟩ := exists_of_bind_eq_ok h
  have hrecord := eq_some_of_ofOption h
  simp only [Option.bind_eq_bind, Option.bind_eq_some_iff] at hrecord
  obtain ⟨_, -, cap, hcap, tolerance, htolerance, heq⟩ := hrecord
  cases heq
  exact ⟨hcap, htolerance⟩

theorem FrictionProblem.stops_of_gaussSeidelParams {params : ContactSolver R × SweepParams R}
    (h : gaussSeidelParams tree = .ok params) :
    tree.root.Stops params.2.iterationCap params.2.tolerance := by
  obtain ⟨contact, -, h⟩ := exists_of_bind_eq_ok h
  obtain ⟨solver, -, h⟩ := exists_of_bind_eq_ok h
  obtain ⟨sweeps, hsweeps, h⟩ := exists_of_bind_eq_ok h
  cases h
  exact SweepParams.stops (eq_some_of_ofOption hsweeps)

end Records

/-! ### Algorithms -/

/-- A run makes no more iterations than its configuration allows. -/
def Algorithm.StaysWithinCap (algorithm : Algorithm R P) : Prop :=
  ∀ (problem : P) (tree : ConfigTree R) (start : Candidate R (Problem.size problem))
    (run : Run R (Problem.size problem)), (algorithm.run problem tree start).value = .ok run →
    ∃ cap, tree.root.count? .iterationCap = some cap ∧ run.iterations ≤ cap

variable [Scalar R]

namespace FrictionProblem

omit [Scalar R] in
theorem exists_params_of_ok {A B : Type} {params? : Option A} {run : A → Traced R B} {b : B}
    (h : (withParams params? run).value = .ok b) :
    ∃ params, params? = some params ∧ (run params).value = b := by
  cases params? with
  | none => cases h
  | some params => exact ⟨params, rfl, Except.ok.inj h⟩

omit [Scalar R] in
theorem eq_ok_of_answering {B : Type} {run : Traced R (Except Fault B)} {b : B}
    (h : (answering run).value = .ok b) : run.value = .ok b := by
  rw [answering, Traced.value_map] at h
  cases hrun : run.value with
  | error fault => rw [hrun] at h; cases h
  | ok => rw [hrun] at h; exact congrArg Except.ok (Except.ok.inj h)

variable {problem : FrictionProblem R}

/-- What stands behind a result of the sweeps, and of the method around them. -/
theorem exists_gaussSeidel_of_ok {tree : ConfigTree R} {start : Candidate R problem.size}
    {run : Run R problem.size} (h : (problem.gaussSeidelFrom tree start).value = .ok run) :
    ∃ solver params, gaussSeidelParams tree = .ok (solver, params) ∧
      (problem.gaussSeidel params solver none start).value = .ok run := by
  unfold gaussSeidelFrom at h
  split at h
  · cases h
  · next solver params hparams => exact ⟨solver, params, hparams, eq_ok_of_answering h⟩

theorem exists_trescaFixedPoint_of_ok {tree : ConfigTree R} {start : Candidate R problem.size}
    {run : Run R problem.size} (h : (problem.trescaFrom tree start).value = .ok run) :
    ∃ params, TrescaParams.ofTree tree = .ok params ∧
      (problem.trescaFixedPoint params start).value = .ok run := by
  unfold trescaFrom at h
  split at h
  · cases h
  · next params hparams => exact ⟨params, hparams, eq_ok_of_answering h⟩

theorem runMethod_iterations_le {S : Type} (method : Method) (cap : Nat) (tolerance : R)
    (verbosity : UInt8) (candidate : S → Candidate R problem.size)
    (advance : Iteration R (Residual R) Empty S) (start : S) :
    (problem.runMethod method cap tolerance verbosity candidate advance start).value.iterations ≤
      cap := by
  obtain ⟨ended, hfinal, heq⟩ :=
    problem.exists_runMethod_eq method cap tolerance verbosity candidate advance start
  have hle : ended.iterations ≤ cap := by simpa using (Progress.ends_of_final hfinal).iterations_le
  rw [heq]
  exact hle

/-- A method that only needs the parameters of its own node stays within the cap among them. -/
theorem withinCap_of_params {A : Type} {solver : SolverId} {dimension : Nat}
    {read : Node R → Option A} {cap : A → Nat} {tolerance : A → R}
    {method : (problem : FrictionProblem R) → A → Candidate R problem.size →
      Traced R (Run R problem.size)}
    (hstops : ∀ {node params}, read node = some params →
      node.Stops (cap params) (tolerance params))
    (hle : ∀ problem params start, (method problem params start).value.iterations ≤ cap params) :
    Algorithm.StaysWithinCap
      { solver, check := checkDimension solver dimension
        run := fun problem tree start =>
          withParams (read tree.root) (method problem · start) } := by
  intro problem tree start run h
  obtain ⟨params, hparams, rfl⟩ := exists_params_of_ok h
  exact ⟨cap params, (hstops hparams).cap_eq, hle problem params start⟩

/-- Every algorithm for frictional contact stays within its cap. -/
theorem stock_withinCap : ∀ algorithm ∈ stock (R := R), algorithm.StaysWithinCap := by
  intro algorithm hmem
  simp only [stock, List.mem_cons, List.not_mem_nil, or_false] at hmem
  rcases hmem with rfl | rfl | rfl | rfl | rfl | rfl | rfl
  · exact withinCap_of_params SweepParams.stops fun problem params start =>
      (problem.planarGaussSeidel_keeps params start).iterations_le
  · intro problem tree start run h
    obtain ⟨solver, params, hparams, hrun⟩ := exists_gaussSeidel_of_ok h
    exact ⟨params.iterationCap, (stops_of_gaussSeidelParams hparams).cap_eq,
      (gaussSeidel_keeps hrun).iterations_le⟩
  · intro problem tree start run h
    obtain ⟨params, hparams, hrun⟩ := exists_trescaFixedPoint_of_ok h
    exact ⟨params.iterationCap, (TrescaParams.stops hparams).cap_eq,
      (trescaFixedPoint_keeps hrun).iterations_le⟩
  · exact withinCap_of_params ProjectionParams.stops
      fun _ _ _ => runMethod_iterations_le _ _ _ _ _ _ _
  · exact withinCap_of_params ProjectionParams.stops
      fun _ _ _ => runMethod_iterations_le _ _ _ _ _ _ _
  · exact withinCap_of_params ProjectionParams.stops
      fun _ _ _ => runMethod_iterations_le _ _ _ _ _ _ _
  · exact withinCap_of_params stops_of_hyperplaneParams?
      fun _ _ _ => runMethod_iterations_le _ _ _ _ _ _ _

end FrictionProblem

namespace RelayProblem

open FrictionProblem (withParams exists_params_of_ok)

theorem latin_iterations_le (problem : RelayProblem R) (params : LatinParams R) :
    (problem.latin params).value.iterations ≤ params.iterationCap := by
  unfold latin
  dsimp only
  split
  · exact Nat.zero_le _
  · split
    · exact Nat.zero_le _
    · next factor _ =>
      have hends : Progress.Ends (params.tolerance < ·)
          (problem.latinStep params (problem.searchDirection params.scale) factor.solve)
          params.iterationCap ⟨0, 1, ⟨Candidate.zero _, Candidate.zero _⟩⟩ _ :=
        Progress.ends_of_final (Progress.final_eq_settled _ _ _)
      have hle := hends.iterations_le
      rw [Nat.zero_add] at hle
      exact hle

/-- Algorithms for relay problems read the parameters of their own node. -/
theorem withinCap_of_params {A : Type} {solver : SolverId} {read : Node R → Option A}
    {cap : A → Nat} {tolerance : A → R}
    {method : (problem : RelayProblem R) → A → Traced R (Run R problem.size)}
    (hstops : ∀ {node params}, read node = some params →
      node.Stops (cap params) (tolerance params))
    (hle : ∀ problem params, (method problem params).value.iterations ≤ cap params) :
    Algorithm.StaysWithinCap
      { solver, check := fun _ => .ok ()
        run := fun problem tree _ => withParams (read tree.root) (method problem) } := by
  intro problem tree _ run h
  obtain ⟨params, hparams, rfl⟩ := exists_params_of_ok h
  exact ⟨cap params, (hstops hparams).cap_eq, hle problem params⟩

/-- Every algorithm for relay problems stays within its cap. -/
theorem stock_withinCap : ∀ algorithm ∈ stock (R := R), algorithm.StaysWithinCap := by
  intro algorithm hmem
  simp only [stock, List.mem_cons, List.not_mem_nil, or_false] at hmem
  rcases hmem with rfl | rfl
  · exact withinCap_of_params RelaySweepParams.stops fun problem params =>
      (problem.gaussSeidel_keeps params).iterations_le
  · exact withinCap_of_params LatinParams.stops latin_iterations_le

end RelayProblem

end Complementarity
