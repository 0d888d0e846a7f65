import Complementarity.Proofs.ParameterReading
import Complementarity.Proofs.SweepDomain

/-!
What the algorithms of the library deliver.

With a checked configuration under its own name and a problem of its dimension, an algorithm returns
a run; it reads all its parameters, and nothing it looks up is missing. Two statuses are left to a
few algorithms only.
-/

namespace Complementarity

variable {R : Type} [Scalar R]

namespace SolverId

/-- The number of components of the contacts that an algorithm is made for. -/
def contactDimension? (solver : SolverId) : Option Nat :=
  match solver.family with
  | .frictionContact2D => some 2
  | .frictionContact3D => some 3
  | _ => none

/-- The statuses with which an algorithm may end. -/
def MayEnd (solver : SolverId) : Status → Prop
  | .converged | .notConverged => True
  | .factorizationFailed => solver = relayLatin
  | .degenerateInput => solver ∈ [relayGaussSeidel, relayLatin, planarGaussSeidel, gaussSeidel,
      trescaFixedPoint]

theorem mayEnd_status (solver : SolverId) (tolerance : R) (e : Residual R) :
    solver.MayEnd (e.status tolerance) := by
  rcases Residual.status_cases tolerance e with h | h <;>
    · rw [h]
      trivial

end SolverId

/-- An algorithm that refuses just the problems of another dimension, and otherwise returns a run
whenever its configuration has been checked. -/
structure Algorithm.Delivers {P : Type} [Problem R P] (dimension? : P → Option Nat)
    (algorithm : Algorithm R P) : Prop where
  accepts (problem : P) : algorithm.solver.contactDimension? = dimension? problem →
    algorithm.check problem = .ok ()
  refuses (problem : P) : algorithm.solver.contactDimension? ≠ dimension? problem →
    ∃ dimension, dimension? problem = some dimension ∧
      algorithm.check problem = .error (.unsupportedDimension algorithm.solver dimension)
  returns (problem : P) (tree : ConfigTree R) (start : Candidate R (Problem.size problem)) :
    tree.validate = .ok () → tree.root.solver = algorithm.solver →
    algorithm.solver.contactDimension? = dimension? problem →
    ∃ run, (algorithm.run problem tree start).value = .ok run ∧ algorithm.solver.MayEnd run.status

namespace FrictionProblem

variable {problem : FrictionProblem R}

/-! ### Statuses -/

theorem runMethod_mayEnd {S : Type} (solver : SolverId) (method : Method) (cap : Nat)
    (tolerance : R) (verbosity : UInt8) (candidate : S → Candidate R problem.size)
    (advance : Iteration R (Residual R) Empty S) (start : S) :
    solver.MayEnd
      (problem.runMethod method cap tolerance verbosity candidate advance start).value.status := by
  obtain ⟨ended, -, heq⟩ :=
    problem.exists_runMethod_eq method cap tolerance verbosity candidate advance start
  rw [heq]
  exact solver.mayEnd_status tolerance ended.error

theorem planarGaussSeidel_mayEnd (params : SweepParams R) (start : Candidate R problem.size) :
    SolverId.planarGaussSeidel.MayEnd (problem.planarGaussSeidel params start).value.status := by
  unfold planarGaussSeidel
  split
  · change SolverId.planarGaussSeidel ∈ _
    decide
  · exact runMethod_mayEnd _ _ _ _ _ _ _ _

theorem gaussSeidel_mayEnd {params : SweepParams R} {solver : ContactSolver R}
    {thresholds? : Option (List R)} {start : Candidate R problem.size} {run : Run R problem.size}
    (h : (problem.gaussSeidel params solver thresholds? start).value = .ok run) :
    SolverId.gaussSeidel.MayEnd run.status := by
  rcases gaussSeidel_cases h with ⟨_, -, hup⟩ | ⟨ended, -, rfl⟩
  · rw [hup.status_eq]
    change SolverId.gaussSeidel ∈ _
    decide
  · exact SolverId.mayEnd_status _ _ _

theorem trescaFixedPoint_mayEnd {params : TrescaParams R} {start : Candidate R problem.size}
    {run : Run R problem.size} (h : (problem.trescaFixedPoint params start).value = .ok run) :
    SolverId.trescaFixedPoint.MayEnd run.status := by
  rcases trescaFixedPoint_cases h with ⟨_, -, hup⟩ | ⟨ended, -, rfl⟩
  · rw [hup.status_eq]
    change SolverId.trescaFixedPoint ∈ _
    decide
  · exact SolverId.mayEnd_status _ _ _

/-! ### Answers -/

omit [Scalar R] in
/-- A method whose parameters can be read answers with its run. -/
theorem exists_withParams_eq_ok {A B : Type} {params? : Option A} {run : A → Traced R B}
    {good : B → Prop} (hparams : ∃ params, params? = some params)
    (hgood : ∀ params, good (run params).value) :
    ∃ b, (withParams params? run).value = .ok b ∧ good b := by
  obtain ⟨params, rfl⟩ := hparams
  exact ⟨(run params).value, rfl, hgood params⟩

omit [Scalar R] in
/-- A run within its domain is an answer. -/
theorem exists_answering_eq_ok {B : Type} {run : Traced R (Except Fault B)} {good : B → Prop}
    (h : ∃ b, run.value = .ok b) (hgood : ∀ b, run.value = .ok b → good b) :
    ∃ b, (answering run).value = .ok b ∧ good b := by
  obtain ⟨b, hb⟩ := h
  exact ⟨b, by rw [answering, Traced.value_map, hb]; rfl, hgood b hb⟩

theorem tangents_eq_two (h : some 3 = some problem.dimension) : problem.tangents = 2 :=
  (Nat.succ.inj (Option.some.inj h)).symm

/-- Algorithms that check the dimension differ in their runs only. -/
theorem delivers_of_returns {solver : SolverId} {dimension : Nat}
    {run : (problem : FrictionProblem R) → ConfigTree R → Candidate R problem.size →
      Traced R (Except (Failure R) (Run R problem.size))}
    (hdimension : solver.contactDimension? = some dimension)
    (hrun : ∀ (problem : FrictionProblem R) (tree : ConfigTree R)
      (start : Candidate R problem.size), tree.validate = .ok () → tree.root.solver = solver →
      some dimension = some problem.dimension →
      ∃ answer, (run problem tree start).value = .ok answer ∧ solver.MayEnd answer.status) :
    Algorithm.Delivers (fun problem : FrictionProblem R => some problem.dimension)
      { solver, check := checkDimension solver dimension, run } := by
  refine ⟨fun problem hsame => ?_, fun problem hother => ?_, fun problem tree start h hroot hsame =>
    hrun problem tree start h hroot (hdimension ▸ hsame)⟩
  · rw [hdimension] at hsame
    exact if_pos (Option.some.inj hsame).symm
  · rw [hdimension] at hother
    exact ⟨problem.dimension, rfl, if_neg fun heq => hother (congrArg some heq.symm)⟩

/-- A method that only needs the parameters of its own node delivers. -/
theorem delivers_of_params {A : Type} {solver : SolverId} {dimension : Nat}
    {read : Node R → Option A}
    {method : (problem : FrictionProblem R) → A → Candidate R problem.size →
      Traced R (Run R problem.size)}
    (hdimension : solver.contactDimension? = some dimension) (hread : IsReadable read)
    (hmethod : ∀ problem params start, solver.MayEnd (method problem params start).value.status) :
    Algorithm.Delivers (fun problem : FrictionProblem R => some problem.dimension)
      { solver, check := checkDimension solver dimension
        run := fun problem tree start =>
          withParams (read tree.root) (method problem · start) } := by
  refine delivers_of_returns hdimension fun problem tree start h _ _ => ?_
  have hparams := hread tree.root (ConfigTree.root_isUsable h)
  exact exists_withParams_eq_ok hparams fun params => hmethod problem params start

/-- Every algorithm for frictional contact delivers. -/
theorem stock_delivers : ∀ algorithm ∈ stock (R := R),
    algorithm.Delivers fun problem : FrictionProblem R => some problem.dimension := by
  intro algorithm hmem
  simp only [stock, List.mem_cons, List.not_mem_nil, or_false] at hmem
  rcases hmem with rfl | rfl | rfl | rfl | rfl | rfl | rfl
  · exact delivers_of_params rfl sweepParams_isReadable fun _ => planarGaussSeidel_mayEnd
  · refine delivers_of_returns rfl fun problem tree start h hroot hdimension => ?_
    obtain ⟨⟨solver, params⟩, hparams⟩ := exists_gaussSeidelParams h hroot
    have hdomain := isSweepable_none (tangents_eq_two hdimension)
    rw [gaussSeidelFrom, hparams]
    exact exists_answering_eq_ok (hdomain.exists_gaussSeidel_eq_ok params solver start)
      fun _ => gaussSeidel_mayEnd
  · refine delivers_of_returns rfl fun problem tree start h hroot hdimension => ?_
    obtain ⟨params, hparams⟩ := TrescaParams.exists_ofTree h hroot
    rw [trescaFrom, hparams]
    exact exists_answering_eq_ok
      (exists_trescaFixedPoint_eq_ok (tangents_eq_two hdimension) params start)
      fun _ => trescaFixedPoint_mayEnd
  · exact delivers_of_params rfl projectionParams_isReadable
      fun _ _ _ => runMethod_mayEnd _ _ _ _ _ _ _ _
  · exact delivers_of_params rfl projectionParams_isReadable
      fun _ _ _ => runMethod_mayEnd _ _ _ _ _ _ _ _
  · exact delivers_of_params rfl projectionParams_isReadable
      fun _ _ _ => runMethod_mayEnd _ _ _ _ _ _ _ _
  · exact delivers_of_params rfl hyperplaneParams_isReadable
      fun _ _ _ => runMethod_mayEnd _ _ _ _ _ _ _ _

end FrictionProblem

namespace RelayProblem

open FrictionProblem (withParams exists_withParams_eq_ok)

variable (problem : RelayProblem R)

theorem gaussSeidel_mayEnd (params : RelaySweepParams R) :
    SolverId.relayGaussSeidel.MayEnd (problem.gaussSeidel params).value.status := by
  rcases problem.gaussSeidel_cases params with heq | ⟨ended, -, heq⟩
  · rw [heq]
    change SolverId.relayGaussSeidel ∈ _
    decide
  · rw [heq]
    exact SolverId.mayEnd_status _ _ _

theorem latin_mayEnd (params : LatinParams R) :
    SolverId.relayLatin.MayEnd (problem.latin params).value.status := by
  unfold latin
  dsimp only
  split
  · change SolverId.relayLatin ∈ _
    decide
  · split
    · rfl
    · exact SolverId.mayEnd_status _ params.tolerance (.measured _)

/-- Algorithms for relay problems accept them all. -/
theorem delivers_of_params {A : Type} {solver : SolverId} {read : Node R → Option A}
    {method : (problem : RelayProblem R) → A → Traced R (Run R problem.size)}
    (hdimension : solver.contactDimension? = none) (hread : IsReadable read)
    (hmethod : ∀ problem params, solver.MayEnd (method problem params).value.status) :
    Algorithm.Delivers (fun _ : RelayProblem R => none)
      { solver, check := fun _ => .ok ()
        run := fun problem tree _ => withParams (read tree.root) (method problem) } := by
  refine ⟨fun _ _ => rfl, fun _ hother => absurd hdimension hother, ?_⟩
  intro problem tree _ h _ _
  have hparams := hread tree.root (ConfigTree.root_isUsable h)
  exact exists_withParams_eq_ok hparams (hmethod problem)

/-- Every algorithm for relay problems delivers. -/
theorem stock_delivers : ∀ algorithm ∈ stock (R := R),
    algorithm.Delivers fun _ : RelayProblem R => none := by
  intro algorithm hmem
  simp only [stock, List.mem_cons, List.not_mem_nil, or_false] at hmem
  rcases hmem with rfl | rfl
  · exact delivers_of_params rfl relaySweepParams_isReadable gaussSeidel_mayEnd
  · exact delivers_of_params rfl latinParams_isReadable latin_mayEnd

end RelayProblem

end Complementarity
