import Complementarity.Config.Validation

/-!
The grammar of usable configurations.

A check meets a node knowing only whether it lies inside the Tresca method, and goes down one node
at a time. `Admitted` describes what it lets pass with that knowledge, as far as the algorithms go;
outside the Tresca method this leaves three shapes.
-/

namespace Complementarity

variable {R : Type}

namespace ConfigTree

/-- The nodes of a configuration, the outermost one first. -/
def nodes : ConfigTree R → List (Node R)
  | leaf node => [node]
  | above node internal => node :: internal.nodes

theorem root_mem_nodes (tree : ConfigTree R) : tree.root ∈ tree.nodes := by
  cases tree with
  | leaf node => exact List.mem_singleton.mpr rfl
  | above node internal => exact List.mem_cons_self

/-- The shapes of usable configurations: an algorithm alone, Gauss-Seidel sweeps above a solver for
single contacts, or the Tresca method above sweeps above a projection onto the cylinder. -/
inductive IsWellShaped : ConfigTree R → Prop
  | alone {node : Node R}
      (hsolver : node.solver ∉ [.gaussSeidel, .trescaFixedPoint, .cylinderProjection]) :
      IsWellShaped (leaf node)
  | sweeps {outer contact : Node R} (houter : outer.solver = .gaussSeidel)
      (hcontact : contact.solver.family = .oneContact)
      (hne : contact.solver ≠ .cylinderProjection) : IsWellShaped (above outer (leaf contact))
  | thresholds {outer sweeps contact : Node R} (houter : outer.solver = .trescaFixedPoint)
      (hsweeps : sweeps.solver = .gaussSeidel) (hcontact : contact.solver = .cylinderProjection) :
      IsWellShaped (above outer (above sweeps (leaf contact)))

/-- What the check lets pass, inside the Tresca method or not. -/
inductive Admitted : Bool → ConfigTree R → Prop
  | alone {inside : Bool} {node : Node R}
      (hsolver : node.solver ∉ [.gaussSeidel, .trescaFixedPoint])
      (hplace : node.solver = .cylinderProjection → inside = true) : Admitted inside (leaf node)
  | sweeps {inside : Bool} {outer contact : Node R} (houter : outer.solver = .gaussSeidel)
      (hcontact : contact.solver.family = .oneContact)
      (hplace : contact.solver = .cylinderProjection ↔ inside = true) :
      Admitted inside (above outer (leaf contact))
  | thresholds {inside : Bool} {outer sweeps contact : Node R}
      (houter : outer.solver = .trescaFixedPoint) (hsweeps : sweeps.solver = .gaussSeidel)
      (hcontact : contact.solver = .cylinderProjection) :
      Admitted inside (above outer (above sweeps (leaf contact)))

/-- Outside the Tresca method, what is admitted has one of the shapes. -/
theorem admitted_false_iff {tree : ConfigTree R} : Admitted false tree ↔ tree.IsWellShaped := by
  constructor
  · rintro (⟨hsolver, hplace⟩ | ⟨houter, hcontact, hplace⟩ | ⟨houter, hsweeps, hcontact⟩)
    · exact .alone (by simp_all)
    · exact .sweeps houter hcontact (by simp [hplace])
    · exact .thresholds houter hsweeps hcontact
  · rintro (hsolver | ⟨houter, hcontact, hne⟩ | ⟨houter, hsweeps, hcontact⟩)
    · exact .alone (by simp_all) (by simp_all)
    · exact .sweeps houter hcontact (by simp [hne])
    · exact .thresholds houter hsweeps hcontact

/-- Whether a node may stand above a configuration depends on its outermost algorithm only. -/
theorem admitted_above {inside : Bool} {node : Node R} {internal : ConfigTree R} :
    Admitted inside (above node internal) ↔
      ((node.solver = .gaussSeidel ∧ internal.root.solver.family = .oneContact ∧
          (inside = true → internal.root.solver = .cylinderProjection)) ∨
        (node.solver = .trescaFixedPoint ∧ internal.root.solver = .gaussSeidel)) ∧
      Admitted (inside || node.solver = .trescaFixedPoint) internal := by
  constructor
  · rintro (_ | ⟨houter, hcontact, hplace⟩ | ⟨houter, hsweeps, hcontact⟩)
    · refine ⟨.inl ⟨houter, hcontact, hplace.mpr⟩, .alone ?_ fun h => ?_⟩
      · intro hmem
        simp only [List.mem_cons, List.not_mem_nil, or_false] at hmem
        rcases hmem with h | h <;> rw [h] at hcontact <;> cases hcontact
      · simp [hplace.mp h]
    · refine ⟨.inr ⟨houter, hsweeps⟩, .sweeps hsweeps ?_ ?_⟩
      · rw [hcontact]; rfl
      · simp [houter, hcontact]
  · rintro ⟨⟨houter, hfamily, hcylinder⟩ | ⟨houter, hroot⟩, hinternal⟩
    · cases hinternal with
      | alone hsolver hplace =>
        refine .sweeps houter hfamily ⟨fun h => ?_, hcylinder⟩
        simpa [houter] using hplace h
      | sweeps h => rw [root, h] at hfamily; cases hfamily
      | thresholds h => rw [root, h] at hfamily; cases hfamily
    · cases hinternal with
      | alone hsolver => exact absurd (List.mem_cons.mpr (.inl hroot)) hsolver
      | sweeps hsweeps _ hplace => exact .thresholds houter hsweeps (hplace.mpr (by simp [houter]))
      | thresholds h => rw [root, h] at hroot; cases hroot

end ConfigTree

namespace SolverId

theorem usesStepSize_iff (solver : SolverId) :
    solver.usesStepSize ↔ solver ∈ [deSaxceFixedPoint, fixedPointProjection, extraGradient,
      hyperplaneProjection, coneIteration] := by
  cases solver <;> decide

theorem usesStepShrink_iff (solver : SolverId) :
    solver.usesStepShrink ↔ solver ∈ [fixedPointProjection, extraGradient, hyperplaneProjection,
      coneIteration, newton] := by
  cases solver <;> decide

theorem allowedInternal?_eq_none {solver : SolverId} :
    solver.allowedInternal? = none ↔ solver ∉ [gaussSeidel, trescaFixedPoint] := by
  cases solver <;> decide

theorem placeDefect?_eq_none {solver : SolverId} {inside : Bool} :
    (solver.placeDefect? inside : Option (ConfigDefect R)) = none ↔
      (solver = cylinderProjection → inside = true) := by
  by_cases h : solver = cylinderProjection <;> cases inside <;> simp [placeDefect?, h]

/-- Only two algorithms take an internal one, and both are choosy. -/
theorem internalDefect?_eq_none {solver internal : SolverId} {inside : Bool} :
    (solver.internalDefect? inside internal : Option (ConfigDefect R)) = none ↔
      (solver = gaussSeidel ∧ internal.family = .oneContact ∧
        (inside = true → internal = cylinderProjection)) ∨
      (solver = trescaFixedPoint ∧ internal = gaussSeidel) := by
  cases solver with
  | gaussSeidel =>
    cases internal <;> cases inside <;> simp [internalDefect?, allowedInternal?, family]
  | trescaFixedPoint =>
    by_cases h : internal = gaussSeidel <;> simp [internalDefect?, allowedInternal?, h]
  | _ => simp [internalDefect?, allowedInternal?]

end SolverId

namespace Node

variable {node : Node R}

/-- A list of full length has every integer parameter. -/
theorem exists_integer (h : node.integers.length = integerCount) (slot : IntegerSlot) :
    ∃ k, node.integer? slot = some k := by
  have hlt : slot.offset < node.integers.length := by
    rw [h]; cases slot <;> decide
  exact ⟨_, List.getElem?_eq_getElem hlt⟩

/-- A list of full length has every real parameter. -/
theorem exists_real (h : node.reals.length = realCount) (slot : RealSlot) :
    ∃ x, node.real? slot = some x := by
  have hlt : slot.offset < node.reals.length := by
    rw [h]; cases slot <;> decide
  exact ⟨_, List.getElem?_eq_getElem hlt⟩

theorem countDefect?_eq_none :
    node.countDefect? = none ↔
      node.integers.length = integerCount ∧ node.reals.length = realCount := by
  unfold countDefect?
  by_cases hi : node.integers.length = integerCount
  · by_cases hr : node.reals.length = realCount <;> simp [hi, hr]
  · simp [hi]

theorem capDefect?_eq_none (h : node.integers.length = integerCount) :
    node.capDefect? = none ↔ ∃ cap, node.integer? .iterationCap = some cap ∧ 0 ≤ cap := by
  obtain ⟨cap, hcap⟩ := exists_integer h .iterationCap
  simp [capDefect?, hcap]

variable [Scalar R]

theorem toleranceDefect?_eq_none (h : node.reals.length = realCount) :
    node.toleranceDefect? = none ↔
      ∃ tolerance, node.real? .tolerance = some tolerance ∧ 0 ≤ tolerance := by
  obtain ⟨tolerance, htolerance⟩ := exists_real h .tolerance
  simp [toleranceDefect?, htolerance]

theorem stepDefect?_eq_none (h : node.reals.length = realCount) :
    node.stepDefect? = none ↔
      (node.solver.usesStepSize → ∃ step, node.real? .step = some step ∧ 0 < step) := by
  obtain ⟨step, hstep⟩ := exists_real h .step
  by_cases huse : node.solver.usesStepSize <;> simp [stepDefect?, hstep, huse]

theorem shrinkDefect?_eq_none (h : node.reals.length = realCount) :
    node.shrinkDefect? = none ↔
      (node.solver.usesStepShrink →
        ∃ shrink, node.real? .shrink = some shrink ∧ 0 < shrink ∧ shrink < 1) := by
  obtain ⟨shrink, hshrink⟩ := exists_real h .shrink
  by_cases huse : node.solver.usesStepShrink <;> simp [shrinkDefect?, hshrink, huse]

/-- A node whose parameters are all there and in range. -/
structure IsUsable (node : Node R) : Prop where
  integers_length : node.integers.length = 5
  reals_length : node.reals.length = 6
  cap_nonneg : ∃ cap, node.integer? .iterationCap = some cap ∧ 0 ≤ cap
  tolerance_nonneg : ∃ tolerance, node.real? .tolerance = some tolerance ∧ 0 ≤ tolerance
  step_pos : node.solver ∈ [SolverId.deSaxceFixedPoint, .fixedPointProjection, .extraGradient,
      .hyperplaneProjection, .coneIteration] →
    ∃ step, node.real? .step = some step ∧ 0 < step
  shrink_mem : node.solver ∈ [SolverId.fixedPointProjection, .extraGradient,
      .hyperplaneProjection, .coneIteration, .newton] →
    ∃ shrink, node.real? .shrink = some shrink ∧ 0 < shrink ∧ shrink < 1

/-- The check of a node on its own lets exactly the usable nodes pass. -/
theorem defect?_eq_none : node.defect? = none ↔ node.IsUsable := by
  simp only [defect?, Option.orElse_eq_orElse, Option.orElse_eq_or, Option.or_eq_none_iff]
  constructor
  · rintro ⟨hcount, hcap, htol, hstep, hshrink⟩
    obtain ⟨hi, hr⟩ := countDefect?_eq_none.mp hcount
    exact ⟨hi, hr, (capDefect?_eq_none hi).mp hcap, (toleranceDefect?_eq_none hr).mp htol,
      fun h => (stepDefect?_eq_none hr).mp hstep ((SolverId.usesStepSize_iff _).mpr h),
      fun h => (shrinkDefect?_eq_none hr).mp hshrink ((SolverId.usesStepShrink_iff _).mpr h)⟩
  · rintro ⟨hi, hr, hcap, htol, hstep, hshrink⟩
    exact ⟨countDefect?_eq_none.mpr ⟨hi, hr⟩, (capDefect?_eq_none hi).mpr hcap,
      (toleranceDefect?_eq_none hr).mpr htol,
      (stepDefect?_eq_none hr).mpr fun h => hstep ((SolverId.usesStepSize_iff _).mp h),
      (shrinkDefect?_eq_none hr).mpr fun h => hshrink ((SolverId.usesStepShrink_iff _).mp h)⟩

end Node

namespace ConfigTree

variable [Scalar R]

/-- The check lets pass what is admitted and has usable nodes throughout. -/
theorem defect?_eq_none {inside : Bool} {tree : ConfigTree R} :
    tree.defect? inside = none ↔ Admitted inside tree ∧ ∀ node ∈ tree.nodes, node.IsUsable := by
  -- `inside` varies: below the Tresca method the check goes on with more knowledge
  induction tree generalizing inside with
  | leaf node =>
    simp only [defect?, SolverId.aloneDefect?, Option.map_eq_none_iff, Option.orElse_eq_orElse,
      Option.orElse_eq_or, Option.or_eq_none_iff, Node.defect?_eq_none,
      SolverId.placeDefect?_eq_none, SolverId.allowedInternal?_eq_none, nodes, List.mem_singleton,
      forall_eq]
    constructor
    · rintro ⟨husable, hplace, hsolver⟩
      exact ⟨.alone hsolver hplace, husable⟩
    · rintro ⟨⟨hsolver, hplace⟩, husable⟩
      exact ⟨husable, hplace, hsolver⟩
  | above node internal ih =>
    simp only [defect?, Option.map_eq_none_iff, Option.orElse_eq_orElse, Option.orElse_eq_or,
      Option.or_eq_none_iff, Node.defect?_eq_none, SolverId.placeDefect?_eq_none,
      SolverId.internalDefect?_eq_none, ih, admitted_above, nodes, List.forall_mem_cons]
    constructor
    · rintro ⟨⟨husable, -, hpair⟩, hinternal, hrest⟩
      exact ⟨⟨hpair, hinternal⟩, husable, hrest⟩
    · rintro ⟨⟨hpair, hinternal⟩, husable, hrest⟩
      refine ⟨⟨husable, fun h => ?_, hpair⟩, hinternal, hrest⟩
      -- a node with something inside it is not a projection onto the cylinder
      rw [h] at hpair
      rcases hpair with ⟨h, -⟩ | ⟨h, -⟩ <;> cases h

theorem validate_eq_ok {tree : ConfigTree R} :
    tree.validate = .ok () ↔ tree.defect? false = none := by
  unfold validate
  cases h : tree.defect? false <;> simp

/-- Validation accepts exactly the three shapes with usable nodes throughout. -/
theorem validate_iff_grammar (tree : ConfigTree R) :
    tree.validate = .ok () ↔ tree.IsWellShaped ∧ ∀ node ∈ tree.nodes, node.IsUsable := by
  rw [validate_eq_ok, defect?_eq_none, admitted_false_iff]

end ConfigTree

end Complementarity
