import Complementarity.Proofs.DefaultFilling

/-!
Configurations that are left to be completed.

A usable configuration stays usable when some of its nodes are left open, with or without what lay
below them, and the defaults are filled in again. There is one exception, the node of the sweeps
inside the Tresca method: filling looks at one node at a time, so where that node has lost its
projection onto the cylinder it gets the internal algorithm of sweeps that stand outside
(`IsPartOf.validate_fillDefaults`).
-/

namespace Complementarity

variable {R : Type}

/-! ### Usable nodes -/

section Usable

variable [Scalar R]

/-- The default parameters of every algorithm are usable at binary64. -/
theorem binary64_complete_isUsable (solver : SolverId) :
    (Node.complete solver : Node Float).IsUsable where
  integers_length := by cases solver <;> rfl
  reals_length := by cases solver <;> rfl
  cap_nonneg := by cases solver <;> exact ⟨_, rfl, by decide⟩
  tolerance_nonneg := by cases solver <;> exact ⟨_, rfl, by decide +kernel⟩
  step_pos _ := by cases solver <;> exact ⟨_, rfl, by decide +kernel⟩
  shrink_mem _ := by cases solver <;> exact ⟨_, rfl, by decide +kernel⟩

theorem ConfigTree.binary64_validate_ofSolver {solver : SolverId}
    (hne : solver ≠ .cylinderProjection) :
    (ofSolver solver : ConfigTree Float).validate = .ok () :=
  validate_ofSolver_of_isUsable binary64_complete_isUsable hne

namespace Node

/-- Usability is a matter of the algorithm and the lists. -/
theorem isUsable_withDefaults {node : Node R} (h : (complete node.solver : Node R).IsUsable) :
    node.withDefaults.IsUsable :=
  ⟨h.integers_length, h.reals_length, h.cap_nonneg, h.tolerance_nonneg, h.step_pos, h.shrink_mem⟩

theorem isUsable_filled (hdefaults : ∀ solver, (complete solver : Node R).IsUsable) {node : Node R}
    (h : node.isSet = true → node.IsUsable) : node.filled.IsUsable := by
  unfold filled
  split
  · exact h ‹_›
  · exact isUsable_withDefaults (hdefaults _)

end Node

namespace ConfigTree

/-- The default internal configurations consist of default nodes. -/
theorem exists_eq_complete_of_internal {solver : SolverId} {internal : ConfigTree R} {node : Node R}
    (h : solver.defaultInternal? = some internal) (hmem : node ∈ internal.nodes) :
    ∃ other, node = .complete other := by
  have hsolver : ofSolver solver = above (.complete solver) internal := by
    change ofNode _ solver.defaultInternal? = _
    rw [h]
    rfl
  have hwhole : node ∈ (ofSolver solver).nodes := by
    rw [hsolver]
    exact List.mem_cons_of_mem _ hmem
  exact exists_eq_complete hwhole

/-- Where the set nodes are usable, all of them are usable after filling. -/
theorem isUsable_fillDefaults (hdefaults : ∀ solver, (Node.complete solver : Node R).IsUsable)
    {tree : ConfigTree R} (h : ∀ node ∈ tree.nodes, node.isSet = true → node.IsUsable) :
    ∀ node ∈ tree.fillDefaults.nodes, node.IsUsable := by
  induction tree with
  | leaf node =>
    have hnode := List.forall_mem_singleton.mp h
    rw [fillDefaults_leaf]
    split
    · exact List.forall_mem_singleton.mpr (hnode ‹_›)
    · have hfilled : node.withDefaults.IsUsable := Node.isUsable_withDefaults (hdefaults _)
      cases hinternal : (node.solver.defaultInternal? : Option (ConfigTree R)) with
      | none => exact List.forall_mem_singleton.mpr hfilled
      | some internal =>
        refine List.forall_mem_cons.mpr ⟨hfilled, fun added hmem => ?_⟩
        obtain ⟨other, rfl⟩ := exists_eq_complete_of_internal hinternal hmem
        exact hdefaults other
  | above node internal ih =>
    obtain ⟨hnode, hinternal⟩ := List.forall_mem_cons.mp h
    exact List.forall_mem_cons.mpr ⟨Node.isUsable_filled hdefaults hnode, ih hinternal⟩

end ConfigTree

end Usable

/-! ### Parts of a configuration -/

/-- A node whose parameters have been left open. What stands in its lists does not matter. -/
structure Node.Opens (opened node : Node R) : Prop where
  solver_eq : opened.solver = node.solver
  verbosity_eq : opened.verbosity = node.verbosity
  isSet_eq : opened.isSet = false

namespace ConfigTree

/-- A configuration with some nodes left open, and with what lay below some of these left out. -/
inductive IsPartOf : ConfigTree R → ConfigTree R → Prop
  | leaf {opened node : Node R} (hnode : opened = node ∨ opened.Opens node) :
      IsPartOf (leaf opened) (leaf node)
  | above {opened node : Node R} {part internal : ConfigTree R}
      (hnode : opened = node ∨ opened.Opens node) (hinternal : IsPartOf part internal) :
      IsPartOf (above opened part) (above node internal)
  | cut {opened node : Node R} {internal : ConfigTree R} (hnode : opened.Opens node) :
      IsPartOf (leaf opened) (above node internal)

/-- The Tresca method with its sweeps, but with nothing below them. -/
inductive MissesCylinder : ConfigTree R → Prop
  | intro {outer sweeps : Node R} (houter : outer.solver = .trescaFixedPoint) :
      MissesCylinder (above outer (leaf sweeps))

theorem solver_of_opened {opened node : Node R} (h : opened = node ∨ opened.Opens node) :
    opened.solver = node.solver := by
  rcases h with rfl | h
  · rfl
  · exact h.solver_eq

/-- What is still set has not been touched. -/
theorem IsPartOf.mem_nodes {part whole : ConfigTree R} (h : part.IsPartOf whole) {node : Node R}
    (hmem : node ∈ part.nodes) (hset : node.isSet = true) : node ∈ whole.nodes := by
  have heq {original : Node R} (hnode : node = original ∨ node.Opens original) :
      node = original :=
    hnode.resolve_right fun hopened => by
      rw [hopened.isSet_eq] at hset
      cases hset
  induction h with
  | leaf hnode =>
    obtain rfl := List.mem_singleton.mp hmem
    exact List.mem_singleton.mpr (heq hnode)
  | above hnode _ ih =>
    rcases List.mem_cons.mp hmem with rfl | hrest
    · exact List.mem_cons.mpr (.inl (heq hnode))
    · exact List.mem_cons_of_mem _ (ih hrest)
  | cut hnode =>
    obtain rfl := List.mem_singleton.mp hmem
    exact List.mem_cons.mpr (.inl (heq (.inr hnode)))

variable [Scalar R]

theorem defaultInternal?_eq_none {solver : SolverId}
    (h : solver ∉ [SolverId.gaussSeidel, .trescaFixedPoint]) :
    (solver.defaultInternal? : Option (ConfigTree R)) = none := by
  cases solver with
  | gaussSeidel | trescaFixedPoint => simp at h
  | _ => rfl

/-- An algorithm that takes no internal one is filled alone. -/
theorem fillDefaults_leaf_alone {node : Node R}
    (h : node.solver ∉ [SolverId.gaussSeidel, .trescaFixedPoint]) :
    (leaf node).fillDefaults = leaf node.filled := by
  rw [fillDefaults_leaf, defaultInternal?_eq_none h, Node.filled]
  split <;> rfl

theorem not_mem_of_oneContact {solver : SolverId} (h : solver.family = .oneContact) :
    solver ∉ [SolverId.gaussSeidel, .trescaFixedPoint] := by
  cases solver with
  | gaussSeidel | trescaFixedPoint => cases h
  | _ => decide

/-- A node that lost what lay below it gets the default internal configuration. -/
theorem fillDefaults_leaf_opened {opened node : Node R} (h : opened.Opens node) :
    (leaf opened).fillDefaults = ofNode opened.withDefaults node.solver.defaultInternal? := by
  rw [fillDefaults_leaf, if_neg (Bool.eq_false_iff.mp h.isSet_eq), h.solver_eq]

/-- Filling brings the shape back, except inside the Tresca method. -/
theorem IsPartOf.isWellShaped_fillDefaults {part whole : ConfigTree R} (h : part.IsPartOf whole)
    (hshape : whole.IsWellShaped) (hkept : ¬part.MissesCylinder) :
    part.fillDefaults.IsWellShaped := by
  have hfilled {opened node : Node R} (hnode : opened = node ∨ opened.Opens node) :
      opened.filled.solver = node.solver := by
    rw [Node.solver_filled, solver_of_opened hnode]
  cases hshape with
  | alone hsolver =>
    cases h with
    | leaf hnode =>
      rw [← solver_of_opened hnode] at hsolver
      rw [fillDefaults_leaf_alone fun hmem =>
        hsolver (List.mem_append_left [.cylinderProjection] hmem)]
      rw [← Node.solver_filled] at hsolver
      exact .alone hsolver
  | sweeps houter hcontact hne =>
    cases h with
    | above hnode hinternal =>
      cases hinternal with
      | leaf hleaf =>
        have halone := not_mem_of_oneContact hcontact
        rw [← solver_of_opened hleaf] at halone
        rw [fillDefaults, fillDefaults_leaf_alone halone]
        rw [← hfilled hleaf] at hcontact hne
        exact .sweeps ((hfilled hnode).trans houter) hcontact hne
    | cut hnode =>
      rw [fillDefaults_leaf_opened hnode, houter]
      exact .sweeps (hnode.solver_eq.trans houter) rfl (by rintro ⟨⟩)
  | thresholds houter hsweeps hcontact =>
    cases h with
    | above hnode hinternal =>
      cases hinternal with
      | above hinner hlast =>
        cases hlast with
        | leaf hleaf =>
          have halone := not_mem_of_oneContact (congrArg SolverId.family hcontact)
          rw [← solver_of_opened hleaf] at halone
          rw [fillDefaults, fillDefaults, fillDefaults_leaf_alone halone]
          exact .thresholds ((hfilled hnode).trans houter) ((hfilled hinner).trans hsweeps)
            ((hfilled hleaf).trans hcontact)
      | cut =>
        exact absurd (.intro ((solver_of_opened hnode).trans houter)) hkept
    | cut hnode =>
      rw [fillDefaults_leaf_opened hnode, houter]
      exact .thresholds (hnode.solver_eq.trans houter) rfl rfl

section Completed

variable {part whole : ConfigTree R}

theorem IsPartOf.isUsable_fillDefaults
    (hdefaults : ∀ solver, (Node.complete solver : Node R).IsUsable) (h : part.IsPartOf whole)
    (husable : ∀ node ∈ whole.nodes, node.IsUsable) :
    ∀ node ∈ part.fillDefaults.nodes, node.IsUsable :=
  ConfigTree.isUsable_fillDefaults hdefaults fun node hmem hset =>
    husable node (h.mem_nodes hmem hset)

/-- Sweeps inside the Tresca method that lost their projection onto the cylinder get the repeated
projections onto the cone, which the Tresca method cannot use. -/
theorem fillDefaults_of_missesCylinder (h : part.IsPartOf whole)
    (hshape : whole.IsWellShaped) (hmisses : part.MissesCylinder) :
    ∃ outer sweeps : Node R, outer.solver = .trescaFixedPoint ∧ sweeps.solver = .gaussSeidel ∧
      part.fillDefaults = above outer (above sweeps (leaf (.complete .coneIteration))) := by
  obtain ⟨houter⟩ := hmisses
  cases h with
  | above hnode hinternal =>
    cases hshape with
    | sweeps hsweeps =>
      have hsame := (solver_of_opened hnode).symm.trans houter
      rw [hsweeps] at hsame
      cases hsame
    | thresholds _ hsweeps =>
      cases hinternal with
      | cut hcut =>
        refine ⟨_, Node.withDefaults _, (Node.solver_filled _).trans houter,
          hcut.solver_eq.trans hsweeps, ?_⟩
        rw [fillDefaults, fillDefaults_leaf_opened hcut, hsweeps]
        rfl

theorem defect?_of_coneBelowTresca {outer sweeps contact : Node R}
    (houter : outer.solver = .trescaFixedPoint) (hsweeps : sweeps.solver = .gaussSeidel)
    (hcontact : contact.solver = .coneIteration)
    (husable : ∀ node ∈ (above outer (above sweeps (leaf contact))).nodes, node.IsUsable) :
    (above outer (above sweeps (leaf contact))).defect? false =
      some (.gaussSeidel, .needsCylinder) := by
  obtain ⟨hfirst, hrest⟩ := List.forall_mem_cons.mp husable
  have hsecond := (List.forall_mem_cons.mp hrest).1
  rw [← Node.defect?_eq_none] at hfirst hsecond
  simp [defect?, hfirst, hsecond, root, houter, hsweeps, hcontact, SolverId.placeDefect?,
    SolverId.internalDefect?, SolverId.allowedInternal?]

/-- A part of a usable configuration is usable once the defaults have been filled in, unless it is
the Tresca method with sweeps that lost what lay below them; then the sweeps are at fault. -/
theorem IsPartOf.validate_fillDefaults
    (hdefaults : ∀ solver, (Node.complete solver : Node R).IsUsable) (h : part.IsPartOf whole)
    (hvalid : whole.validate = .ok ()) :
    (part.fillDefaults.validate = .ok () ↔ ¬part.MissesCylinder) ∧
    (part.MissesCylinder →
      part.fillDefaults.validate = .error (.invalidConfiguration .gaussSeidel .needsCylinder)) := by
  obtain ⟨hshape, husable⟩ := (validate_iff_grammar whole).mp hvalid
  have hfilled := h.isUsable_fillDefaults hdefaults husable
  have herror (hmisses : part.MissesCylinder) : part.fillDefaults.validate =
      .error (.invalidConfiguration .gaussSeidel .needsCylinder) := by
    obtain ⟨outer, sweeps, houter, hsweeps, heq⟩ :=
      fillDefaults_of_missesCylinder h hshape hmisses
    rw [heq] at hfilled ⊢
    rw [validate, defect?_of_coneBelowTresca houter hsweeps rfl hfilled]
  refine ⟨⟨fun hok hmisses => ?_, fun hkept => ?_⟩, herror⟩
  · rw [herror hmisses] at hok
    cases hok
  · exact (validate_iff_grammar _).mpr ⟨h.isWellShaped_fillDefaults hshape hkept, hfilled⟩

end Completed

/-! ### Binary64 -/

/-- At binary64, filling completes every part of a usable configuration to a usable one, but for the
Tresca method whose sweeps lost what lay below them. -/
theorem partial_validates_iff {part whole : ConfigTree Float} (hvalid : whole.validate = .ok ())
    (hpart : part.IsPartOf whole) :
    (part.fillDefaults.validate = .ok () ↔ ¬part.MissesCylinder) ∧
    (part.MissesCylinder →
      part.fillDefaults.validate = .error (.invalidConfiguration .gaussSeidel .needsCylinder)) :=
  hpart.validate_fillDefaults binary64_complete_isUsable hvalid

/-- The Tresca method with a projection onto the cylinder that is left open. -/
def openedCylinder : ConfigTree Float :=
  above (.complete .trescaFixedPoint) (above (.complete .gaussSeidel) (leaf
    { solver := .cylinderProjection, isSet := false, verbosity := 0, integers := [-1], reals := [] }))

theorem openedCylinder_completed :
    (ofSolver .trescaFixedPoint : ConfigTree Float).validate = .ok () ∧
    openedCylinder.IsPartOf (ofSolver .trescaFixedPoint) ∧ ¬openedCylinder.MissesCylinder ∧
    openedCylinder.fillDefaults.validate = .ok () := by
  have hvalid : (ofSolver .trescaFixedPoint : ConfigTree Float).validate = .ok () :=
    binary64_validate_ofSolver nofun
  have hpart : openedCylinder.IsPartOf (ofSolver .trescaFixedPoint) :=
    .above (.inl rfl) (.above (.inl rfl) (.leaf (.inr ⟨rfl, rfl, rfl⟩)))
  have hkept : ¬openedCylinder.MissesCylinder := by
    intro hmisses
    cases hmisses
  exact ⟨hvalid, hpart, hkept, (partial_validates_iff hvalid hpart).1.mpr hkept⟩

/-- The Tresca method above sweeps that are left open, with nothing below them. -/
def openedSweeps : ConfigTree Float :=
  above (.complete .trescaFixedPoint) (uninitialized .gaussSeidel)

theorem openedSweeps_rejected :
    (ofSolver .trescaFixedPoint : ConfigTree Float).validate = .ok () ∧
    openedSweeps.IsPartOf (ofSolver .trescaFixedPoint) ∧
    openedSweeps.fillDefaults.validate =
      .error (.invalidConfiguration .gaussSeidel .needsCylinder) := by
  have hvalid : (ofSolver .trescaFixedPoint : ConfigTree Float).validate = .ok () :=
    binary64_validate_ofSolver nofun
  have hpart : openedSweeps.IsPartOf (ofSolver .trescaFixedPoint) :=
    .above (.inl rfl) (.cut ⟨rfl, rfl, rfl⟩)
  exact ⟨hvalid, hpart,
    (hpart.validate_fillDefaults binary64_complete_isUsable hvalid).2 (.intro rfl)⟩

end ConfigTree

end Complementarity
