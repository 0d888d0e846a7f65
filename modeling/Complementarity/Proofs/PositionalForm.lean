import Complementarity.Config.Builder
import Complementarity.Proofs.PartialConfigs

/-!
Configurations from positional lists.

Each call puts one node on top of a configuration, completes the result and checks it as if it were
the outermost one. A set configuration that passes the check comes out as it went in
(`ofPositional_eq`), so it can be built from the innermost node outwards where each of its parts may
stand outermost (`rebuilt_eq_ok`). The parts of the Tresca method may not: the projection onto the
cylinder, with which such a rebuild begins, is refused on its own.
-/

namespace Complementarity

variable {R : Type} [Scalar R]

theorem SolverId.ofCode?_code (solver : SolverId) : ofCode? solver.code = some solver := by
  cases solver <;> rfl

namespace ConfigTree

/-- The configuration built again from the innermost node outwards, each node from its code, its
lists and what has been built below it. -/
def rebuilt : ConfigTree R → Except (Error R) (ConfigTree R)
  | leaf node => ofPositional node.solver.code node.integers node.reals none
  | above node internal => do
    ofPositional node.solver.code node.integers node.reals (some (← internal.rebuilt))

/-- A node that is set and silent is given by its code and its lists, so a call with them checks the
configuration and gives it back. -/
theorem ofPositional_eq {tree : ConfigTree R} (hset : tree.IsFilled)
    (hsilent : tree.root.verbosity = 0) :
    ofPositional tree.root.solver.code tree.root.integers tree.root.reals tree.internal? =
      tree.validate.map fun _ => tree := by
  have hroot : (⟨tree.root.solver, true, 0, tree.root.integers, tree.root.reals⟩ : Node R) =
      tree.root := by
    rw [← hset _ tree.root_mem_nodes, ← hsilent]
  rw [ofPositional, SolverId.ofCode?_code]
  dsimp only
  rw [hroot, ofNode_root, completed, fillDefaults_eq_self_iff.mpr hset]

theorem ofPositional_eq_ok {tree : ConfigTree R} (hvalid : tree.validate = .ok ())
    (hset : tree.IsFilled) (hsilent : tree.root.verbosity = 0) :
    ofPositional tree.root.solver.code tree.root.integers tree.root.reals tree.internal? =
      .ok tree := by
  rw [ofPositional_eq hset hsilent, hvalid]
  rfl

/-- A rebuild gives back what it started from if every part may stand outermost. -/
theorem rebuilt_eq_ok {tree : ConfigTree R} (hset : tree.IsFilled)
    (hsilent : ∀ node ∈ tree.nodes, node.verbosity = 0)
    (hparts : ∀ (depth : Nat) {below : ConfigTree R}, tree.at? depth = some below →
      below.validate = .ok ()) : tree.rebuilt = .ok tree := by
  have hwhole : tree.validate = .ok () := hparts 0 rfl
  induction tree with
  | leaf node => exact ofPositional_eq_ok hwhole hset (hsilent _ (root_mem_nodes _))
  | above node internal ih =>
    have hinternal : internal.rebuilt = .ok internal :=
      ih (isFilled_above.mp hset).2 (List.forall_mem_cons.mp hsilent).2
        (fun depth => hparts (depth + 1)) (hparts 1 rfl)
    rw [rebuilt, hinternal]
    exact ofPositional_eq_ok hwhole hset (hsilent _ (root_mem_nodes _))

/-- Outside the Tresca method, every part of a usable configuration may stand outermost. -/
theorem validate_at? {tree below : ConfigTree R} {depth : Nat} (hvalid : tree.validate = .ok ())
    (hne : tree.root.solver ≠ .trescaFixedPoint) (h : tree.at? depth = some below) :
    below.validate = .ok () := by
  obtain ⟨hshape, husable⟩ := (validate_iff_grammar tree).mp hvalid
  cases depth with
  | zero =>
    cases h
    exact hvalid
  | succ depth =>
    cases hshape with
    | alone => cases h
    | sweeps houter hcontact hcylinder =>
      cases depth with
      | zero =>
        cases h
        have halone : Admitted false (leaf _) :=
          .alone (not_mem_of_oneContact hcontact) fun h => absurd h hcylinder
        exact (validate_iff_grammar _).mpr
          ⟨admitted_false_iff.mp halone, (List.forall_mem_cons.mp husable).2⟩
      | succ => cases h
    | thresholds houter => exact absurd houter hne

/-- A projection onto the cylinder may not stand outermost. -/
theorem validate_of_cylinder {node : Node R} (hsolver : node.solver = .cylinderProjection)
    (husable : node.IsUsable) : (leaf node).validate =
      .error (.invalidConfiguration .cylinderProjection .missingThresholds) := by
  rw [← Node.defect?_eq_none] at husable
  simp [validate, defect?, husable, hsolver, SolverId.placeDefect?]

/-- The rebuild of the Tresca method stops at its innermost node. -/
theorem rebuilt_of_tresca {tree : ConfigTree R} (hvalid : tree.validate = .ok ())
    (hset : tree.IsFilled) (hsilent : ∀ node ∈ tree.nodes, node.verbosity = 0)
    (htresca : tree.root.solver = .trescaFixedPoint) :
    tree.rebuilt = .error (.invalidConfiguration .cylinderProjection .missingThresholds) := by
  obtain ⟨hshape, husable⟩ := (validate_iff_grammar tree).mp hvalid
  cases hshape with
  | alone hsolver =>
    exact absurd (List.mem_cons_of_mem _ (List.mem_cons.mpr (.inl htresca))) hsolver
  | sweeps houter =>
    have hsame := houter.symm.trans htresca
    cases hsame
  | @thresholds outer sweeps contact houter hsweeps hcontact =>
    have hinnermost : (leaf contact).rebuilt =
        .error (.invalidConfiguration .cylinderProjection .missingThresholds) := by
      have hmem : contact ∈ (above outer (above sweeps (leaf contact))).nodes := by
        simp [nodes]
      have heq := ofPositional_eq (isFilled_leaf.mpr (hset _ hmem)) (hsilent _ hmem)
      rw [validate_of_cylinder hcontact (husable _ hmem)] at heq
      exact heq
    rw [rebuilt, rebuilt, hinnermost]
    rfl

/-- A usable configuration with all nodes set and silent can be built again from the innermost node
outwards unless it is one of the Tresca method. The outermost call gives it back in any case. -/
theorem positional_rebuilds {tree : ConfigTree R} (hvalid : tree.validate = .ok ())
    (hset : tree.IsFilled) (hsilent : ∀ node ∈ tree.nodes, node.verbosity = 0) :
    (tree.root.solver ≠ .trescaFixedPoint → tree.rebuilt = .ok tree) ∧
    (tree.root.solver = .trescaFixedPoint →
      tree.rebuilt = .error (.invalidConfiguration .cylinderProjection .missingThresholds)) ∧
    ofPositional tree.root.solver.code tree.root.integers tree.root.reals tree.internal? =
      .ok tree := by
  have hparts : tree.root.solver ≠ .trescaFixedPoint → tree.rebuilt = .ok tree :=
    fun hne => rebuilt_eq_ok hset hsilent fun _ => validate_at? hvalid hne
  exact ⟨hparts, rebuilt_of_tresca hvalid hset hsilent,
    ofPositional_eq_ok hvalid hset (hsilent _ tree.root_mem_nodes)⟩

/-! ### Default configurations -/

theorem silent_ofSolver {solver : SolverId} {node : Node R} (hmem : node ∈ (ofSolver solver).nodes) :
    node.verbosity = 0 := by
  obtain ⟨other, rfl⟩ := exists_eq_complete hmem
  rfl

theorem defaultSweeps_rebuilt :
    (ofSolver .gaussSeidel : ConfigTree Float).validate = .ok () ∧
    (ofSolver .gaussSeidel : ConfigTree Float).IsFilled ∧
    (∀ node ∈ (ofSolver .gaussSeidel : ConfigTree Float).nodes, node.verbosity = 0) ∧
    (ofSolver .gaussSeidel : ConfigTree Float).rebuilt = .ok (ofSolver .gaussSeidel) := by
  have hvalid : (ofSolver .gaussSeidel : ConfigTree Float).validate = .ok () :=
    binary64_validate_ofSolver nofun
  have hset : (ofSolver .gaussSeidel : ConfigTree Float).IsFilled := isFilled_fillDefaults _
  exact ⟨hvalid, hset, fun _ => silent_ofSolver,
    (positional_rebuilds hvalid hset fun _ => silent_ofSolver).1 nofun⟩

theorem defaultTresca_not_rebuilt :
    (ofSolver .trescaFixedPoint : ConfigTree Float).validate = .ok () ∧
    (ofSolver .trescaFixedPoint : ConfigTree Float).IsFilled ∧
    (∀ node ∈ (ofSolver .trescaFixedPoint : ConfigTree Float).nodes, node.verbosity = 0) ∧
    (ofSolver .trescaFixedPoint : ConfigTree Float).rebuilt =
      .error (.invalidConfiguration .cylinderProjection .missingThresholds) := by
  have hvalid : (ofSolver .trescaFixedPoint : ConfigTree Float).validate = .ok () :=
    binary64_validate_ofSolver nofun
  have hset : (ofSolver .trescaFixedPoint : ConfigTree Float).IsFilled := isFilled_fillDefaults _
  exact ⟨hvalid, hset, fun _ => silent_ofSolver,
    rebuilt_of_tresca hvalid hset (fun _ => silent_ofSolver) rfl⟩

end ConfigTree

end Complementarity
