import Complementarity.Config.Defaults
import Complementarity.Proofs.ConfigGrammar

/-!
What filling in the defaults does.

Filling leaves every node set, and set nodes as they are, so a second filling finds nothing to do. It
reaches every node of a configuration and never changes a verbosity; what it adds lies below the
last node, and only if that node was not set (`at?_fillDefaults_of_none`).
-/

namespace Complementarity

variable {R : Type} [Scalar R]

namespace Node

theorem isSet_filled (node : Node R) : node.filled.isSet = true := by
  unfold filled
  split
  · assumption
  · rfl

theorem solver_filled (node : Node R) : node.filled.solver = node.solver := by
  unfold filled
  split <;> rfl

theorem verbosity_filled (node : Node R) : node.filled.verbosity = node.verbosity := by
  unfold filled
  split <;> rfl

theorem filled_of_isSet {node : Node R} (h : node.isSet = true) : node.filled = node :=
  if_pos h

end Node

namespace ConfigTree

/-- Nothing is left to fill. -/
def IsFilled (tree : ConfigTree R) : Prop :=
  ∀ node ∈ tree.nodes, node.isSet = true

omit [Scalar R] in
theorem isFilled_leaf {node : Node R} : (leaf node).IsFilled ↔ node.isSet = true :=
  List.forall_mem_singleton

omit [Scalar R] in
theorem isFilled_above {node : Node R} {internal : ConfigTree R} :
    (above node internal).IsFilled ↔ node.isSet = true ∧ internal.IsFilled :=
  List.forall_mem_cons

/-- The default internal configurations are complete. -/
theorem isFilled_of_defaultInternal? {solver : SolverId} {internal : ConfigTree R}
    (h : solver.defaultInternal? = some internal) : internal.IsFilled := by
  cases solver with
  | gaussSeidel =>
    cases h
    exact isFilled_leaf.mpr rfl
  | trescaFixedPoint =>
    cases h
    exact isFilled_above.mpr ⟨rfl, isFilled_leaf.mpr rfl⟩
  | _ => cases h

theorem fillDefaults_leaf (node : Node R) : (leaf node).fillDefaults =
    if node.isSet then leaf node else ofNode node.withDefaults node.solver.defaultInternal? := rfl

/-- Filling leaves nothing to fill. -/
theorem isFilled_fillDefaults (tree : ConfigTree R) : tree.fillDefaults.IsFilled := by
  induction tree with
  | leaf node =>
    rw [fillDefaults_leaf]
    split
    · exact isFilled_leaf.mpr ‹_›
    · cases h : (node.solver.defaultInternal? : Option (ConfigTree R)) with
      | none => exact isFilled_leaf.mpr rfl
      | some internal => exact isFilled_above.mpr ⟨rfl, isFilled_of_defaultInternal? h⟩
  | above node internal ih => exact isFilled_above.mpr ⟨node.isSet_filled, ih⟩

/-- Filling changes nothing just where nothing is left to fill. -/
theorem fillDefaults_eq_self_iff {tree : ConfigTree R} :
    tree.fillDefaults = tree ↔ tree.IsFilled := by
  refine ⟨fun h => h ▸ tree.isFilled_fillDefaults, fun h => ?_⟩
  induction tree with
  | leaf node => exact if_pos (isFilled_leaf.mp h)
  | above node internal ih =>
    obtain ⟨hset, hinternal⟩ := isFilled_above.mp h
    rw [fillDefaults, Node.filled_of_isSet hset, ih hinternal]

theorem fillDefaults_fillDefaults (tree : ConfigTree R) :
    tree.fillDefaults.fillDefaults = tree.fillDefaults :=
  fillDefaults_eq_self_iff.mpr tree.isFilled_fillDefaults

/-- Filling goes down one node at a time: a node that is not set and stands alone gets its default
internal configuration, and whatever then lies below a node is filled next. -/
theorem fillDefaults_eq_ofNode (tree : ConfigTree R) :
    tree.fillDefaults =
      ofNode tree.root.filled
        ((tree.internal?.or
          (if tree.root.isSet then none else tree.root.solver.defaultInternal?)).map
          fillDefaults) := by
  cases tree with
  | leaf node =>
    change (leaf node).fillDefaults = ofNode node.filled
      ((if node.isSet then none else node.solver.defaultInternal?).map fillDefaults)
    rw [fillDefaults_leaf, Node.filled]
    split
    · rfl
    · cases h : (node.solver.defaultInternal? : Option (ConfigTree R)) with
      | none => rfl
      | some internal =>
        rw [Option.map_some, fillDefaults_eq_self_iff.mpr (isFilled_of_defaultInternal? h)]
  | above node internal => rfl

theorem root_fillDefaults (tree : ConfigTree R) : tree.fillDefaults.root = tree.root.filled := by
  rw [fillDefaults_eq_ofNode, root_ofNode]

theorem solver_fillDefaults (tree : ConfigTree R) :
    tree.fillDefaults.root.solver = tree.root.solver := by
  rw [root_fillDefaults, Node.solver_filled]

/-- What lies at some depth is filled where it lies. -/
theorem at?_fillDefaults {tree below : ConfigTree R} {depth : Nat} (h : tree.at? depth = some below) :
    tree.fillDefaults.at? depth = some below.fillDefaults := by
  induction depth generalizing tree with
  | zero =>
    cases h
    rfl
  | succ depth ih =>
    cases tree with
    | leaf node => cases h
    | above node internal =>
      have hinternal : internal.at? depth = some below := h
      exact ih hinternal

/-- What lies deeper than the configuration did comes from the defaults of its last node. -/
theorem at?_fillDefaults_of_none {tree there : ConfigTree R} {depth : Nat}
    (hthere : tree.fillDefaults.at? depth = some there) (hnone : tree.at? depth = none) :
    ∃ (last : Node R) (internal : ConfigTree R) (above rest : Nat), depth = above + 1 + rest ∧
      tree.at? above = some (leaf last) ∧ last.isSet = false ∧
      last.solver.defaultInternal? = some internal ∧ internal.at? rest = some there := by
  induction tree generalizing depth with
  | leaf node =>
    cases depth with
    | zero => cases hnone
    | succ rest =>
      cases hset : node.isSet with
      | true =>
        rw [fillDefaults_leaf, if_pos hset] at hthere
        cases hthere
      | false =>
        rw [fillDefaults_leaf, if_neg (Bool.eq_false_iff.mp hset)] at hthere
        cases hinternal : (node.solver.defaultInternal? : Option (ConfigTree R)) with
        | none =>
          rw [hinternal] at hthere
          cases hthere
        | some internal =>
          rw [hinternal] at hthere
          exact ⟨node, internal, 0, rest, by omega, rfl, hset, hinternal, hthere⟩
  | above node internal ih =>
    cases depth with
    | zero => cases hnone
    | succ depth =>
      obtain ⟨last, added, above, rest, hdepth, hlast, hunset, hadded, hrest⟩ := ih hthere hnone
      exact ⟨last, added, above + 1, rest, by omega, hlast, hunset, hadded, hrest⟩

/-- A default configuration consists of default nodes. -/
theorem exists_eq_complete {solver : SolverId} {node : Node R}
    (hmem : node ∈ (ofSolver solver).nodes) : ∃ other, node = .complete other := by
  cases solver with
  | gaussSeidel =>
    rcases List.mem_cons.mp hmem with rfl | hrest
    · exact ⟨_, rfl⟩
    · exact ⟨_, List.mem_singleton.mp hrest⟩
  | trescaFixedPoint =>
    rcases List.mem_cons.mp hmem with rfl | hrest
    · exact ⟨_, rfl⟩
    · rcases List.mem_cons.mp hrest with rfl | hlast
      · exact ⟨_, rfl⟩
      · exact ⟨_, List.mem_singleton.mp hlast⟩
  | _ => exact ⟨_, List.mem_singleton.mp hmem⟩

/-- Where default parameters are usable, every default configuration passes the check, but for that
of a projection onto the cylinder, which is not used alone. -/
theorem validate_ofSolver_of_isUsable
    (hdefaults : ∀ solver, (Node.complete solver : Node R).IsUsable) {solver : SolverId}
    (hne : solver ≠ .cylinderProjection) :
    (ofSolver solver : ConfigTree R).validate = .ok () := by
  rw [validate_iff_grammar]
  constructor
  · cases solver with
    | gaussSeidel => exact .sweeps rfl rfl nofun
    | trescaFixedPoint => exact .thresholds rfl rfl rfl
    | cylinderProjection => exact absurd rfl hne
    | _ => exact .alone (by simp [Node.withDefaults, Node.uninitialized])
  · intro node hmem
    obtain ⟨other, rfl⟩ := exists_eq_complete hmem
    exact hdefaults other

/-- A configuration with nothing left to fill that has the nodes of another one at their places: set
nodes as they were, the others with the defaults of their algorithms. Nodes are added only below one
that was not set and stood alone, and they are its default internal configuration. -/
structure IsCompletion (filled tree : ConfigTree R) : Prop where
  fillDefaults_eq : filled.fillDefaults = filled
  isFilled : filled.IsFilled
  kept {depth : Nat} {below : ConfigTree R} : tree.at? depth = some below →
    ∃ there, filled.at? depth = some there ∧
      there.root.solver = below.root.solver ∧ there.root.verbosity = below.root.verbosity ∧
      (below.root.isSet = true → there.root = below.root) ∧
      (below.root.isSet = false → there.root = below.root.withDefaults)
  added {depth : Nat} {there : ConfigTree R} : filled.at? depth = some there →
    tree.at? depth = none →
    ∃ (last : Node R) (internal : ConfigTree R) (above rest : Nat), depth = above + 1 + rest ∧
      tree.at? above = some (leaf last) ∧ last.isSet = false ∧
      last.solver.defaultInternal? = some internal ∧ internal.at? rest = some there

/-- Filling in the defaults completes every configuration. -/
theorem fillDefaults_isCompletion (tree : ConfigTree R) : tree.fillDefaults.IsCompletion tree where
  fillDefaults_eq := tree.fillDefaults_fillDefaults
  isFilled := tree.isFilled_fillDefaults
  kept {_ below} h := by
    refine ⟨below.fillDefaults, at?_fillDefaults h, below.solver_fillDefaults, ?_, ?_, ?_⟩
    · rw [root_fillDefaults, Node.verbosity_filled]
    · intro hset
      rw [root_fillDefaults, Node.filled_of_isSet hset]
    · intro hunset
      rw [root_fillDefaults, Node.filled, if_neg (Bool.eq_false_iff.mp hunset)]
  added := at?_fillDefaults_of_none

end ConfigTree

end Complementarity
