import Complementarity.Dispatch.Stock
import Complementarity.Proofs.ConfigGrammar

/-!
Reading parameters from checked configurations.

A record of parameters is read entry by entry, and fails if one entry is missing. In a usable node
none is, so every record can be read from it; and a checked configuration has the nodes where the
methods look for them.
-/

namespace Complementarity

variable {R A B : Type} [Scalar R]

/-- What can be read from every usable node. -/
def IsReadable (read : Node R → Option A) : Prop :=
  ∀ node : Node R, node.IsUsable → ∃ a, read node = some a

namespace IsReadable

theorem integer (slot : IntegerSlot) : IsReadable fun node : Node R => node.integer? slot :=
  fun _ h => Node.exists_integer h.integers_length slot

theorem real (slot : RealSlot) : IsReadable fun node : Node R => node.real? slot :=
  fun _ h => Node.exists_real h.reals_length slot

theorem count (slot : IntegerSlot) : IsReadable fun node : Node R => node.count? slot := by
  intro node h
  obtain ⟨k, hk⟩ := Node.exists_integer h.integers_length slot
  exact ⟨k.toInt.toNat, by simp [Node.count?, hk]⟩

theorem pure (f : Node R → A) : IsReadable fun node : Node R => some (f node) :=
  fun node _ => ⟨f node, rfl⟩

/-- One entry after another. -/
theorem bind {read : Node R → Option A} {next : A → Node R → Option B} (hread : IsReadable read)
    (hnext : ∀ a, IsReadable (next a)) :
    IsReadable fun node => read node >>= fun a => next a node := by
  intro node h
  obtain ⟨a, ha⟩ := hread node h
  obtain ⟨b, hb⟩ := hnext a node h
  refine ⟨b, ?_⟩
  simp only [ha]
  exact hb

end IsReadable

open IsReadable

/-! ### Records -/

theorem sweepParams_isReadable : IsReadable (SweepParams.ofNode? (R := R)) :=
  (count _).bind fun _ => (real _).bind fun _ => (real _).bind fun _ => (integer _).bind fun _ =>
    pure _

theorem projectionParams_isReadable : IsReadable (ProjectionParams.ofNode? (R := R)) :=
  (count _).bind fun _ => (real _).bind fun _ => (real _).bind fun _ => (real _).bind fun _ =>
    (real _).bind fun _ => (count _).bind fun _ => pure _

theorem hyperplaneParams_isReadable :
    IsReadable (FrictionProblem.hyperplaneParams? (R := R)) :=
  projectionParams_isReadable.bind fun _ => (real _).bind fun _ => pure _

theorem relaySweepParams_isReadable : IsReadable (RelaySweepParams.ofNode? (R := R)) :=
  (count _).bind fun _ => (real _).bind fun _ => (real _).bind fun _ => pure _

theorem latinParams_isReadable : IsReadable (LatinParams.ofNode? (R := R)) :=
  (count _).bind fun _ => (real _).bind fun _ => (real _).bind fun _ => pure _

theorem coneIterationParams_isReadable :
    IsReadable (ContactProblem.ConeIterationParams.ofNode? (R := R)) :=
  (real _).bind fun _ => (count _).bind fun _ => (real _).bind fun _ => (real _).bind fun _ =>
    (real _).bind fun _ => (count _).bind fun _ => pure _

theorem newtonParams_isReadable : IsReadable (ContactProblem.NewtonParams.ofNode? (R := R)) :=
  (real _).bind fun _ => (count _).bind fun _ => (real _).bind fun _ => (real _).bind fun _ =>
    (count _).bind fun _ => pure _

/-! ### Configurations -/

variable {node : Node R} {tree : ConfigTree R}

omit [Scalar R] in
theorem ofOption_eq_ok {fault : Fault} {a : A} {a? : Option A} (h : a? = some a) :
    (Failure.ofOption fault a? : Except (Failure R) A) = .ok a := by
  rw [h]; rfl

/-- A usable node of a solver for single contacts configures one. -/
theorem ContactSolver.exists_ofNode (h : node.IsUsable)
    (hfamily : node.solver.family = .oneContact) :
    ∃ solver, ContactSolver.ofNode node = .ok solver := by
  obtain ⟨tolerance, htolerance⟩ := real .tolerance node h
  obtain ⟨iteration, hiteration⟩ := coneIterationParams_isReadable node h
  obtain ⟨newton, hnewton⟩ := newtonParams_isReadable node h
  simp only [ContactSolver.ofNode, ofOption_eq_ok htolerance]
  cases hsolver : node.solver with
  | coneProjection => exact ⟨_, rfl⟩
  | coneIteration => exact ⟨_, by rw [ofOption_eq_ok hiteration]; rfl⟩
  | cylinderProjection => exact ⟨_, rfl⟩
  | newton => exact ⟨_, by rw [ofOption_eq_ok hnewton]; rfl⟩
  | _ => rw [hsolver] at hfamily; cases hfamily

/-- A checked configuration has one of the shapes, with usable nodes throughout. -/
theorem ConfigTree.isWellShaped_of_validate (h : tree.validate = .ok ()) :
    tree.IsWellShaped ∧ ∀ node ∈ tree.nodes, node.IsUsable := by
  obtain ⟨hadmitted, husable⟩ := ConfigTree.defect?_eq_none.mp (ConfigTree.validate_eq_ok.mp h)
  exact ⟨ConfigTree.admitted_false_iff.mp hadmitted, husable⟩

theorem ConfigTree.root_isUsable (h : tree.validate = .ok ()) : tree.root.IsUsable :=
  (isWellShaped_of_validate h).2 _ tree.root_mem_nodes

namespace FrictionProblem

theorem gaussSeidelParams_eq_ok {outer contact : Node R} {solver : ContactSolver R}
    {params : SweepParams R} (hsolver : ContactSolver.ofNode contact = .ok solver)
    (hparams : SweepParams.ofNode? outer = some params) :
    gaussSeidelParams (.above outer (.leaf contact)) = .ok (solver, params) := by
  change (ContactSolver.ofNode contact >>= fun solver =>
    Failure.ofOption .missingParameter (SweepParams.ofNode? outer) >>= fun params =>
      Except.ok (solver, params)) = _
  rw [hsolver, ofOption_eq_ok hparams]
  rfl

/-- Checked sweeps have their parameters and a solver for single contacts. -/
theorem exists_gaussSeidelParams (h : tree.validate = .ok ())
    (hroot : tree.root.solver = .gaussSeidel) : ∃ params, gaussSeidelParams tree = .ok params := by
  obtain ⟨hshape, husable⟩ := ConfigTree.isWellShaped_of_validate h
  cases hshape with
  | alone hsolver => exact absurd hroot fun heq => hsolver (by simp [← heq, ConfigTree.root])
  | @sweeps outer contact _ hcontact _ =>
    have hnodes : outer.IsUsable ∧ contact.IsUsable := by simpa [ConfigTree.nodes] using husable
    obtain ⟨solver, hsolver⟩ := ContactSolver.exists_ofNode hnodes.2 hcontact
    obtain ⟨params, hparams⟩ := sweepParams_isReadable outer hnodes.1
    exact ⟨_, gaussSeidelParams_eq_ok hsolver hparams⟩
  | thresholds houter => rw [ConfigTree.root, houter] at hroot; cases hroot

end FrictionProblem

theorem trescaRecord_isReadable (inner : SweepParams R) (solver : ContactSolver R) :
    IsReadable fun node : Node R => do
      let policy ← node.integer? .internalTolerance
      let iterationCap ← node.count? .iterationCap
      let tolerance ← node.real? .tolerance
      return ({ iterationCap, tolerance, policy := .ofInteger policy
                verbosity := node.verbosity, inner, solver } : TrescaParams R) :=
  (integer _).bind fun _ => (count _).bind fun _ => (real _).bind fun _ => pure _

/-- A checked Tresca method has its parameters and those of its inner solves. -/
theorem TrescaParams.exists_ofTree (h : tree.validate = .ok ())
    (hroot : tree.root.solver = .trescaFixedPoint) :
    ∃ params, TrescaParams.ofTree tree = .ok params := by
  obtain ⟨hshape, husable⟩ := ConfigTree.isWellShaped_of_validate h
  cases hshape with
  | alone hsolver => exact absurd hroot fun heq => hsolver (by simp [← heq, ConfigTree.root])
  | sweeps houter => rw [ConfigTree.root, houter] at hroot; cases hroot
  | @thresholds outer sweeps contact _ _ hcontact =>
    have hnodes : outer.IsUsable ∧ sweeps.IsUsable ∧ contact.IsUsable := by
      simpa [ConfigTree.nodes] using husable
    have hfamily : contact.solver.family = .oneContact := by rw [hcontact]; rfl
    obtain ⟨solver, hsolver⟩ := ContactSolver.exists_ofNode hnodes.2.2 hfamily
    obtain ⟨inner, hinner⟩ := sweepParams_isReadable sweeps hnodes.2.1
    obtain ⟨params, hparams⟩ := trescaRecord_isReadable inner solver outer hnodes.1
    refine ⟨params, ?_⟩
    change (ContactSolver.ofNode contact >>= fun solver =>
      Failure.ofOption .missingParameter (SweepParams.ofNode? sweeps) >>= fun inner => _) = _
    rw [hsolver, ofOption_eq_ok hinner]
    exact ofOption_eq_ok hparams

end Complementarity
