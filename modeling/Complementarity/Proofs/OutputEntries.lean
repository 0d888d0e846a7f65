import Complementarity.Proofs.DefaultFilling
import Complementarity.Proofs.ParameterReading

/-!
Output entries.

A solve writes into one entry of each parameter list of the outermost node. `SameInputs` is equality
up to these entries, at every node. Checking, filling and reading parameters look at nothing else,
so they cannot tell such configurations apart.
-/

namespace Complementarity

variable {R A : Type}

/-! ### Nodes -/

/-- The nodes differ in their output entries at most. -/
structure Node.SameInputs (left right : Node R) : Prop where
  solver_eq : left.solver = right.solver
  isSet_eq : left.isSet = right.isSet
  verbosity_eq : left.verbosity = right.verbosity
  integers_length : left.integers.length = right.integers.length
  reals_length : left.reals.length = right.reals.length
  integer_eq (i : Nat) : i ≠ IntegerSlot.iterationsDone.offset →
    left.integers[i]? = right.integers[i]?
  real_eq (i : Nat) : i ≠ RealSlot.residual.offset → left.reals[i]? = right.reals[i]?

/-- What can be read without the output entries. -/
def ReadsInputs (read : Node R → A) : Prop :=
  ∀ left right : Node R, left.SameInputs right → read left = read right

namespace Node.SameInputs

variable {left right : Node R}

theorem refl (node : Node R) : node.SameInputs node :=
  ⟨rfl, rfl, rfl, rfl, rfl, fun _ _ => rfl, fun _ _ => rfl⟩

theorem integer? (h : left.SameInputs right) {slot : IntegerSlot} (hslot : slot ≠ .iterationsDone) :
    left.integer? slot = right.integer? slot :=
  h.integer_eq _ (by cases slot <;> first | decide | exact absurd rfl hslot)

theorem count? (h : left.SameInputs right) {slot : IntegerSlot} (hslot : slot ≠ .iterationsDone) :
    left.count? slot = right.count? slot :=
  congrArg (Option.map _) (h.integer? hslot)

theorem real? (h : left.SameInputs right) {slot : RealSlot} (hslot : slot ≠ .residual) :
    left.real? slot = right.real? slot :=
  h.real_eq _ (by cases slot <;> first | decide | exact absurd rfl hslot)

/-- A record changes nothing but the output entries. -/
theorem record (node : Node R) (iterations : Nat) (residual : R) :
    (node.record iterations residual).SameInputs node where
  solver_eq := rfl
  isSet_eq := rfl
  verbosity_eq := rfl
  integers_length := List.length_set
  reals_length := List.length_set
  integer_eq _ hne := List.getElem?_set_ne hne.symm
  real_eq _ hne := List.getElem?_set_ne hne.symm

theorem withVerbosity (h : left.SameInputs right) (verbosity : UInt8) :
    ({ left with verbosity } : Node R).SameInputs { right with verbosity } :=
  { h with verbosity_eq := rfl }

variable [Scalar R]

theorem filled (h : left.SameInputs right) : left.filled.SameInputs right.filled := by
  unfold Node.filled
  rw [h.isSet_eq]
  split
  · exact h
  · unfold withDefaults
    rw [h.solver_eq, h.verbosity_eq]
    exact refl _

theorem defect? (h : left.SameInputs right) : left.defect? = right.defect? := by
  simp (disch := decide) only [Node.defect?, countDefect?, capDefect?, toleranceDefect?,
    stepDefect?, shrinkDefect?, h.solver_eq, h.integers_length, h.reals_length, h.integer?, h.real?]

end Node.SameInputs

/-! ### Reading -/

namespace ReadsInputs

theorem sweepParams : ReadsInputs (SweepParams.ofNode? (R := R)) := by
  intro left right h
  simp (disch := decide) only [SweepParams.ofNode?, h.count?, h.integer?, h.real?, h.verbosity_eq]

theorem projectionParams : ReadsInputs (ProjectionParams.ofNode? (R := R)) := by
  intro left right h
  simp (disch := decide) only [ProjectionParams.ofNode?, h.count?, h.real?, h.verbosity_eq]

theorem hyperplaneParams : ReadsInputs (FrictionProblem.hyperplaneParams? (R := R)) := by
  intro left right h
  simp (disch := decide) only [FrictionProblem.hyperplaneParams?, projectionParams left right h,
    h.real?]

theorem relaySweepParams : ReadsInputs (RelaySweepParams.ofNode? (R := R)) := by
  intro left right h
  simp (disch := decide) only [RelaySweepParams.ofNode?, h.count?, h.real?, h.verbosity_eq]

theorem latinParams : ReadsInputs (LatinParams.ofNode? (R := R)) := by
  intro left right h
  simp (disch := decide) only [LatinParams.ofNode?, h.count?, h.real?, h.verbosity_eq]

theorem coneIterationParams :
    ReadsInputs (ContactProblem.ConeIterationParams.ofNode? (R := R)) := by
  intro left right h
  simp (disch := decide) only [ContactProblem.ConeIterationParams.ofNode?, h.count?, h.real?]

theorem newtonParams : ReadsInputs (ContactProblem.NewtonParams.ofNode? (R := R)) := by
  intro left right h
  simp (disch := decide) only [ContactProblem.NewtonParams.ofNode?, h.count?, h.real?]

theorem contactSolver [Scalar R] : ReadsInputs (ContactSolver.ofNode (R := R)) := by
  intro left right h
  simp (disch := decide) only [ContactSolver.ofNode, h.solver_eq, h.real?,
    coneIterationParams left right h, newtonParams left right h]

end ReadsInputs

/-! ### Configurations -/

namespace ConfigTree

/-- The configurations differ in output entries at most. -/
inductive SameInputs : ConfigTree R → ConfigTree R → Prop
  | leaf {left right : Node R} (hnode : left.SameInputs right) : SameInputs (leaf left) (leaf right)
  | above {left right : Node R} {leftInternal rightInternal : ConfigTree R}
      (hnode : left.SameInputs right) (hinternal : SameInputs leftInternal rightInternal) :
      SameInputs (above left leftInternal) (above right rightInternal)

namespace SameInputs

variable {left right : ConfigTree R}

theorem refl (tree : ConfigTree R) : tree.SameInputs tree := by
  induction tree with
  | leaf node => exact leaf (.refl node)
  | above node _ ih => exact above (.refl node) ih

theorem root (h : left.SameInputs right) : left.root.SameInputs right.root := by
  cases h <;> assumption

theorem mapRoot (h : left.SameInputs right) {f g : Node R → Node R}
    (hfg : ∀ a b : Node R, a.SameInputs b → (f a).SameInputs (g b)) :
    (left.mapRoot f).SameInputs (right.mapRoot g) := by
  cases h with
  | leaf hnode => exact leaf (hfg _ _ hnode)
  | above hnode hinternal => exact above (hfg _ _ hnode) hinternal

/-- A record changes nothing but output entries. -/
theorem mapRoot_record (tree : ConfigTree R) (iterations : Nat) (residual : R) :
    (tree.mapRoot (·.record iterations residual)).SameInputs tree := by
  cases tree with
  | leaf node => exact leaf (.record node iterations residual)
  | above node internal => exact above (.record node iterations residual) (refl internal)

/-- The configurations agree so at every depth. -/
theorem at? (h : left.SameInputs right) {depth : Nat} {below : ConfigTree R}
    (hbelow : right.at? depth = some below) :
    ∃ other, left.at? depth = some other ∧ other.SameInputs below := by
  induction h generalizing depth with
  | leaf hnode =>
    cases depth with
    | zero => exact ⟨_, rfl, Option.some.inj hbelow ▸ leaf hnode⟩
    | succ depth => cases hbelow
  | @above _ _ _ internal hnode hinternal ih =>
    cases depth with
    | zero => exact ⟨_, rfl, Option.some.inj hbelow ▸ above hnode hinternal⟩
    | succ depth =>
      have hbelow : internal.at? depth = some below := hbelow
      exact ih hbelow

theorem isFilled (h : left.SameInputs right) (hright : right.IsFilled) : left.IsFilled := by
  induction h with
  | leaf hnode =>
    rw [isFilled_leaf] at hright ⊢
    rw [hnode.isSet_eq, hright]
  | above hnode _ ih =>
    rw [isFilled_above] at hright ⊢
    exact ⟨by rw [hnode.isSet_eq, hright.1], ih hright.2⟩

/-- Reading goes on with the internal configurations, or fails alike. -/
theorem bind_internal (h : left.SameInputs right) {next : ConfigTree R → Except (Failure R) A}
    (hnext : ∀ a b : ConfigTree R, a.SameInputs b → next a = next b) :
    (left.internal.mapError .error >>= next) = (right.internal.mapError .error >>= next) := by
  cases h with
  | @leaf left right hnode =>
    change Except.error (Failure.error (Error.invalidConfiguration left.solver _)) = _
    rw [hnode.solver_eq]
    rfl
  | above _ hinternal => exact hnext _ _ hinternal

variable [Scalar R]

theorem fillDefaults (h : left.SameInputs right) :
    left.fillDefaults.SameInputs right.fillDefaults := by
  induction h with
  | leaf hnode =>
    unfold ConfigTree.fillDefaults
    rw [hnode.isSet_eq]
    split
    · exact leaf hnode
    · unfold Node.withDefaults
      rw [hnode.solver_eq, hnode.verbosity_eq]
      exact refl _
  | above hnode _ ih => exact above hnode.filled ih

theorem defect? (h : left.SameInputs right) (inside : Bool) :
    left.defect? inside = right.defect? inside := by
  induction h generalizing inside with
  | leaf hnode => simp only [ConfigTree.defect?, hnode.defect?, hnode.solver_eq]
  | above hnode hinternal ih =>
    simp only [ConfigTree.defect?, hnode.defect?, hnode.solver_eq, hinternal.root.solver_eq, ih]

theorem validate (h : left.SameInputs right) : left.validate = right.validate := by
  rw [ConfigTree.validate, h.defect?]
  rfl

theorem gaussSeidelParams (h : left.SameInputs right) :
    FrictionProblem.gaussSeidelParams left = FrictionProblem.gaussSeidelParams right := by
  unfold FrictionProblem.gaussSeidelParams
  rw [ReadsInputs.sweepParams _ _ h.root]
  refine h.bind_internal fun a b hcontact => ?_
  rw [ReadsInputs.contactSolver _ _ hcontact.root]

theorem trescaParams (h : left.SameInputs right) :
    TrescaParams.ofTree left = TrescaParams.ofTree right := by
  unfold TrescaParams.ofTree
  simp (disch := decide) only [h.root.integer?, h.root.count?, h.root.real?, h.root.verbosity_eq]
  refine h.bind_internal fun a b hsweeps => ?_
  rw [ReadsInputs.sweepParams _ _ hsweeps.root]
  refine hsweeps.bind_internal fun c d hcontact => ?_
  rw [ReadsInputs.contactSolver _ _ hcontact.root]

end SameInputs

end ConfigTree

end Complementarity
