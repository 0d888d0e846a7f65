import Complementarity.Proofs.StalledIterations

/-!
The problem of a contact within the whole problem, in exact arithmetic.

The rows of a contact act on a reaction block by block, one block of the matrix for each contact
(`sum_eq_sum_blocks` does the bookkeeping of indices once). The problem of a contact takes its own part
out of the offset, and the reaction it is solved for brings the part back. So nothing in it depends on
its own block, it moves as the contact does in the whole problem, and the errors of all contacts make up
the error of the reaction.
-/

namespace Complementarity

/-- A sum over the entries of a stack goes block by block. -/
theorem sum_eq_sum_blocks {n nc k : Nat} (hsize : n = nc * k)
    (fits : ∀ d : Fin nc, d.val * k + k ≤ n) (f : Fin n → ℝ) :
    ∑ j, f j = ∑ d : Fin nc, ∑ i : Fin k,
      f ⟨d.val * k + i.val, (Nat.add_lt_add_left i.isLt _).trans_le (fits d)⟩ := by
  subst hsize
  rw [← Equiv.sum_comp finProdFinEquiv f, Fintype.sum_prod_type]
  refine Finset.sum_congr rfl fun d _ => Finset.sum_congr rfl fun i _ => ?_
  congr 1
  refine Fin.ext ?_
  rw [finProdFinEquiv_apply_val, Nat.mul_comm, Nat.add_comm]

namespace FrictionProblem

/-- The block of the matrix by which the reaction of contact `d` moves contact `c`. -/
def coupling {R : Type} [Scalar R] (problem : FrictionProblem R) (c d : Fin problem.contacts)
    (fitsRow : problem.Fits c) (fitsColumn : problem.Fits d) : Mat R 3 3 :=
  Mat.ofFn fun i j => problem.matrix[c.val * 3 + i.val][d.val * 3 + j.val]

/-- What the reaction of contact `d` contributes to the velocity of contact `c`. -/
def contribution {R : Type} [Scalar R] {problem : FrictionProblem R} (fits : ∀ c, problem.Fits c)
    (r : Vec R problem.size) (c d : Fin problem.contacts) : Block R 2 :=
  Mat.mulVec (problem.coupling c d (fits c) (fits d)) (problem.ownReaction d (fits d) r)

variable {problem : FrictionProblem ℝ} {c : Fin problem.contacts} {r : Vec ℝ problem.size}

/-! ### The offset of a contact -/

theorem coupling_self (fits : problem.Fits c) :
    problem.coupling c c fits fits = Mat.diagonalBlock problem.matrix (c.val * 3) fits :=
  rfl

theorem size_of_spatial (hspatial : problem.tangents = 2) :
    problem.size = problem.contacts * 3 := by
  rw [size, hspatial]

theorem mulVec_rows_eq_sum (hspatial : problem.tangents = 2) (fits : ∀ c, problem.Fits c)
    (i : Fin 3) :
    (Mat.mulVec (Mat.rows problem.matrix (c.val * 3) (fits c)) r).get i =
      ∑ d, (contribution fits r c d).get i := by
  rw [Mat.get_mulVec, sum_eq_sum_blocks (size_of_spatial hspatial) fits]
  refine Finset.sum_congr rfl fun d _ => ?_
  rw [contribution, Mat.get_mulVec]
  refine Finset.sum_congr rfl fun j _ => ?_
  rw [Mat.entry_rows, coupling, Mat.entry_ofFn, ownReaction, Vec.get_slice]
  rfl

/-- What is left in the offset of a contact are the contributions of the others. -/
theorem offset_contactProblem (hspatial : problem.tangents = 2) (fits : ∀ c, problem.Fits c)
    (threshold? : Option ℝ) (i : Fin 3) :
    (problem.contactProblem c (fits c) r threshold?).offset.get i =
      (Vec.slice problem.offset (c.val * 3) (fits c) : Block ℝ 2).get i +
        ∑ d ∈ Finset.univ.erase c, (contribution fits r c d).get i := by
  have hown : (contribution fits r c c).get i =
      (Mat.mulVec (Mat.diagonalBlock problem.matrix (c.val * 3) (fits c))
        (problem.ownReaction c (fits c) r)).get i := by
    rw [contribution, coupling_self]
  simp only [contactProblem, Vec.get_sub, Vec.get_add]
  rw [mulVec_rows_eq_sum hspatial fits, ← Finset.add_sum_erase _ _ (Finset.mem_univ c), hown]
  ring

theorem ownReaction_splice {d : Fin problem.contacts} (hne : d ≠ c) (fits : problem.Fits d)
    (part : Block ℝ 2) :
    problem.ownReaction d fits (Vec.splice r (c.val * 3) part) = problem.ownReaction d fits r :=
  Vec.slice_splice_of_disjoint _ _ _ (disjoint_blocks hne 3)

/-- The problem of a contact is the same whatever its own reaction. -/
theorem contactProblem_splice (hspatial : problem.tangents = 2) (fits : ∀ c, problem.Fits c)
    (threshold? : Option ℝ) (part : Block ℝ 2) :
    problem.contactProblem c (fits c) (Vec.splice r (c.val * 3) part) threshold? =
      problem.contactProblem c (fits c) r threshold? := by
  have hoffset : (problem.contactProblem c (fits c) (Vec.splice r (c.val * 3) part)
      threshold?).offset = (problem.contactProblem c (fits c) r threshold?).offset := by
    refine Vec.ext_get fun i => ?_
    rw [offset_contactProblem hspatial fits, offset_contactProblem hspatial fits]
    congr 1
    refine Finset.sum_congr rfl fun d hd => ?_
    rw [contribution, ownReaction_splice (Finset.ne_of_mem_erase hd), contribution]
  exact congrArg (fun offset => ContactProblem.mk _ offset _ _) hoffset

/-! ### The errors of the contacts -/

theorem error_sq_mul (r : Stack ℝ problem.contacts problem.tangents) :
    problem.error r ^ 2 * problem.dataSize ^ 2 =
      ∑ c, contactErrorSq (problem.friction.get c) (r.block c) ((problem.velocity r).block c) := by
  have hnonneg : 0 ≤ ∑ c, contactErrorSq (problem.friction.get c) (r.block c)
      ((problem.velocity r).block c) :=
    Finset.sum_nonneg fun c _ => contactErrorSq_nonneg _ _ _
  rw [error, errorOf, ← mul_pow, relative_mul_dataSize, sumOver_eq, Scalar.sqrt_eq,
    Real.sq_sqrt hnonneg]

/-- In every way to read off the blocks, the same errors add up. -/
theorem sum_contactErrorSq_eq_slices {t : Nat} (htangents : problem.tangents = t)
    (fits : ∀ c : Fin problem.contacts, c.val * (t + 1) + (t + 1) ≤ problem.size) :
    ∑ c, contactErrorSq (problem.friction.get c) (Stack.block r c)
        (Stack.block (problem.velocity r) c) =
      ∑ c : Fin problem.contacts, contactErrorSq (problem.friction.get c)
        (Vec.slice r (c.val * (t + 1)) (fits c) : Block ℝ t)
        (Vec.slice (problem.velocity r) (c.val * (t + 1)) (fits c)) := by
  subst htangents
  rfl

/-- The error of a contact in its own problem is the one it has in the whole problem. -/
theorem contactProblem_error_sq (fits : problem.Fits c) (threshold? : Option ℝ) :
    (problem.contactProblem c fits r threshold?).error (problem.ownReaction c fits r) ^ 2 =
      contactErrorSq (problem.friction.get c) (problem.ownReaction c fits r)
        (Vec.slice (problem.velocity r) (c.val * 3) fits) := by
  rw [ContactProblem.error, velocity_contactProblem, Scalar.sqrt_eq,
    Real.sq_sqrt (contactErrorSq_nonneg _ _ _)]
  rfl

/-! ### The whole -/

/-- The problem of a contact, seen from the whole problem at a reaction. -/
structure Isolates (problem : FrictionProblem ℝ) (fits : ∀ c, problem.Fits c)
    (r : Vec ℝ problem.size) (c : Fin problem.contacts) (threshold? : Option ℝ) : Prop where
  velocity_eq : (problem.contactProblem c (fits c) r threshold?).velocity
      (problem.ownReaction c (fits c) r) =
    Vec.slice (problem.velocity r) (c.val * 3) (fits c)
  offset_eq : ∀ i, (problem.contactProblem c (fits c) r threshold?).offset.get i =
    (Vec.slice problem.offset (c.val * 3) (fits c) : Block ℝ 2).get i +
      ∑ d ∈ Finset.univ.erase c, (contribution fits r c d).get i
  unchanged : ∀ part : Block ℝ 2,
    problem.contactProblem c (fits c) (Vec.splice r (c.val * 3) part) threshold? =
      problem.contactProblem c (fits c) r threshold?

/-- In space the problems of the contacts fit together to the whole problem, at every reaction. -/
theorem contacts_make_up_problem (problem : FrictionProblem ℝ) (hspatial : problem.tangents = 2)
    (r : Vec ℝ problem.size) (threshold? : Fin problem.contacts → Option ℝ) :
    (∀ c, problem.Isolates (problem.fits_of_spatial hspatial) r c (threshold? c)) ∧
      problem.error r ^ 2 * problem.dataSize ^ 2 =
        ∑ c, (problem.contactProblem c (problem.fits_of_spatial hspatial c) r (threshold? c)).error
          (problem.ownReaction c (problem.fits_of_spatial hspatial c) r) ^ 2 := by
  have fits := problem.fits_of_spatial hspatial
  refine ⟨fun c => ⟨velocity_contactProblem (fits c) r (threshold? c),
    offset_contactProblem hspatial fits (threshold? c),
    contactProblem_splice hspatial fits (threshold? c)⟩, ?_⟩
  rw [error_sq_mul, sum_contactErrorSq_eq_slices hspatial fits]
  exact Finset.sum_congr rfl fun c _ => (contactProblem_error_sq (fits c) (threshold? c)).symm

/-- Two contacts that push each other apart: each moves both by as much as itself. -/
noncomputable def linkedContacts : FrictionProblem ℝ where
  contacts := 2
  tangents := 2
  matrix := Mat.ofFn fun _ _ => 1
  offset := #v[-1, 0, 0, -1, 0, 0]
  friction := Vector.replicate 2 1
  tangents_mem := spatial_tangents
  friction_nonneg c := by
    rw [Vec.get_replicate]
    exact zero_le_one (α := ℝ)

/-- The reaction of the second contact pushes the first one off, whatever its own reaction. -/
theorem linkedContacts_pushed :
    linkedContacts.tangents = 2 ∧
    ∀ normal : ℝ, (linkedContacts.contactProblem (0 : Fin 2)
      (linkedContacts.fits_of_spatial rfl (0 : Fin 2)) #v[normal, 0, 0, 3, 0, 0] none).offset.get 0 =
        2 := by
  refine ⟨rfl, fun normal => ?_⟩
  obtain ⟨hisolates, -⟩ :=
    contacts_make_up_problem linkedContacts rfl #v[normal, 0, 0, 3, 0, 0] fun _ => none
  have hothers : (Finset.univ : Finset (Fin 2)).erase 0 = {1} := rfl
  have hcontribution : (contribution (linkedContacts.fits_of_spatial rfl) #v[normal, 0, 0, 3, 0, 0]
      (0 : Fin 2) (1 : Fin 2)).get 0 = 3 := by
    refine (Mat.get_mulVec _ _ _).trans ?_
    rw [Fin.sum_univ_three]
    change (1 : ℝ) * 3 + 1 * 0 + 1 * 0 = 3
    norm_num
  calc _ = (-1 : ℝ) + ∑ d ∈ (Finset.univ : Finset (Fin 2)).erase 0,
        (contribution (linkedContacts.fits_of_spatial rfl) #v[normal, 0, 0, 3, 0, 0]
          (0 : Fin 2) d).get 0 := (hisolates (0 : Fin 2)).offset_eq 0
    _ = -1 + 3 := by rw [hothers, Finset.sum_singleton, hcontribution]
    _ = 2 := by norm_num

end FrictionProblem

end Complementarity
