import Complementarity.Linear.Vec

/-!
Contact blocks.

A block describes one contact: the normal component first, then the tangential ones. Reactions and
velocities of many contacts are stacked, one block after the other.
-/

namespace Complementarity

/-- One contact with `t` tangential components. -/
abbrev Block (R : Type) (t : Nat) := Vec R (t + 1)

namespace Block

variable {R : Type} {t : Nat}

/-- The normal component. -/
@[inline] def normal (r : Block R t) : R :=
  r[0]

/-- The tangential components. -/
@[specialize] def tangent (r : Block R t) : Vec R t :=
  Vec.rest r

/-- A block from its parts. -/
@[specialize] def ofParts (normal : R) (tangent : Vec R t) : Block R t :=
  Vec.cons normal tangent

/-- The tangential component in the plane. -/
@[inline] def slip (r : Block R 1) : R :=
  r[1]

/-- The first tangential component in space. -/
@[inline] def first (r : Block R 2) : R :=
  r[1]

/-- The second tangential component in space. -/
@[inline] def second (r : Block R 2) : R :=
  r[2]

/-- The Euclidean norm of the tangential components. -/
@[specialize] def tangentNorm [Scalar R] (r : Block R t) : R :=
  Scalar.sqrt (Vec.normSq r.tangent)

/-- A list as a block, unless it is empty. -/
def ofList? : List R → Option ((t : Nat) × Block R t)
  | [] => none
  | x :: xs => some ⟨xs.length, Vec.cons x (Vec.ofList xs)⟩

/-! ### Parts of a block -/

@[simp] theorem normal_ofParts (a : R) (x : Vec R t) : (ofParts a x).normal = a :=
  Vec.get_cons_zero a x

@[simp] theorem tangent_ofParts (a : R) (x : Vec R t) : (ofParts a x).tangent = x :=
  Vec.ext_get fun i => by rw [tangent, Vec.get_rest, ofParts, Vec.get_cons_succ]

/-- Two blocks with the same parts are the same. -/
theorem ext_parts {r s : Block R t} (hnormal : r.normal = s.normal)
    (htangent : r.tangent = s.tangent) : r = s := by
  refine Vec.ext_get fun i => ?_
  cases i using Fin.cases with
  | zero => exact hnormal
  | succ i => rw [← Vec.get_rest, ← Vec.get_rest, ← tangent, ← tangent, htangent]

section Operations

variable [Scalar R]

@[simp] theorem normal_zero : Block.normal (Vec.zero (t + 1)) = (0 : R) :=
  Vec.get_zero 0

@[simp] theorem tangent_zero : Block.tangent (Vec.zero (t + 1)) = (Vec.zero t : Vec R t) :=
  Vec.ext_get fun i => by rw [tangent, Vec.get_rest, Vec.get_zero, Vec.get_zero]

end Operations

end Block

/-- The blocks of `nc` contacts, one after the other. -/
abbrev Stack (R : Type) (nc t : Nat) := Vec R (nc * (t + 1))

namespace Stack

variable {R : Type} {nc t : Nat}

theorem block_fits (c : Fin nc) : c.val * (t + 1) + (t + 1) ≤ nc * (t + 1) := by
  rw [← Nat.succ_mul]
  exact Nat.mul_le_mul_right _ c.isLt

/-- The block of a contact. -/
@[specialize] def block (x : Stack R nc t) (c : Fin nc) : Block R t :=
  Vec.slice x (c.val * (t + 1)) (block_fits c)

/-- The stack with the given blocks. -/
@[specialize] def ofBlocks (blocks : Fin nc → Block R t) : Stack R nc t :=
  (Vector.ofFn blocks).flatten

/-- Changes every block. -/
@[specialize] def mapBlocks (f : Fin nc → Block R t → Block R t) (x : Stack R nc t) :
    Stack R nc t :=
  ofBlocks fun c => f c (x.block c)

/-- The sum of a number for every contact. -/
@[specialize] def sumOver [Scalar R] (f : Fin nc → R) : R :=
  Vec.sum (Vector.ofFn f)

@[simp] theorem block_ofBlocks (blocks : Fin nc → Block R t) (c : Fin nc) :
    (ofBlocks blocks).block c = blocks c := by
  apply Vector.ext
  intro i hi
  have hd : (c.val * (t + 1) + i) / (t + 1) = c.val := by
    rw [Nat.mul_comm, Nat.mul_add_div (Nat.succ_pos t), Nat.div_eq_of_lt hi, Nat.add_zero]
  simp [block, ofBlocks, Vec.slice, Vector.getElem_flatten, hd, Nat.mod_eq_of_lt hi]

/-- Two stacks with the same blocks are the same. -/
theorem ext_blocks {x y : Stack R nc t} (h : ∀ c, x.block c = y.block c) : x = y := by
  apply Vector.ext
  intro i hi
  have hc : i / (t + 1) < nc := Nat.div_lt_of_lt_mul (by rwa [Nat.mul_comm])
  have hk : i % (t + 1) < t + 1 := Nat.mod_lt _ (Nat.succ_pos t)
  have := congrArg (fun b : Block R t => b[i % (t + 1)]) (h ⟨i / (t + 1), hc⟩)
  simpa [block, Vec.slice, Nat.div_add_mod'] using this

@[simp] theorem block_mapBlocks (f : Fin nc → Block R t → Block R t) (x : Stack R nc t)
    (c : Fin nc) : (mapBlocks f x).block c = f c (x.block c) :=
  block_ofBlocks _ c

/-- What is done entry by entry is done block by block. -/
theorem block_zipWith {A B C : Type} (f : A → B → C) (x : Stack A nc t) (y : Stack B nc t)
    (c : Fin nc) :
    block (Vector.zipWith f x y) c = Vector.zipWith f (x.block c) (y.block c) :=
  Vec.ext_get fun i => by simp only [block, Vec.get_slice, Vec.get_zipWith]

end Stack

end Complementarity
