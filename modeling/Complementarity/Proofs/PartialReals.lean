import Complementarity.Proofs.ExactVectors
import Complementarity.Contact.Cone

/-!
Exact numbers that may be undefined.

A division by zero and the root of a negative number have no value here, and neither has what is
computed from them. With these numbers as scalars the definitions run unchanged, so a run that ends
in numbers with a value has used no other divisor than one that is not zero. Sums, norms and the
parts of blocks have the values they have in the reals.
-/

namespace Complementarity

/-- A real number, or none where it is not defined. -/
inductive PartialReal where
  | of (x : ℝ)
  | undefined

namespace PartialReal

/-- The result of an operation on two numbers, if both are defined. -/
def combine (f : ℝ → ℝ → PartialReal) : PartialReal → PartialReal → PartialReal
  | of x, of y => f x y
  | _, _ => undefined

/-- The result of an operation on a number, if it is defined. -/
def change (f : ℝ → PartialReal) : PartialReal → PartialReal
  | of x => f x
  | undefined => undefined

/-- Both numbers are defined, and the relation holds. -/
def Both (p : ℝ → ℝ → Prop) : PartialReal → PartialReal → Prop
  | of x, of y => p x y
  | _, _ => False

/-- The number has a value. -/
def isDefined : PartialReal → Bool
  | of _ => true
  | undefined => false

noncomputable instance (p : ℝ → ℝ → Prop) [DecidableRel p] (x y : PartialReal) :
    Decidable (Both p x y) :=
  match x, y with
  | of x, of y => inferInstanceAs (Decidable (p x y))
  | of _, undefined => inferInstanceAs (Decidable False)
  | undefined, of _ => inferInstanceAs (Decidable False)
  | undefined, undefined => inferInstanceAs (Decidable False)

noncomputable instance : Scalar PartialReal where
  zero := of 0
  one := of 1
  add := combine fun x y => of (x + y)
  sub := combine fun x y => of (x - y)
  mul := combine fun x y => of (x * y)
  div := combine fun x y => if y = 0 then undefined else of (x / y)
  neg := change fun x => of (-x)
  lt := Both (· < ·)
  le := Both (· ≤ ·)
  ofScientific mantissa negative exponent :=
    of (OfScientific.ofScientific mantissa negative exponent)
  sqrt := change fun x => if x < 0 then undefined else of (Real.sqrt x)
  ofNat n := of n
  isFinite := isDefined
  decideLT := inferInstanceAs (DecidableRel (Both (· < ·)))
  decideLE := inferInstanceAs (DecidableRel (Both (· ≤ ·)))

/-! ### Numbers with a value -/

theorem zero_eq : (0 : PartialReal) = of 0 := rfl

theorem one_eq : (1 : PartialReal) = of 1 := rfl

@[simp] theorem of_add (x y : ℝ) : of x + of y = of (x + y) := rfl

@[simp] theorem of_mul (x y : ℝ) : of x * of y = of (x * y) := rfl

@[simp] theorem of_neg (x : ℝ) : -of x = of (-x) := rfl

@[simp] theorem of_lt (x y : ℝ) : of x < of y ↔ x < y := Iff.rfl

@[simp] theorem of_le (x y : ℝ) : of x ≤ of y ↔ x ≤ y := Iff.rfl

theorem of_div {x y : ℝ} (hy : y ≠ 0) : of x / of y = of (x / y) :=
  if_neg hy

theorem of_div_zero (x : ℝ) : of x / of 0 = undefined :=
  if_pos rfl

theorem mul_undefined (x : PartialReal) : x * undefined = undefined := by
  cases x <;> rfl

theorem sqrt_of {x : ℝ} (hx : 0 ≤ x) : Scalar.sqrt (of x) = of (Real.sqrt x) :=
  if_neg hx.not_gt

theorem greater_of (x y : ℝ) : Scalar.greater (of x) (of y) = of (Scalar.greater x y) := by
  unfold Scalar.greater
  simp only [of_lt, of_le]
  split <;> rfl

end PartialReal

/-! ### Vectors with values -/

namespace Vec

variable {n : Nat}

/-- A vector of exact numbers as one of numbers that have a value. -/
def defined (x : Vec ℝ n) : Vec PartialReal n :=
  x.map PartialReal.of

@[simp] theorem get_defined (x : Vec ℝ n) (i : Fin n) : x.defined.get i = .of (x.get i) :=
  get_map _ _ _

theorem sum_defined (x : Vec ℝ n) : sum x.defined = .of (sum x) := by
  have hfold (entries : List ℝ) (start : ℝ) :
      (entries.map PartialReal.of).foldl (fun total a => total + a) (.of start) =
        .of (entries.foldl (fun total a => total + a) start) := by
    induction entries generalizing start with
    | nil => rfl
    | cons a entries ih => exact ih (start + a)
  rw [sum, sumFrom, ← Vector.foldl_toList, defined, Vector.toList_map, PartialReal.zero_eq, hfold,
    Vector.foldl_toList, sum, sumFrom]

theorem normSq_defined (x : Vec ℝ n) : normSq x.defined = .of (normSq x) := by
  have hsquares : x.defined.map (fun a => a * a) = defined (x.map fun a => a * a) :=
    ext_get fun i => by rw [get_map, get_defined, get_defined, get_map, PartialReal.of_mul]
  rw [normSq, hsquares, sum_defined, normSq]

theorem sqrt_normSq_defined (x : Vec ℝ n) :
    Scalar.sqrt (normSq x.defined) = .of (Scalar.sqrt (normSq x)) := by
  have hsquare : 0 ≤ normSq x := by
    rw [normSq_eq]
    exact sq_nonneg _
  rw [normSq_defined, PartialReal.sqrt_of hsquare, Scalar.sqrt_eq]

theorem scale_defined (factor : ℝ) (x : Vec ℝ n) :
    scale (.of factor) x.defined = (scale factor x).defined :=
  ext_get fun i => by
    rw [get_scale, get_defined, get_defined, get_scale, PartialReal.of_mul]

theorem zero_defined : (zero n : Vec PartialReal n) = (zero n).defined :=
  ext_get fun i => by rw [get_zero, get_defined, get_zero, PartialReal.zero_eq]

end Vec

namespace Block

variable {t : Nat}

theorem normal_defined (r : Block ℝ t) : Block.normal r.defined = .of r.normal :=
  Vec.get_defined r 0

theorem tangent_defined (r : Block ℝ t) : Block.tangent r.defined = r.tangent.defined :=
  Vec.ext_get fun i => by
    rw [tangent, Vec.get_rest, Vec.get_defined, Vec.get_defined, tangent, Vec.get_rest]

theorem tangentNorm_defined (r : Block ℝ t) : Block.tangentNorm r.defined = .of r.tangentNorm := by
  rw [tangentNorm, tangent_defined, Vec.sqrt_normSq_defined, tangentNorm]

theorem ofParts_defined (a : ℝ) (x : Vec ℝ t) :
    ofParts (.of a) x.defined = Vec.defined (ofParts a x) :=
  ext_parts (by rw [normal_ofParts, normal_defined, normal_ofParts])
    (by rw [tangent_ofParts, tangent_defined, tangent_ofParts])

end Block

end Complementarity
