import Complementarity.Scalar

/-!
Vectors and matrices of fixed size.

Sums run from the first entry to the last and start at zero unless stated otherwise, so that they
are one definite sequence of rounded operations at binary64. Inner products and norms, which may be
long, are summed in eight lanes instead (`sumInLanes`). The entries of a product of matrices are
plain sums; a kernel that works in blocks may differ from them in the last bits. Other modules read
entries with `Vector.get` and `Mat.entry`, so that no definition and no statement carries the proof
of a bound.
-/

namespace Complementarity

/-- Vectors with `n` entries. -/
abbrev Vec (R : Type) (n : Nat) := Vector R n

/-- Matrices with `m` rows and `n` columns, stored by rows. -/
abbrev Mat (R : Type) (m n : Nat) := Vector (Vector R n) m

namespace Vec

variable {R : Type} {n : Nat}

/-- The vector of `k` entries that starts at the offset. -/
@[specialize] def slice {k : Nat} (x : Vec R n) (offset : Nat) (fits : offset + k ≤ n) : Vec R k :=
  Vector.ofFn fun i => x[offset + i.val]

/-- The vector with the entries from the offset on replaced by those of a shorter one. -/
@[specialize] def splice {k : Nat} (x : Vec R n) (offset : Nat) (part : Vec R k) : Vec R n :=
  Vector.ofFn fun i =>
    if h : offset ≤ i.val ∧ i.val < offset + k then part[i.val - offset] else x[i]

/-- A vector with one more entry in front. -/
@[specialize] def cons (head : R) (tail : Vec R n) : Vec R (n + 1) :=
  Vector.ofFn fun i => if h : i.val = 0 then head else tail[i.val - 1]

/-- A vector without its first entry. -/
@[specialize] def rest (x : Vec R (n + 1)) : Vec R n :=
  Vector.ofFn fun i => x[i.val + 1]

/-- The vector with another entry at an index. -/
@[inline] def update (x : Vec R n) (i : Fin n) (a : R) : Vec R n :=
  x.set i a

/-- A list as a vector of its length. -/
def ofList (xs : List R) : Vec R xs.length :=
  ⟨xs.toArray, List.size_toArray⟩

/-- A list as a vector of the given size, unless the sizes differ. -/
def ofList? (n : Nat) (xs : List R) : Option (Vec R n) :=
  if h : xs.toArray.size = n then some ⟨xs.toArray, h⟩ else none

variable [Scalar R]

/-- The zero vector. -/
def zero (n : Nat) : Vec R n :=
  Vector.replicate n 0

/-- The entrywise sum. -/
@[specialize] def add (x y : Vec R n) : Vec R n :=
  Vector.zipWith (fun a b => a + b) x y

/-- The entrywise difference. -/
@[specialize] def sub (x y : Vec R n) : Vec R n :=
  Vector.zipWith (fun a b => a - b) x y

/-- Every entry times the factor. -/
@[specialize] def scale (factor : R) (x : Vec R n) : Vec R n :=
  x.map fun a => a * factor

/-- Every entry divided by the divisor. -/
@[specialize] def divide (x : Vec R n) (divisor : R) : Vec R n :=
  x.map fun a => a / divisor

/-- Every entry negated. -/
@[specialize] def neg (x : Vec R n) : Vec R n :=
  x.map fun a => -a

/-- The vector `factor • x + y`. -/
@[specialize] def axpy (factor : R) (x y : Vec R n) : Vec R n :=
  Vector.zipWith (fun a b => factor * a + b) x y

/-- Between the old entries and the new ones, or beyond: `ω • new + (1 - ω) • old`. -/
@[specialize] def relax (omega : R) (new old : Vec R n) : Vec R n :=
  Vector.zipWith (fun a b => omega * a + (1 - omega) * b) new old

/-- The sum of the entries added to a start value. -/
@[specialize] def sumFrom (start : R) (x : Vec R n) : R :=
  x.foldl (fun total a => total + a) start

/-- The sum of the entries. -/
@[specialize] def sum (x : Vec R n) : R :=
  sumFrom 0 x

/-- The sum of one entry of each whole eight, with the given place in it. -/
@[specialize] def laneSum (x : Vec R n) (place : Fin 8) : R :=
  sum (Vector.ofFn fun i : Fin (n / 8) => x[8 * i.val + place.val])

/-- The entries that follow the whole eights. -/
@[specialize] def afterLanes (x : Vec R n) : Vec R (n % 8) :=
  Vector.ofFn fun i => x[8 * (n / 8) + i.val]

/-- The sum of the entries in eight lanes: the lanes are added up on their own and joined two by
two, and the entries that follow the whole eights come last. -/
@[specialize] def sumInLanes (x : Vec R n) : R :=
  let lanes := 0 + (laneSum x 0 + laneSum x 4) + (laneSum x 1 + laneSum x 5) +
    (laneSum x 2 + laneSum x 6) + (laneSum x 3 + laneSum x 7)
  sumFrom lanes (afterLanes x)

/-- The products of the entries, added up from the first to the last. -/
@[specialize] def sumProducts (x y : Vec R n) : R :=
  sum (Vector.zipWith (fun a b => a * b) x y)

/-- The inner product. -/
@[specialize] def dot (x y : Vec R n) : R :=
  sumInLanes (Vector.zipWith (fun a b => a * b) x y)

/-- The square of the Euclidean norm, added up from the first entry to the last. -/
@[specialize] def normSq (x : Vec R n) : R :=
  sum (x.map fun a => a * a)

/-- The Euclidean norm. -/
@[specialize] def norm (x : Vec R n) : R :=
  Scalar.sqrt (sumInLanes (x.map fun a => a * a))

/-- The square of the Euclidean distance. -/
@[specialize] def distSq (x y : Vec R n) : R :=
  sum (Vector.zipWith (fun a b => (a - b) * (a - b)) x y)

/-- The first `k` entries, filled up with zeros. -/
@[specialize] def resize (k : Nat) (x : Vec R n) : Vec R k :=
  Vector.ofFn fun i => if h : i.val < n then x[i.val] else 0

/-! ### Entries -/

section Entries

variable {A B C : Type}

theorem ext_get {x y : Vector A n} (h : ∀ i, x.get i = y.get i) : x = y :=
  Vector.ext fun i hi => h ⟨i, hi⟩

@[simp] theorem get_ofFn (f : Fin n → A) (i : Fin n) : (Vector.ofFn f).get i = f i :=
  Vector.getElem_ofFn i.isLt

@[simp] theorem get_zipWith (f : A → B → C) (x : Vector A n) (y : Vector B n) (i : Fin n) :
    (Vector.zipWith f x y).get i = f (x.get i) (y.get i) :=
  Vector.getElem_zipWith i.isLt

@[simp] theorem get_map (f : A → B) (x : Vector A n) (i : Fin n) :
    (x.map f).get i = f (x.get i) :=
  Vector.getElem_map f i.isLt

@[simp] theorem get_replicate (a : A) (i : Fin n) : (Vector.replicate n a).get i = a :=
  Vector.getElem_replicate i.isLt

@[simp] theorem get_update (x : Vec A n) (i j : Fin n) (a : A) :
    (update x i a).get j = if j = i then a else x.get j := by
  refine (Vector.getElem_set i.isLt j.isLt).trans ?_
  by_cases h : j = i
  · rw [if_pos h, if_pos (congrArg Fin.val h.symm)]
  · rw [if_neg h, if_neg fun heq => h (Fin.ext heq.symm)]
    rfl

theorem toList_eq_ofFn (x : Vector A n) : x.toList = List.ofFn x.get := by
  have heq : Vector.ofFn x.get = x := ext_get fun i => get_ofFn x.get i
  rw [← Vector.toList_ofFn, heq]

@[simp] theorem get_cons_zero (a : A) (x : Vec A n) : (cons a x).get 0 = a :=
  get_ofFn _ _

@[simp] theorem get_cons_succ (a : A) (x : Vec A n) (i : Fin n) :
    (cons a x).get i.succ = x.get i :=
  get_ofFn _ _

@[simp] theorem get_rest (x : Vec A (n + 1)) (i : Fin n) : (rest x).get i = x.get i.succ :=
  get_ofFn _ _

end Entries

@[simp] theorem get_zero (i : Fin n) : (zero n : Vec R n).get i = 0 :=
  get_replicate _ _

@[simp] theorem get_add (x y : Vec R n) (i : Fin n) : (add x y).get i = x.get i + y.get i :=
  get_zipWith _ _ _ _

@[simp] theorem get_sub (x y : Vec R n) (i : Fin n) : (sub x y).get i = x.get i - y.get i :=
  get_zipWith _ _ _ _

@[simp] theorem get_scale (a : R) (x : Vec R n) (i : Fin n) :
    (scale a x).get i = x.get i * a :=
  get_map _ _ _

@[simp] theorem get_divide (x : Vec R n) (a : R) (i : Fin n) :
    (divide x a).get i = x.get i / a :=
  get_map _ _ _

@[simp] theorem get_neg (x : Vec R n) (i : Fin n) : (neg x).get i = -x.get i :=
  get_map _ _ _

@[simp] theorem get_axpy (a : R) (x y : Vec R n) (i : Fin n) :
    (axpy a x y).get i = a * x.get i + y.get i :=
  get_zipWith _ _ _ _

@[simp] theorem get_relax (omega : R) (new old : Vec R n) (i : Fin n) :
    (relax omega new old).get i = omega * new.get i + (1 - omega) * old.get i :=
  get_zipWith _ _ _ _

/-! ### Parts -/

section Parts

variable {A B C : Type} {k offset : Nat}

@[simp] theorem get_slice (x : Vec A n) (fits : offset + k ≤ n) (i : Fin k) :
    (slice x offset fits).get i = x.get ⟨offset + i.val, by omega⟩ :=
  get_ofFn _ _

theorem get_splice (x : Vec A n) (part : Vec A k) (i : Fin n) :
    (splice x offset part).get i =
      if h : offset ≤ i.val ∧ i.val < offset + k then part.get ⟨i.val - offset, by omega⟩
      else x.get i :=
  get_ofFn _ _

/-- Putting a part back changes nothing. -/
@[simp] theorem splice_slice (x : Vec A n) (fits : offset + k ≤ n) :
    splice x offset (slice x offset fits) = x := by
  refine ext_get fun i => ?_
  rw [get_splice]
  by_cases h : offset ≤ i.val ∧ i.val < offset + k
  · rw [dif_pos h, get_slice]
    congr 1
    exact Fin.ext (by simp only; omega)
  · rw [dif_neg h]

/-- The part that was put in. -/
@[simp] theorem slice_splice (x : Vec A n) (part : Vec A k) (fits : offset + k ≤ n) :
    slice (splice x offset part) offset fits = part := by
  refine ext_get fun i => ?_
  rw [get_slice, get_splice, dif_pos ⟨Nat.le_add_right _ _, Nat.add_lt_add_left i.isLt _⟩]
  congr 1
  exact Fin.ext (by simp only; omega)

/-- A part elsewhere stays as it was. -/
theorem slice_splice_of_disjoint {other l : Nat} (x : Vec A n) (part : Vec A k)
    (fits : other + l ≤ n) (hdisjoint : other + l ≤ offset ∨ offset + k ≤ other) :
    slice (splice x offset part) other fits = slice x other fits := by
  refine ext_get fun i => ?_
  rw [get_slice, get_splice, dif_neg (by simp only; omega), get_slice]

end Parts

end Vec

namespace Mat

variable {R : Type} {m n k : Nat}

/-- The matrix with the given entries. -/
@[specialize] def ofFn (entry : Fin m → Fin n → R) : Mat R m n :=
  Vector.ofFn fun i => Vector.ofFn (entry i)

/-- The entry in a row and a column. -/
@[inline] def entry (a : Mat R m n) (i : Fin m) (j : Fin n) : R :=
  a[i][j]

/-- The diagonal entry of a square matrix. -/
@[inline] def diagonal (a : Mat R n n) (i : Fin n) : R :=
  a[i][i]

/-- Rows and columns exchanged. -/
@[specialize] def transpose (a : Mat R m n) : Mat R n m :=
  ofFn fun j i => a[i][j]

/-- The square block of `k` rows and columns that starts at a diagonal entry. -/
@[specialize] def diagonalBlock (a : Mat R n n) (offset : Nat) (fits : offset + k ≤ n) :
    Mat R k k :=
  ofFn fun i j => a[offset + i.val][offset + j.val]

/-- The `k` rows from the offset on. -/
@[specialize] def rows (a : Mat R m n) (offset : Nat) (fits : offset + k ≤ m) : Mat R k n :=
  Vector.ofFn fun i => a[offset + i.val]

@[simp] theorem entry_ofFn (f : Fin m → Fin n → R) (i : Fin m) (j : Fin n) :
    (ofFn f).entry i j = f i j := by
  have hrow : (ofFn f).get i = Vector.ofFn (f i) := Vec.get_ofFn _ i
  change ((ofFn f).get i).get j = f i j
  rw [hrow, Vec.get_ofFn]

theorem entry_rows (a : Mat R m n) {offset : Nat} (fits : offset + k ≤ m) (i : Fin k) (j : Fin n) :
    (rows a offset fits).entry i j = a.entry ⟨offset + i.val, by omega⟩ j := by
  have hrow : (rows a offset fits).get i = a.get ⟨offset + i.val, by omega⟩ := Vec.get_ofFn _ i
  change ((rows a offset fits).get i).get j = _
  rw [hrow]
  rfl

theorem diagonal_eq_entry (a : Mat R n n) (i : Fin n) : a.diagonal i = a.entry i i :=
  rfl

theorem diagonal_diagonalBlock (a : Mat R n n) {offset : Nat} (fits : offset + k ≤ n) (i : Fin k) :
    (diagonalBlock a offset fits).diagonal i = a.diagonal ⟨offset + i.val, by omega⟩ :=
  entry_ofFn _ i i

variable [Scalar R]

/-- The matrix with the given diagonal and zeros elsewhere. -/
@[specialize] def ofDiagonal (x : Vec R n) : Mat R n n :=
  ofFn fun i j => if i = j then x[i] else 0

/-- The unit matrix. -/
@[specialize] def identity (n : Nat) : Mat R n n :=
  ofFn fun i j => if i = j then 1 else 0

/-- The entrywise difference. -/
@[specialize] def sub (a b : Mat R m n) : Mat R m n :=
  Vector.zipWith Vec.sub a b

/-- Matrix times vector. -/
@[specialize] def mulVec (a : Mat R m n) (x : Vec R n) : Vec R m :=
  a.map fun row => Vec.sumProducts row x

/-- Matrix times matrix. -/
@[specialize] def mul (a : Mat R m k) (b : Mat R k n) : Mat R m n :=
  let columns := transpose b
  a.map fun row => columns.map fun column => Vec.sumProducts row column

/-- The vector `alpha • a x + beta • y`; the old vector is not read when `beta` is zero. -/
@[specialize] def gemv (alpha : R) (a : Mat R m n) (x : Vec R n) (beta : R) (y : Vec R m) :
    Vec R m :=
  Vector.zipWith
    (fun row b =>
      Vec.sumFrom (if Scalar.IsZero beta then 0 else beta * b)
        (Vector.zipWith (fun c d => alpha * c * d) row x))
    a y

end Mat

/-- A matrix whose shape is only known when it arrives. -/
structure DenseMatrix (R : Type) where
  rowCount : Nat
  columnCount : Nat
  entries : Mat R rowCount columnCount

namespace DenseMatrix

variable {R : Type} [Scalar R]

/-- A matrix from its rows; missing entries of a row are zero. No rows make the empty matrix. -/
def ofRows (rows : List (List R)) : DenseMatrix R :=
  let width := (rows.head?.map List.length).getD 0
  { rowCount := rows.length
    columnCount := width
    entries := ⟨(rows.map fun row => Vec.resize width (Vec.ofList row)).toArray, by simp⟩ }

/-- A diagonal matrix. -/
def ofDiagonal (diagonal : List R) : DenseMatrix R :=
  { rowCount := diagonal.length
    columnCount := diagonal.length
    entries := Mat.ofDiagonal (Vec.ofList diagonal) }

/-- A matrix of known shape. -/
def ofMat {m n : Nat} (entries : Mat R m n) : DenseMatrix R :=
  ⟨m, n, entries⟩

end DenseMatrix

end Complementarity
