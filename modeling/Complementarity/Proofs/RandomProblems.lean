import Mathlib
import Complementarity.Problem.Random
import Complementarity.Proofs.CholeskyExact
import Complementarity.Proofs.DegenerateRuns

/-!
Random problems, in exact arithmetic.

The matrix of a random problem is `G Gᵀ / n + I`, so it is symmetric and dominates the unit matrix,
whatever numbers have been drawn. If the numbers keep to their ranges, nothing is wrong with the
data either, and the problems are always there (`random_problems_well_posed`). Their diagonal entries
are at least one, far above those at which a method gives up.
-/

namespace Complementarity

theorem Scalar.diagonalThreshold_lt_one : (diagonalThreshold : ℝ) < 1 := by
  norm_num [diagonalThreshold]

/-! ### Matrices -/

namespace Mat

variable {n : Nat} {a : Mat ℝ n n}

/-- Symmetric, and with values no smaller than those of the unit matrix. -/
structure DominatesUnit (a : Mat ℝ n n) : Prop where
  symmetric (i j : Fin n) : a.entry i j = a.entry j i
  normSq_le (x : Vec ℝ n) : Vec.normSq x ≤ Vec.dot x (mulVec a x)

theorem dot_mulVec_eq (a : Mat ℝ n n) (x : Vec ℝ n) :
    Vec.dot x (mulVec a x) = x.get ⬝ᵥ a.toMatrix.mulVec x.get := by
  rw [Vec.dot_eq_sum]
  exact Finset.sum_congr rfl fun i _ => by rw [get_mulVec_eq]

theorem normSq_eq_dotProduct (x : Vec ℝ n) : Vec.normSq x = x.get ⬝ᵥ x.get := by
  rw [Vec.normSq, Vec.sum_eq]
  exact Finset.sum_congr rfl fun i _ => Vec.get_map _ _ _

/-- The value at a unit vector is a diagonal entry. -/
theorem DominatesUnit.one_le_diagonal (h : a.DominatesUnit) (i : Fin n) : 1 ≤ a.diagonal i := by
  have hunit : (Vector.ofFn (Pi.single i 1) : Vec ℝ n).get = Pi.single i 1 :=
    funext fun j => Vec.get_ofFn _ j
  have hle := h.normSq_le (Vector.ofFn (Pi.single i 1))
  rw [dot_mulVec_eq, normSq_eq_dotProduct, hunit, Matrix.mulVec_single_one,
    single_one_dotProduct, single_one_dotProduct, Pi.single_eq_same] at hle
  exact hle

/-- It does not depend on how the size is written. -/
theorem DominatesUnit.of_ofMat_eq {m : Nat} {b : Mat ℝ m m} (h : a.DominatesUnit)
    (heq : DenseMatrix.ofMat b = .ofMat a) : b.DominatesUnit := by
  obtain ⟨rfl, -, hentries⟩ := DenseMatrix.mk.inj heq
  obtain rfl := eq_of_heq hentries
  exact h

end Mat

/-- The numbers that a random matrix is made from. -/
def sampleMatrix (sample : Sampler ℝ) (n : Nat) : Matrix (Fin n) (Fin n) ℝ :=
  Matrix.of fun i j => sample (j.val * n + i.val) (-1) 1

theorem toMatrix_randomMatrix (sample : Sampler ℝ) (n : Nat) :
    (randomMatrix sample n).toMatrix =
      (n : ℝ)⁻¹ • (sampleMatrix sample n * (sampleMatrix sample n).transpose) + 1 := by
  ext i j
  have hproduct (g : Mat ℝ n n) :
      (Mat.mul g (Mat.transpose g)).entry i j = (g.toMatrix * g.toMatrix.transpose) i j := by
    rw [Mat.entry_mul, Matrix.mul_apply]
    refine Finset.sum_congr rfl fun l _ => ?_
    rw [Mat.transpose, Mat.entry_ofFn]
    rfl
  have hsamples : (Mat.ofFn fun i j => sample (j.val * n + i.val) (-1) 1 : Mat ℝ n n).toMatrix =
      sampleMatrix sample n :=
    Matrix.ext fun i j => Mat.entry_ofFn _ i j
  rw [Mat.toMatrix_apply, randomMatrix, Mat.entry_ofFn]
  dsimp only
  rw [hproduct, hsamples, Matrix.add_apply, Matrix.smul_apply, Matrix.one_apply, smul_eq_mul,
    inv_mul_eq_div]
  change (if i = j then _ / (n : ℝ) + 1 else _ / (n : ℝ)) = _
  split
  · rfl
  · exact (add_zero _).symm

/-- The value of a random matrix at a vector is a sum of squares beyond that of the unit matrix. -/
theorem dot_randomMatrix (sample : Sampler ℝ) (n : Nat) (x : Vec ℝ n) :
    Vec.dot x (Mat.mulVec (randomMatrix sample n) x) =
      (n : ℝ)⁻¹ * ((sampleMatrix sample n).transpose.mulVec x.get ⬝ᵥ
        (sampleMatrix sample n).transpose.mulVec x.get) + Vec.normSq x := by
  rw [Mat.dot_mulVec_eq, toMatrix_randomMatrix, Matrix.add_mulVec, Matrix.smul_mulVec,
    Matrix.one_mulVec, dotProduct_add, dotProduct_smul, smul_eq_mul, Mat.normSq_eq_dotProduct,
    ← Matrix.mulVec_mulVec, Matrix.dotProduct_mulVec, Matrix.mulVec_transpose]

theorem randomMatrix_dominatesUnit (sample : Sampler ℝ) (n : Nat) :
    (randomMatrix sample n).DominatesUnit where
  symmetric i j := by
    rw [← Mat.toMatrix_apply, ← Mat.toMatrix_apply, toMatrix_randomMatrix]
    have hsymmetric : ((n : ℝ)⁻¹ •
        (sampleMatrix sample n * (sampleMatrix sample n).transpose) + 1).IsSymm :=
      ((Matrix.isSymm_mul_transpose_self _).smul _).add Matrix.isSymm_one
    exact hsymmetric.apply j i
  normSq_le x := by
    rw [dot_randomMatrix]
    have hsquares : 0 ≤ (sampleMatrix sample n).transpose.mulVec x.get ⬝ᵥ
        (sampleMatrix sample n).transpose.mulVec x.get :=
      Finset.sum_nonneg fun i _ => mul_self_nonneg _
    have hscaled := mul_nonneg (inv_nonneg.mpr n.cast_nonneg) hsquares
    linarith only [hscaled]

/-! ### Problems with given data -/

section Data

variable {R : Type} {n : Nat}

theorem Vec.exists_ofList?_eq {xs : List R} (hlength : xs.length = n) :
    ∃ x : Vec R n, ofList? n xs = some x ∧ x.toList = xs :=
  ⟨⟨xs.toArray, List.size_toArray.trans hlength⟩, dif_pos _, rfl⟩

theorem DenseMatrix.exists_square_eq [Scalar R] {m : Nat} (a : Mat R n n) (hsize : n = m) :
    ∃ entries : Mat R m m, (ofMat a).square m = .ok entries ∧ ofMat entries = ofMat a := by
  subst hsize
  exact ⟨a, (dif_pos (rfl : n = n)).trans (dif_pos (rfl : n = n)), rfl⟩

theorem Vec.get_mem_toList (x : Vec R n) (i : Fin n) : x.get i ∈ x.toList := by
  rw [toList_eq_ofFn]
  exact List.mem_ofFn.mpr ⟨i, rfl⟩

theorem Vec.get_of_toList_eq {x : Vec R n} {count : Nat} {f : Nat → R}
    (h : x.toList = (List.range count).map f) (i : Fin n) : x.get i = f i.val := by
  have hsome : (List.ofFn x.get)[i.val]? = some (x.get i) := by
    rw [List.getElem?_ofFn, dif_pos i.isLt]
  rw [← toList_eq_ofFn, h, List.getElem?_map] at hsome
  obtain ⟨k, hk, hfk⟩ := Option.map_eq_some_iff.mp hsome
  obtain ⟨hlt, rfl⟩ := List.getElem?_eq_some_iff.mp hk
  rw [← hfk, List.getElem_range hlt]

/-- The normal component of a block is the first entry that belongs to it. -/
theorem Stack.normal_block {nc t : Nat} (x : Stack R nc t) (c : Fin nc) :
    (x.block c).normal = x.get ⟨c.val * (t + 1), by have := Stack.block_fits (t := t) c; omega⟩ :=
  Vec.get_slice x (Stack.block_fits c) 0

variable [Scalar R] {a : Mat R n n} {offset : List R}

/-- The problem has these data. -/
structure FrictionProblem.HasData (problem : FrictionProblem R) (a : Mat R n n)
    (offset friction : List R) : Prop where
  contacts_eq : problem.contacts = friction.length
  tangents_eq : problem.tangents = 2
  matrix_eq : DenseMatrix.ofMat problem.matrix = .ofMat a
  offset_eq : problem.offset.toList = offset
  friction_eq : problem.friction.toList = friction

theorem FrictionProblem.exists_ofData_eq {friction : List R}
    (hsize : n = 3 * friction.length) (hoffset : offset.length = n)
    (hfriction : ∀ mu ∈ friction, 0 ≤ mu) :
    ∃ problem, ofData 3 (.ofMat a) offset friction = .ok problem ∧
      problem.HasData a offset friction := by
  have hcontacts : offset.length / 3 = friction.length := by omega
  have hrows : n = offset.length / 3 * (3 - 1 + 1) := by omega
  have hbad : badFriction? friction = none := by
    rw [badFriction?, List.find?_eq_none]
    exact fun mu hmem => by simpa using hfriction mu hmem
  obtain ⟨coefficients, hcoefficients, hlist⟩ := Vec.exists_ofList?_eq hcontacts.symm
  obtain ⟨entries, hentries, hmatrix⟩ := DenseMatrix.exists_square_eq a hrows
  unfold ofData
  rw [dif_pos (.inr rfl), dif_pos (by omega)]
  dsimp only
  rw [hentries]
  dsimp only
  split
  · rename_i hnone
    rw [hcoefficients] at hnone
    cases hnone
  · rename_i found hfound
    obtain rfl := Option.some.inj (hcoefficients.symm.trans hfound)
    split
    · rename_i value hvalue
      rw [hbad] at hvalue
      cases hvalue
    · exact ⟨_, rfl, hcontacts, rfl, hmatrix, rfl, hlist⟩

/-- The problem has these data. -/
structure RelayProblem.HasData (problem : RelayProblem R) (a : Mat R n n)
    (offset upper lower : List R) : Prop where
  size_eq : problem.size = n
  matrix_eq : DenseMatrix.ofMat problem.matrix = .ofMat a
  offset_eq : problem.offset.toList = offset
  upper_eq : problem.upper.toList = upper
  lower_eq : problem.lower.toList = lower

theorem RelayProblem.exists_ofData_eq {upper lower : List R} (hoffset : offset.length = n)
    (hupper : upper.length = n) (hlower : lower.length = n)
    (hroom : ∀ l ∈ lower, ∀ u ∈ upper, -l ≤ u) :
    ∃ problem, ofData (.ofMat a) offset upper lower = .ok problem ∧
      problem.HasData a offset upper lower := by
  subst hoffset
  obtain ⟨above, habove, hupperList⟩ := Vec.exists_ofList?_eq hupper
  obtain ⟨below, hbelow, hlowerList⟩ := Vec.exists_ofList?_eq hlower
  have hindex : emptyIndex? above below = none := by
    rw [emptyIndex?, List.find?_eq_none]
    intro i _
    have hle : -below.get i ≤ above.get i :=
      hroom _ (hlowerList ▸ Vec.get_mem_toList below i) _ (hupperList ▸ Vec.get_mem_toList above i)
    simpa using hle
  obtain ⟨entries, hentries, hmatrix⟩ := DenseMatrix.exists_square_eq a rfl
  unfold ofData
  dsimp only
  rw [hentries, habove, hbelow]
  dsimp only
  split
  · rename_i i hi
    rw [hindex] at hi
    cases hi
  · exact ⟨_, rfl, rfl, hmatrix, rfl, hupperList, hlowerList⟩

end Data

/-! ### Problems that dominate the unit matrix -/

namespace FrictionProblem

variable {problem : FrictionProblem ℝ}

theorem not_isFlatAt_of_dominatesUnit (h : problem.matrix.DominatesUnit)
    (solver : ContactSolver ℝ) (c : Fin problem.contacts) : ¬problem.IsFlatAt solver c := by
  rintro ⟨-, i, hi, -, hle⟩
  exact absurd ((h.one_le_diagonal _).trans hle) Scalar.diagonalThreshold_lt_one.not_ge

/-- Sweeps over a problem that dominates the unit matrix do not give up. -/
theorem gaussSeidel_status_of_dominatesUnit (h : problem.matrix.DominatesUnit)
    {solver : ContactSolver ℝ} (hstock : solver.IsStock) {params : SweepParams ℝ}
    {thresholds? : Option (List ℝ)} {start : Candidate ℝ problem.size} {run : Run ℝ problem.size}
    (hrun : (problem.gaussSeidel params solver thresholds? start).value = .ok run) :
    run.status ≠ .degenerateInput := by
  intro hstatus
  obtain ⟨-, c, hup⟩ := gaussSeidel_givesUpAt hstock hrun hstatus
  exact not_isFlatAt_of_dominatesUnit h solver c hup.flat

/-- A contact that is pressed does not open on its own. -/
theorem trivialSolution_of_pressed {c : Fin problem.contacts}
    (hpressed : (problem.offset.block c).normal < -Scalar.epsilon)
    (candidate : Candidate ℝ problem.size) :
    Problem.trivialSolution problem candidate = (false, candidate) :=
  if_neg fun hopen => absurd (hopen c) (not_le.mpr hpressed)

end FrictionProblem

namespace RelayProblem

variable {problem : RelayProblem ℝ}

theorem not_isFlat_of_dominatesUnit (h : problem.matrix.DominatesUnit) : ¬problem.IsFlat := by
  rintro ⟨i, hle⟩
  exact absurd ((h.one_le_diagonal i).trans hle) Scalar.diagonalThreshold_lt_one.not_ge

theorem not_vanishing_of_dominatesUnit (h : problem.matrix.DominatesUnit) {scale : ℝ}
    (hscale : Scalar.diagonalThreshold < scale) : ¬problem.HasVanishingDirection scale := by
  rintro ⟨i, hle⟩
  rw [Scalar.abs_eq] at hle
  have hpos : 0 < scale := Scalar.diagonalThreshold_pos.trans hscale
  have hge : scale ≤ scale * problem.matrix.diagonal i :=
    le_mul_of_one_le_right hpos.le (h.one_le_diagonal i)
  exact absurd (hge.trans ((le_abs_self _).trans hle)) hscale.not_ge

end RelayProblem

/-! ### Random problems -/

/-- Every number lies in the range that it has been drawn from. -/
def Sampler.InRange (sample : Sampler ℝ) : Prop :=
  ∀ k lo hi, lo ≤ hi → lo ≤ sample k lo hi ∧ sample k lo hi ≤ hi

namespace Sampler

/-- The place in a range that 52 bits of a word stand for, from its lower to its upper bound. -/
noncomputable def place (word : UInt64) : ℝ :=
  (word >>> 12).toNat / (2 ^ 52 - 1 : ℕ)

theorem place_mem (word : UInt64) : 0 ≤ place word ∧ place word ≤ 1 := by
  have hbits : (word >>> 12).toNat ≤ 2 ^ 52 - 1 := by
    have hlt : word.toNat < 2 ^ 64 := word.toNat_lt
    rw [UInt64.toNat_shiftRight, show (12 : UInt64).toNat % 64 = 12 from rfl,
      Nat.shiftRight_eq_div_pow]
    omega
  have hcast : ((word >>> 12).toNat : ℝ) ≤ (2 ^ 52 - 1 : ℕ) := Nat.cast_le.mpr hbits
  exact ⟨div_nonneg (Nat.cast_nonneg _) (Nat.cast_nonneg _),
    div_le_one_of_le₀ hcast (Nat.cast_nonneg _)⟩

/-- The samples that belong to a seed, as they would be without rounding. -/
noncomputable def exactOfSeed (seed : UInt64) : Sampler ℝ := fun k lo hi =>
  place (Keystream.doubleWord (Keystream.keyOf seed) k) * (hi - lo) + lo

theorem exactOfSeed_inRange (seed : UInt64) : (exactOfSeed seed).InRange := by
  intro k lo hi hle
  obtain ⟨hnonneg, hone⟩ := place_mem (Keystream.doubleWord (Keystream.keyOf seed) k)
  have hwidth : 0 ≤ hi - lo := sub_nonneg.mpr hle
  have hbelow := mul_nonneg hnonneg hwidth
  have habove := mul_le_of_le_one_left hwidth hone
  rw [exactOfSeed]
  exact ⟨by linarith only [hbelow], by linarith only [habove]⟩

end Sampler

theorem mem_samplesFrom {sample : Sampler ℝ} (hsample : sample.InRange) {first count : Nat}
    {lo hi x : ℝ} (hrange : lo ≤ hi) (hmem : x ∈ samplesFrom sample first count lo hi) :
    lo ≤ x ∧ x ≤ hi := by
  obtain ⟨i, -, rfl⟩ := List.mem_map.mp hmem
  exact hsample _ lo hi hrange

/-- What is promised of a random contact problem: all its contacts are pressed, so that the zero
reaction is no solution, and sweeps do not give up. -/
structure FrictionProblem.WellPosed (problem : FrictionProblem ℝ) : Prop where
  spatial : problem.tangents = 2
  dominatesUnit : problem.matrix.DominatesUnit
  nontrivial : 0 < problem.contacts → ∀ candidate : Candidate ℝ problem.size,
    Problem.trivialSolution problem candidate = (false, candidate)
  gaussSeidel (params : SweepParams ℝ) (solver : ContactSolver ℝ) (thresholds? : Option (List ℝ))
      (start : Candidate ℝ problem.size) :
    solver.IsStock → Yields (problem.gaussSeidel params solver thresholds? start).value
      (problem.IsSweepable thresholds?) fun run => run.status ≠ .degenerateInput

/-- What is promised of a random relay problem: its box has an interior, and the methods do not give
up. -/
structure RelayProblem.WellPosed (problem : RelayProblem ℝ) : Prop where
  dominatesUnit : problem.matrix.DominatesUnit
  roomy (i : Fin problem.size) : -problem.lower.get i < problem.upper.get i
  gaussSeidel (params : RelaySweepParams ℝ) :
    (problem.gaussSeidel params).value.status ≠ .degenerateInput
  latin (params : LatinParams ℝ) : Scalar.diagonalThreshold < params.scale →
    (problem.latin params).value.status ≠ .degenerateInput

theorem FrictionProblem.wellPosed_of_pressed {problem : FrictionProblem ℝ}
    (hspatial : problem.tangents = 2) (hunit : problem.matrix.DominatesUnit)
    (hpressed : ∀ c, (problem.offset.block c).normal < -Scalar.epsilon) : problem.WellPosed where
  spatial := hspatial
  dominatesUnit := hunit
  nontrivial hpos candidate := trivialSolution_of_pressed (hpressed ⟨0, hpos⟩) candidate
  gaussSeidel params solver _ start hstock :=
    ⟨fun hdomain => hdomain.exists_gaussSeidel_eq_ok params solver start,
      fun _ hrun => gaussSeidel_status_of_dominatesUnit hunit hstock hrun⟩

theorem RelayProblem.wellPosed_of_roomy {problem : RelayProblem ℝ}
    (hunit : problem.matrix.DominatesUnit)
    (hroomy : ∀ i, -problem.lower.get i < problem.upper.get i) : problem.WellPosed where
  dominatesUnit := hunit
  roomy := hroomy
  gaussSeidel params hstatus :=
    not_isFlat_of_dominatesUnit hunit ((gaussSeidel_degenerate_iff params).mp hstatus)
  latin params hscale hstatus :=
    not_vanishing_of_dominatesUnit hunit hscale ((latin_degenerate_iff params).mp hstatus)

section Random

variable {sample : Sampler ℝ} (hsample : sample.InRange)

include hsample

theorem FrictionProblem.exists_random_eq (contacts : Nat) {friction : ℝ}
    (hfriction : 0 ≤ friction) :
    ∃ problem, FrictionProblem.random sample contacts friction = .ok problem ∧
      problem.contacts = contacts ∧ problem.WellPosed := by
  have hsize : 3 * contacts = 3 * (List.replicate contacts friction).length := by
    rw [List.length_replicate]
  have hlength : ((List.range (3 * contacts)).map fun i =>
      sample (3 * contacts * (3 * contacts) + i) (-1)
        (if i % 3 = 0 then -0.1 else 1)).length = 3 * contacts := by
    rw [List.length_map, List.length_range]
  obtain ⟨problem, heq, hdata⟩ := exists_ofData_eq (a := randomMatrix sample (3 * contacts)) hsize
    hlength fun mu hmem => (List.eq_of_mem_replicate hmem).symm ▸ hfriction
  refine ⟨problem, heq, hdata.contacts_eq.trans List.length_replicate,
    wellPosed_of_pressed hdata.tangents_eq
      ((randomMatrix_dominatesUnit sample _).of_ofMat_eq hdata.matrix_eq) fun c => ?_⟩
  have hnormal : c.val * (problem.tangents + 1) % 3 = 0 := by
    rw [hdata.tangents_eq]
    exact Nat.mul_mod_left _ 3
  rw [Stack.normal_block, Vec.get_of_toList_eq hdata.offset_eq, if_pos hnormal]
  have hle := (hsample (3 * contacts * (3 * contacts) + c.val * (problem.tangents + 1)) (-1) (-0.1)
    (by norm_num)).2
  refine hle.trans_lt ?_
  norm_num [Scalar.epsilon]

theorem RelayProblem.exists_random_eq (n : Nat) :
    ∃ problem, RelayProblem.random sample n = .ok problem ∧ problem.size = n ∧
      problem.WellPosed := by
  have hlength (first : Nat) (lo hi : ℝ) : (samplesFrom sample first n lo hi).length = n := by
    rw [samplesFrom, List.length_map, List.length_range]
  -- both bounds are at least one half
  have hroom : ∀ l ∈ samplesFrom sample (n * n + 2 * n) n 0.5 1.5,
      ∀ u ∈ samplesFrom sample (n * n + n) n 0.5 1.5, -l < u := by
    intro l hl u hu
    have hlower := (mem_samplesFrom hsample (by norm_num) hl).1
    have hupper := (mem_samplesFrom hsample (by norm_num) hu).1
    norm_num at hlower hupper
    linarith only [hlower, hupper]
  obtain ⟨problem, heq, hdata⟩ := exists_ofData_eq
    (a := randomMatrix sample n) (hlength (n * n) (-2.0) 2.0) (hlength _ _ _) (hlength _ _ _)
    fun l hl u hu => (hroom l hl u hu).le
  refine ⟨problem, heq, hdata.size_eq, wellPosed_of_roomy
    ((randomMatrix_dominatesUnit sample n).of_ofMat_eq hdata.matrix_eq) fun i => ?_⟩
  exact hroom _ (hdata.lower_eq ▸ Vec.get_mem_toList problem.lower i) _
    (hdata.upper_eq ▸ Vec.get_mem_toList problem.upper i)

end Random

/-- Random problems are well posed, whatever their size and the numbers drawn for them. -/
theorem random_problems_well_posed {sample : Sampler ℝ} (hsample : sample.InRange) :
    (∀ (contacts : Nat) (friction : ℝ), 0 ≤ friction →
      ∃ problem, FrictionProblem.random sample contacts friction = .ok problem ∧
        problem.contacts = contacts ∧ problem.WellPosed) ∧
    ∀ n : Nat, ∃ problem, RelayProblem.random sample n = .ok problem ∧ problem.size = n ∧
      problem.WellPosed :=
  ⟨fun contacts _ => FrictionProblem.exists_random_eq hsample contacts,
    RelayProblem.exists_random_eq hsample⟩

/-- Two contacts and three relays, from the numbers of a seed. -/
theorem exactOfSeed_well_posed :
    (Sampler.exactOfSeed 7).InRange ∧
    (∃ problem, FrictionProblem.random (Sampler.exactOfSeed 7) 2 0.5 = .ok problem ∧
      problem.contacts = 2 ∧
      Problem.trivialSolution problem (Candidate.zero problem.size) =
        (false, Candidate.zero problem.size) ∧
      ∃ run, (problem.gaussSeidel ⟨10, 1e-2, 1, .light, 0⟩ (.coneProjection 1e-2) none
          (Candidate.zero problem.size)).value = .ok run ∧ run.status ≠ .degenerateInput) ∧
    ∃ problem, RelayProblem.random (Sampler.exactOfSeed 7) 3 = .ok problem ∧ problem.size = 3 ∧
      (problem.latin ⟨10, 1e-2, 1, 0⟩).value.status ≠ .degenerateInput := by
  have hsample := Sampler.exactOfSeed_inRange 7
  obtain ⟨hfriction, hrelay⟩ := random_problems_well_posed hsample
  obtain ⟨contacts, hcontacts, hcount, hposed⟩ := hfriction 2 0.5 (by norm_num)
  obtain ⟨relay, hrandom, hsize, hwell⟩ := hrelay 3
  have hsweeps := hposed.gaussSeidel ⟨10, 1e-2, 1, .light, 0⟩ (.coneProjection 1e-2) none
    (Candidate.zero _) (.coneProjection _)
  obtain ⟨run, hrun⟩ := hsweeps.exists_eq_ok (FrictionProblem.isSweepable_none hposed.spatial)
  refine ⟨hsample, ⟨contacts, hcontacts, hcount, hposed.nontrivial (hcount ▸ Nat.zero_lt_two) _,
    run, hrun, hsweeps.good_of_eq_ok run hrun⟩, relay, hrandom, hsize, ?_⟩
  exact hwell.latin ⟨10, 1e-2, 1, 0⟩ Scalar.diagonalThreshold_lt_one

end Complementarity
