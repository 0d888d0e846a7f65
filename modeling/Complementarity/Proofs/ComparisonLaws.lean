import Mathlib.Data.Prod.Lex
import Complementarity.Proofs.ExitContract

/-!
Comparisons among numbers that may be undefined.

The loops compare errors with tolerances and do nothing else with the result, so what can be said of
two runs with different tolerances rests on a few laws of `≤` and `<`. They are collected in
`Scalar.ComparesInOrder`. Binary64 satisfies them: every number that is not NaN has a rank in a linear
order, and its comparisons are those of the ranks (`compare_eq_rank`).
-/

namespace Complementarity

/-- Laws of comparisons that hold although some numbers are undefined: only defined numbers compare,
and those that do are in order. -/
structure Scalar.ComparesInOrder (R : Type) [Scalar R] : Prop extends Scalar.ComparesDefined R where
  defined_of_le : ∀ x y : R, x ≤ y → x ≤ x ∧ y ≤ y
  le_trans : ∀ x y z : R, x ≤ y → y ≤ z → x ≤ z
  lt_of_le_of_lt : ∀ x y z : R, x ≤ y → y < z → x < z
  not_lt_of_le : ∀ x y : R, x ≤ y → ¬y < x
  lt_asymm : ∀ x y : R, x < y → ¬y < x
  belowTop_of_le : ∀ x y : R, x ≤ y → Scalar.BelowTop y → Scalar.BelowTop x

namespace Residual

variable {R : Type} [Scalar R] {tolerance loose tight : R} {e : Residual R}

/-- An error within the tolerance does not exceed it. -/
theorem not_exceeds_of_atMost (hR : Scalar.ComparesInOrder R) (h : e.AtMost tolerance) :
    ¬e.Exceeds tolerance := by
  cases e with
  | unmeasured =>
    rintro (hfinite | hneg)
    · rw [h.1] at hfinite
      cases hfinite
    · exact hR.lt_asymm _ _ h.2 hneg
  | measured error => exact hR.not_lt_of_le _ _ h

/-- An error that exceeds a tolerance exceeds every smaller one. -/
theorem exceeds_of_le (hR : Scalar.ComparesInOrder R) (hle : tight ≤ loose) (h : e.Exceeds loose) :
    e.Exceeds tight := by
  cases e with
  | unmeasured => exact hR.belowTop_of_le _ _ hle h
  | measured error => exact hR.lt_of_le_of_lt _ _ _ hle h

end Residual

namespace Binary64

/-! ### Binary64 -/

open Float.Model (UnpackedFloat)

/-- The rank of a binary64 number among all others: first comes the kind of number, then the exponent,
then the mantissa. Both zeros have the same rank, and NaN has none. -/
def rank? : UnpackedFloat → Option (ℤ ×ₗ ℤ ×ₗ ℤ)
  | .notANumber => none
  | .infinity .negative => some (toLex (-2, toLex (0, 0)))
  | .finite .negative mantissa exponent _ => some (toLex (-1, toLex (-exponent, -mantissa)))
  | .zero _ => some (toLex (0, toLex (0, 0)))
  | .finite .positive mantissa exponent _ => some (toLex (1, toLex (exponent, mantissa)))
  | .infinity .positive => some (toLex (2, toLex (0, 0)))

theorem compare_neg_neg (a b : ℤ) : compare (-a) (-b) = (compare a b).swap := by
  rw [Int.compare_swap]
  simp only [compare, compareOfLessAndEq, Int.neg_lt_neg_iff, Int.neg_inj, eq_comm]

theorem compare_natCast (a b : ℕ) : compare (a : ℤ) (b : ℤ) = compare a b := by
  simp only [compare, compareOfLessAndEq, Int.ofNat_lt, Int.ofNat_inj]

/-- Comparing binary64 numbers is comparing their ranks. -/
theorem compare_eq_rank (x y : UnpackedFloat) :
    x.compare y = (rank? x).bind fun a => (rank? y).map fun b => compare a b := by
  rcases x with (_ | _) | _ | _ | ⟨_ | _, m, e, _⟩ <;>
    rcases y with (_ | _) | _ | _ | ⟨_ | _, m', e', _⟩
  -- two finite numbers of one sign; the kind alone decides all other cases
  case finite.negative.finite.negative =>
    change some ((compare e e').then (compare m m')).swap =
      some ((compare (-e) (-e')).then (compare (-(m : ℤ)) (-m')))
    rw [compare_neg_neg, compare_neg_neg, compare_natCast, Ordering.swap_then]
  case finite.positive.finite.positive =>
    change some ((compare e e').then (compare m m')) =
      some ((compare e e').then (compare (m : ℤ) m'))
    rw [compare_natCast]
  all_goals rfl

/-- The rank of a number at run time. -/
def rankOf? (x : Float) : Option (ℤ ×ₗ ℤ ×ₗ ℤ) :=
  rank? x.toModel.unpack

variable {x y : Float}

theorem compare_unpack (x y : Float) : x.toModel.unpack.compare y.toModel.unpack =
    (rankOf? x).bind fun a => (rankOf? y).map fun b => compare a b :=
  compare_eq_rank _ _

theorem lt_iff_rankOf : x < y ↔ ∃ a b, rankOf? x = some a ∧ rankOf? y = some b ∧ a < b := by
  have hlt : x < y ↔ (x.toModel.unpack.compare y.toModel.unpack == some .lt) = true :=
    decide_eq_true_iff
  rw [hlt, compare_unpack]
  cases hx : rankOf? x with
  | none => simp
  | some a =>
    cases hy : rankOf? y with
    | none => simp
    | some b => simpa using compare_lt_iff_lt

theorem le_iff_rankOf : x ≤ y ↔ ∃ a b, rankOf? x = some a ∧ rankOf? y = some b ∧ a ≤ b := by
  have hle : x ≤ y ↔ (x.toModel.unpack.compare y.toModel.unpack).any (·.isLE) = true :=
    decide_eq_true_iff
  rw [hle, compare_unpack]
  cases hx : rankOf? x with
  | none => simp
  | some a =>
    cases hy : rankOf? y with
    | none => simp
    | some b => simpa [Ordering.isLE_iff_ne_gt] using compare_le_iff_le

/-- Exactly the defined numbers equal themselves. -/
theorem le_self_iff : x ≤ x ↔ ∃ a, rankOf? x = some a := by
  rw [le_iff_rankOf]
  exact ⟨fun ⟨a, _, ha, _⟩ => ⟨a, ha⟩, fun ⟨a, ha⟩ => ⟨a, a, ha, ha, le_rfl⟩⟩

theorem rankOf_zero : rankOf? (0.0 : Float) = some (toLex (0, toLex (0, 0))) :=
  rfl

theorem neg_iff : x < 0.0 ↔ ∃ a, rankOf? x = some a ∧ a < toLex (0, toLex (0, 0)) := by
  rw [lt_iff_rankOf, rankOf_zero]
  simp

theorem pos_iff : 0.0 < x ↔ ∃ a, rankOf? x = some a ∧ toLex (0, toLex (0, 0)) < a := by
  rw [lt_iff_rankOf, rankOf_zero]
  simp

/-- Below positive infinity are the numbers of a smaller rank. -/
theorem belowTop_iff :
    Scalar.BelowTop x ↔ ∃ a, rankOf? x = some a ∧ a < toLex (2, toLex (0, 0)) := by
  have hbelow : Scalar.BelowTop x ↔ x.toModel.unpack.isFinite = true ∨ x < 0.0 := Iff.rfl
  rw [hbelow, neg_iff, rankOf?]
  rcases x.toModel.unpack with (_ | _) | _ | _ | ⟨_ | _, m, e, _⟩ <;>
    · dsimp only [UnpackedFloat.isFinite, rank?]
      simp [Prod.Lex.toLex_lt_toLex]

/-- A defined number that is not finite has a sign. -/
theorem neg_or_pos_of_not_finite (h : x ≤ x) (hfinite : Scalar.isFinite x = false) :
    x < 0.0 ∨ 0.0 < x := by
  have hinfinite : x.toModel.unpack.isFinite = false := hfinite
  rw [le_self_iff] at h
  rw [neg_iff, pos_iff]
  revert h hinfinite
  rw [rankOf?]
  rcases x.toModel.unpack with (_ | _) | _ | _ | ⟨_ | _, m, e, _⟩ <;>
    · dsimp only [UnpackedFloat.isFinite, rank?]
      simp [Prod.Lex.toLex_lt_toLex]

/-- Binary64 compares in order. -/
theorem comparesInOrder : Scalar.ComparesInOrder Float where
  le_or_lt x y hx hy := by
    obtain ⟨a, ha⟩ := le_self_iff.mp hx
    obtain ⟨b, hb⟩ := le_self_iff.mp hy
    rcases le_or_gt a b with h | h
    · exact .inl (le_iff_rankOf.mpr ⟨a, b, ha, hb, h⟩)
    · exact .inr (lt_iff_rankOf.mpr ⟨b, a, hb, ha, h⟩)
  lt_zero_or_pos _ := neg_or_pos_of_not_finite
  defined_of_le x y h := by
    obtain ⟨a, b, ha, hb, -⟩ := le_iff_rankOf.mp h
    exact ⟨le_self_iff.mpr ⟨a, ha⟩, le_self_iff.mpr ⟨b, hb⟩⟩
  le_trans x y z hxy hyz := by
    obtain ⟨a, b, ha, hb, hab⟩ := le_iff_rankOf.mp hxy
    obtain ⟨b', c, hb', hc, hbc⟩ := le_iff_rankOf.mp hyz
    obtain rfl := Option.some.inj (hb.symm.trans hb')
    exact le_iff_rankOf.mpr ⟨a, c, ha, hc, hab.trans hbc⟩
  lt_of_le_of_lt x y z hxy hyz := by
    obtain ⟨a, b, ha, hb, hab⟩ := le_iff_rankOf.mp hxy
    obtain ⟨b', c, hb', hc, hbc⟩ := lt_iff_rankOf.mp hyz
    obtain rfl := Option.some.inj (hb.symm.trans hb')
    exact lt_iff_rankOf.mpr ⟨a, c, ha, hc, hab.trans_lt hbc⟩
  not_lt_of_le x y hle hlt := by
    obtain ⟨a, b, ha, hb, hab⟩ := le_iff_rankOf.mp hle
    obtain ⟨b', a', hb', ha', hba⟩ := lt_iff_rankOf.mp hlt
    obtain rfl := Option.some.inj (ha.symm.trans ha')
    obtain rfl := Option.some.inj (hb.symm.trans hb')
    exact hab.not_gt hba
  lt_asymm x y hxy hyx := by
    obtain ⟨a, b, ha, hb, hab⟩ := lt_iff_rankOf.mp hxy
    obtain ⟨b', a', hb', ha', hba⟩ := lt_iff_rankOf.mp hyx
    obtain rfl := Option.some.inj (ha.symm.trans ha')
    obtain rfl := Option.some.inj (hb.symm.trans hb')
    exact lt_asymm hab hba
  belowTop_of_le x y h hbelow := by
    obtain ⟨a, b, ha, hb, hab⟩ := le_iff_rankOf.mp h
    obtain ⟨b', hb', hlt⟩ := belowTop_iff.mp hbelow
    obtain rfl := Option.some.inj (hb.symm.trans hb')
    exact belowTop_iff.mpr ⟨a, ha, hab.trans_lt hlt⟩

end Binary64

end Complementarity
