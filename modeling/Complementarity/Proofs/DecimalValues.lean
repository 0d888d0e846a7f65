import Mathlib.Algebra.Order.Ring.Nat
import Mathlib.Tactic.Ring
import Mathlib.Tactic.GCongr
import Complementarity.Decimal.Layout

/-!
Which binary64 number a decimal number is nearest to.

The nearest number depends on the value alone (`nearestUnits_eq_of_sameValue`): the shortcuts for
huge and tiny exponents find what the division would find, as long as the result is finite. So digits
may be shifted and zeros stripped. The shortest decimal reads back for that reason
(`nearestUnits_shortest`).
-/

namespace Complementarity

/-- A common factor does not change a rounded quotient. -/
theorem roundDiv_mul_left {c : Nat} (hc : 0 < c) (num den : Nat) :
    roundDiv (c * num) (c * den) = roundDiv num den := by
  simp only [roundDiv, Nat.mul_div_mul_left _ _ hc, Nat.mul_mod_mul_left, Nat.mul_left_comm 2 c,
    Nat.mul_lt_mul_left hc, Nat.mul_right_inj hc.ne']

theorem div_le_roundDiv (num den : Nat) : num / den ≤ roundDiv num den := by
  unfold roundDiv
  dsimp only
  split
  · exact le_rfl
  · exact Nat.le_succ _

namespace Binary64

/-- A common factor does not change the nearest number. -/
theorem nearestUnits_mul_left {c : Nat} (hc : 0 < c) (num den : Nat) :
    nearestUnits (c * num) (c * den) = nearestUnits num den := by
  simp only [nearestUnits, Nat.mul_div_mul_left _ _ hc, Nat.mul_assoc, roundDiv_mul_left hc]

/-- The nearest number depends on the quotient only. -/
theorem nearestUnits_congr {num den num' den' : Nat} (hden : 0 < den) (hden' : 0 < den')
    (h : num * den' = num' * den) : nearestUnits num den = nearestUnits num' den' := by
  rw [← nearestUnits_mul_left hden' num den, ← nearestUnits_mul_left hden num' den',
    Nat.mul_comm den' num, h, Nat.mul_comm num' den, Nat.mul_comm den' den]

/-- Both are powers of two. The exponents are kept apart from them, since the powers are too large
to be computed in passing. -/
theorem exists_unit_powers :
    ∃ k, k = 1074 ∧ unitsPerOne = Nat.pow 2 k ∧ unitsBound = Nat.pow 2 (1024 + k) :=
  ⟨1074, by decide +kernel⟩

/-- The numbers of units that binary64 can hold: multiples of the distance at their size. -/
def IsSpaced (units : Nat) : Prop :=
  2 ^ (units.log2 - 52) ∣ units

/-- Such a number is nearest to itself. -/
theorem nearestUnits_of_isSpaced {units : Nat} (h : IsSpaced units) :
    nearestUnits units 1 = units := by
  obtain ⟨k, hk⟩ := h
  have hpos : 0 < 2 ^ (units.log2 - 52) := Nat.two_pow_pos _
  have hround : roundDiv units (2 ^ (units.log2 - 52)) = k := by
    generalize 2 ^ (units.log2 - 52) = spacing at hk hpos
    subst hk
    simp only [roundDiv, Nat.mul_div_cancel_left _ hpos, Nat.mul_mod_right]
    rw [if_pos (.inl hpos)]
  simp only [nearestUnits, Nat.div_one, Nat.one_mul, Nat.pow_eq, hround]
  rw [Nat.mul_comm]
  exact hk.symm

/-- Rounding does not lead below a power of two. -/
theorem pow_le_nearestUnits {num den k : Nat} (h : Nat.pow 2 k ≤ num / den) :
    Nat.pow 2 k ≤ nearestUnits num den := by
  simp only [Nat.pow_eq] at h ⊢
  have hne : num / den ≠ 0 := (Nat.two_pow_pos k |>.trans_le h).ne'
  have hlog : k ≤ (num / den).log2 := (Nat.le_log2 hne).mpr h
  set spacing := 2 ^ ((num / den).log2 - 52) with hspacing
  obtain ⟨t, ht⟩ : spacing ∣ 2 ^ (num / den).log2 := Nat.pow_dvd_pow 2 (Nat.sub_le _ _)
  have hquotient : t ≤ num / (den * spacing) := by
    rw [← Nat.div_div_eq_div_mul, Nat.le_div_iff_mul_le (Nat.two_pow_pos _), Nat.mul_comm, ← ht]
    exact Nat.log2_self_le hne
  calc 2 ^ k ≤ 2 ^ (num / den).log2 := Nat.pow_le_pow_right (by decide) hlog
    _ = t * spacing := by rw [ht, Nat.mul_comm]
    _ ≤ roundDiv num (den * spacing) * spacing :=
      Nat.mul_le_mul_right _ (hquotient.trans (div_le_roundDiv _ _))

/-- A small quotient is rounded to zero. -/
theorem nearestUnits_eq_zero {num den : Nat} (h : 2 * num < den) : nearestUnits num den = 0 := by
  have hdiv : num / den = 0 := Nat.div_eq_of_lt (by omega)
  have hmod : num % den = num := Nat.mod_eq_of_lt (by omega)
  have hlog : Nat.log2 0 - 52 = 0 := rfl
  simp only [nearestUnits, hdiv, hlog, Nat.pow_eq, Nat.pow_zero, Nat.mul_one, roundDiv, hmod]
  exact if_pos (.inl h)

end Binary64

namespace Decimal

/-! ### Values -/

/-- The decimals stand for the same number. -/
def SameValue (d d' : Decimal) : Prop :=
  d.numerator * d'.denominator = d'.numerator * d.denominator

theorem denominator_pos (d : Decimal) : 0 < d.denominator :=
  Nat.pow_pos (by decide)

/-- The number does not change if the point moves behind so many zeros. -/
theorem sameValue_shift (m k : Nat) (e : Int) : SameValue ⟨m * 10 ^ k, e⟩ ⟨m, e + k⟩ := by
  have hexponent : k + e.toNat + (-(e + k)).toNat = (e + k).toNat + (-e).toNat := by omega
  simp only [SameValue, numerator, denominator, Nat.pow_eq]
  rw [Nat.mul_assoc, Nat.mul_assoc, Nat.mul_assoc, ← Nat.pow_add, ← Nat.pow_add, ← Nat.pow_add,
    ← hexponent, Nat.add_assoc]

/-- The units nearest to the number, without a shortcut. -/
def exactUnits (d : Decimal) : Nat :=
  Binary64.nearestUnits (d.numerator * Binary64.unitsPerOne) d.denominator

theorem exactUnits_congr {d d' : Decimal} (h : d.SameValue d') : d.exactUnits = d'.exactUnits := by
  refine Binary64.nearestUnits_congr d.denominator_pos d'.denominator_pos ?_
  rw [Nat.mul_right_comm, h, Nat.mul_right_comm]

/-- Powers of ten outgrow powers of eight. -/
theorem two_pow_le_ten_pow {j k : Nat} (h : j ≤ 3 * k) : 2 ^ j ≤ 10 ^ k := by
  calc 2 ^ j ≤ 2 ^ (3 * k) := Nat.pow_le_pow_right (by decide) h
    _ = 8 ^ k := by rw [Nat.pow_mul]
    _ ≤ 10 ^ k := Nat.pow_le_pow_left (by decide) k

/-- A whole number of so many powers of ten, in units of so many powers of two. -/
theorem pow_le_nearestUnits_ten {digits e j k : Nat} (hdigits : digits ≠ 0) (h : j ≤ 3 * e) :
    Nat.pow 2 (j + k) ≤ Binary64.nearestUnits (digits * Nat.pow 10 e * Nat.pow 2 k) 1 := by
  refine Binary64.pow_le_nearestUnits ?_
  simp only [Nat.div_one, Nat.pow_eq]
  rw [Nat.pow_add]
  refine Nat.mul_le_mul_right _ ?_
  calc 2 ^ j ≤ 10 ^ e := two_pow_le_ten_pow h
    _ ≤ digits * 10 ^ e := Nat.le_mul_of_pos_left _ (Nat.pos_of_ne_zero hdigits)

/-- A number with an exponent beyond the limit is too large. -/
theorem unitsBound_le_exactUnits {d : Decimal} (hdigits : d.digits ≠ 0)
    (hexponent : (exponentLimit : Int) < d.exponent) : Binary64.unitsBound ≤ d.exactUnits := by
  have hlimit : 1024 ≤ 3 * d.exponent.toNat := by
    simp only [exponentLimit] at hexponent
    omega
  have hdenominator : d.denominator = 1 := by
    have hzero : (-d.exponent).toNat = 0 := by omega
    rw [denominator, hzero, Nat.pow_eq, Nat.pow_zero]
  obtain ⟨k, -, hone, hbound⟩ := Binary64.exists_unit_powers
  rw [exactUnits, hdenominator, hone, hbound]
  exact pow_le_nearestUnits_ten hdigits hlimit

/-- A number with an exponent far below the limit is too small. -/
theorem exactUnits_eq_zero {d : Decimal}
    (hexponent : d.exponent + d.digits.log2 + 1 < -exponentLimit) : d.exactUnits = 0 := by
  simp only [exponentLimit] at hexponent
  obtain ⟨k, hk, hone, -⟩ := Binary64.exists_unit_powers
  have hnumerator : d.numerator = d.digits := by
    have hzero : d.exponent.toNat = 0 := by omega
    rw [numerator, hzero, Nat.pow_eq, Nat.pow_zero, Nat.mul_one]
  refine Binary64.nearestUnits_eq_zero ?_
  rw [hnumerator, hone, denominator, Nat.pow_eq, Nat.pow_eq]
  calc 2 * (d.digits * 2 ^ k) = 2 ^ (k + 1) * d.digits := by rw [Nat.pow_succ]; ring
    _ < 2 ^ (k + 1) * 2 ^ (d.digits.log2 + 1) :=
      Nat.mul_lt_mul_of_pos_left Nat.lt_log2_self (Nat.two_pow_pos _)
    _ = 2 ^ (k + 1 + (d.digits.log2 + 1)) := (Nat.pow_add _ _ _).symm
    _ ≤ 10 ^ (-d.exponent).toNat := two_pow_le_ten_pow (by omega)

/-- The shortcuts agree with the division, or both find a number that is too large. -/
theorem nearestUnits_cases (d : Decimal) : d.nearestUnits = d.exactUnits ∨
    (Binary64.unitsBound ≤ d.nearestUnits ∧ Binary64.unitsBound ≤ d.exactUnits) := by
  unfold nearestUnits
  split
  · next hzero =>
    have hnumerator : d.numerator * Binary64.unitsPerOne = 0 := by
      rw [numerator, hzero, Nat.zero_mul, Nat.zero_mul]
    left
    rw [exactUnits, hnumerator]
    exact (Binary64.nearestUnits_eq_zero d.denominator_pos).symm
  · next hdigits =>
    split
    · next hlarge => exact .inr ⟨le_rfl, unitsBound_le_exactUnits hdigits hlarge⟩
    · split
      · next hsmall => exact .inl (exactUnits_eq_zero hsmall).symm
      · exact .inl rfl

/-- As long as the result is finite, the nearest number depends on the value only. -/
theorem nearestUnits_eq_of_sameValue {d d' : Decimal} (hsame : d.SameValue d')
    (hlt : d.nearestUnits < Binary64.unitsBound) : d'.nearestUnits = d.nearestUnits := by
  have hexact := exactUnits_congr hsame
  rcases d.nearestUnits_cases with h | ⟨hle, -⟩
  · rcases d'.nearestUnits_cases with h' | ⟨-, hle'⟩
    · rw [h', ← hexact, h]
    · omega
  · omega

/-! ### Shortest decimals -/

/-- The exact decimal stands for its number of units. -/
theorem ofUnits_eq (units : Nat) :
    (ofUnits units).numerator * Binary64.unitsPerOne = units * (ofUnits units).denominator := by
  have hunit : (ofUnits 1).numerator * Binary64.unitsPerOne = (ofUnits 1).denominator := by
    decide +kernel
  obtain ⟨p, hp⟩ : ∃ p, ∀ n, (ofUnits n).digits = n * p :=
    ⟨Nat.pow 5 1074, fun n => by rw [ofUnits]⟩
  have hexponent : (ofUnits units).exponent = (ofUnits 1).exponent := rfl
  rw [numerator, denominator, hp, Nat.one_mul] at hunit
  rw [numerator, denominator, hp, hexponent, ← hunit]
  ring

/-- A number of units is nearest to its exact decimal. -/
theorem nearestUnits_ofUnits {units : Nat} (h : Binary64.IsSpaced units)
    (hlt : units < Binary64.unitsBound) : (ofUnits units).nearestUnits = units := by
  have hexact : (ofUnits units).exactUnits = units := by
    refine (Binary64.nearestUnits_congr (denominator_pos _) Nat.one_pos ?_).trans
      (Binary64.nearestUnits_of_isSpaced h)
    rw [Nat.mul_one, ofUnits_eq]
  rcases (ofUnits units).nearestUnits_cases with heq | ⟨-, hle⟩
  · rw [heq, hexact]
  · omega

/-- Stripping zeros does not change the nearest number. -/
theorem nearestUnits_stripFrom {fuel : Nat} {d : Decimal}
    (hlt : d.nearestUnits < Binary64.unitsBound) :
    (stripFrom fuel d).nearestUnits = d.nearestUnits := by
  induction fuel generalizing d with
  | zero => rfl
  | succ fuel ih =>
    unfold stripFrom
    split
    · next hzero =>
      have hshift := sameValue_shift (d.digits / 10) 1 d.exponent
      have hdigits : d.digits / 10 * 10 ^ 1 = d.digits := by omega
      rw [hdigits] at hshift
      have hstep := nearestUnits_eq_of_sameValue hshift hlt
      exact (ih (hstep.symm ▸ hlt)).trans hstep
    · rfl

/-- What the search through the grids finds reads back. -/
theorem readsBack_of_findSome? {units : Nat} {found : Decimal} {searched : List Int}
    (h : (searched.findSome? fun grid =>
      (neighbours units grid).find? fun d => ReadsBack units d) = some found) :
    found.nearestUnits = units := by
  obtain ⟨grid, -, hfind⟩ := List.exists_of_findSome?_eq_some h
  have hreads := List.find?_some hfind
  exact of_decide_eq_true hreads

/-- The shortest decimal reads back. -/
theorem nearestUnits_shortest {units : Nat} (h : Binary64.IsSpaced units)
    (hlt : units < Binary64.unitsBound) : (shortest units).nearestUnits = units := by
  unfold shortest
  split
  · next hzero => rw [hzero]; rfl
  · dsimp only
    rw [strip]
    generalize hexact : ofUnits units = exact
    have hreads : ((((grids units).findSome? fun grid =>
        (neighbours units grid).find? fun d => ReadsBack units d).getD exact).nearestUnits) =
          units := by
      cases hfound : (grids units).findSome? fun grid =>
          (neighbours units grid).find? fun d => ReadsBack units d with
      | none =>
        rw [Option.getD_none, ← hexact]
        exact nearestUnits_ofUnits h hlt
      | some d =>
        rw [Option.getD_some]
        exact readsBack_of_findSome? hfound
    rw [nearestUnits_stripFrom (by rwa [hreads]), hreads]

end Decimal

end Complementarity
