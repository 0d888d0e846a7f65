import Complementarity.Config.Reader
import Complementarity.Proofs.FloatBits
import Complementarity.Proofs.ScannerRules

/-!
Each written value is read back: numbers, truth values and the names of algorithms.

Real numbers go through their shortest decimal; infinite and undefined ones have words of their own.
-/

namespace Complementarity

namespace Scanner

open Decimal (digitChars integerChars signChars)

/-! ### Integers -/

theorem head_digitChars (n : Nat) : ∃ c s, digitChars n = c :: s ∧ c.isDigit = true := by
  have hne : digitChars n ≠ [] := Nat.toDigits_ne_nil
  obtain ⟨c, s, hcons⟩ := List.exists_cons_of_ne_nil hne
  exact ⟨c, s, hcons, areDigits_digitChars n c (hcons ▸ List.mem_cons_self ..)⟩

/-- Digits do not name a base: behind a leading zero there is a digit, or the number ends. -/
theorem isPrefixOf?_base {s rest : List Char} (hs : AreDigits s) (hne : s ≠ []) (hrest : Ended rest)
    {letter : Char} (hdigit : letter.isDigit = false) (hends : letter ∉ ',' :: closings) :
    ['0', letter].isPrefixOf? (s ++ rest) = none := by
  have hsecond {c d : Char} {t : List Char} (h : letter ≠ d) :
      ['0', letter].isPrefixOf? (c :: d :: t) = none := by
    simp [isPrefixOf?_cons, h]
  match s with
  | [c] =>
    obtain ⟨d, hd, t, rfl⟩ := hrest
    exact hsecond fun h => hends (h ▸ hd)
  | c :: d :: t =>
    have hd : d.isDigit = true := hs d (by simp)
    exact hsecond (ne_of_isDigit hd hdigit)

theorem base_digits {s rest : List Char} (hs : AreDigits s) (hne : s ≠ []) (hrest : Ended rest) :
    base (s ++ rest) = some (10, s ++ rest) := by
  have hnone {letter : Char} (hdigit : letter.isDigit = false) (hends : letter ∉ ',' :: closings) :
      ['0', letter].isPrefixOf? (s ++ rest) = none :=
    isPrefixOf?_base hs hne hrest hdigit hends
  have hx : accept "0x" (s ++ rest) = some (false, s ++ rest) :=
    accept_of_none (hnone (by decide) (by decide))
  have hb : accept "0b" (s ++ rest) = some (false, s ++ rest) :=
    accept_of_none (hnone (by decide) (by decide))
  have ho : accept "0o" (s ++ rest) = some (false, s ++ rest) :=
    accept_of_none (hnone (by decide) (by decide))
  rw [base, bind_of_eq hx, if_neg Bool.false_ne_true, bind_of_eq hb, if_neg Bool.false_ne_true,
    bind_of_eq ho]
  rfl

theorem reads_natural (n : Nat) : Reads natural (digitChars n) n := by
  intro rest hrest
  have hdigits := areDigits_digitChars n
  obtain ⟨c, s, hcons, hc⟩ := head_digitChars n
  have hne : digitChars n ≠ [] := hcons ▸ List.cons_ne_nil c s
  have hall : ∀ d ∈ digitChars n, isIntegerChar d = true := by
    intro d hd
    rw [isIntegerChar, hexDigit?_of_isDigit (hdigits d hd)]
    rfl
  have hstart : (digitChars n).head? ≠ some '_' := by
    rw [hcons]
    rintro ⟨⟩
    cases hc
  have hvalue : digitsValue? 10 (digitChars n) = some n := by
    rw [digitsValue?_ten hdigits, Decimal.digitChars, Nat.ofDigitChars_ten_toDigits]
  have hend : rest.head?.any isIntegerChar = false := hrest.any_head?_eq_false (by decide)
  rw [natural, bind_of_eq (base_digits hdigits hne hrest),
    bind_of_eq (takeWhile_append hall hend), bind_of_eq (check_of_true ⟨hne, hstart⟩ _), hvalue]
  rfl

theorem reads_integer (k : Int) : Reads integer (integerChars k) k := by
  intro rest hrest
  have hnatural := reads_natural k.natAbs rest hrest
  unfold integerChars
  split
  · next hneg =>
    have hminus : accept "-" ('-' :: digitChars k.natAbs ++ rest) =
        some (true, digitChars k.natAbs ++ rest) := rfl
    have hvalue : -(k.natAbs : Int) = k := by omega
    rw [integer, bind_of_eq hminus, if_pos rfl, bind_of_eq hnatural, hvalue]
    rfl
  · next hnonneg =>
    obtain ⟨c, s, hcons, hc⟩ := head_digitChars k.natAbs
    have hsign {sign : Char} (h : sign.isDigit = false) :
        [sign].isPrefixOf? (digitChars k.natAbs ++ rest) = none := by
      rw [hcons]
      simp [isPrefixOf?_cons, ne_of_isDigit hc h]
    have hminus : accept "-" (digitChars k.natAbs ++ rest) =
        some (false, digitChars k.natAbs ++ rest) :=
      accept_of_none (hsign (by decide))
    have hplus : accept "+" (digitChars k.natAbs ++ rest) =
        some (false, digitChars k.natAbs ++ rest) :=
      accept_of_none (hsign (by decide))
    have hvalue : (k.natAbs : Int) = k := by omega
    rw [integer, bind_of_eq hminus, if_neg Bool.false_ne_true, bind_of_eq hplus,
      bind_of_eq hnatural, hvalue]
    rfl

theorem reads_verbosity (v : UInt8) : Reads verbosity (digitChars v.toNat) v := by
  intro rest hrest
  rw [verbosity, bind_of_eq (reads_natural v.toNat rest hrest),
    bind_of_eq (check_of_true v.toNat_lt_size _), UInt8.ofNat_toNat]
  rfl

theorem reads_integerParameter (k : Int32) : Reads integerParameter (Printer.integer k) k := by
  intro rest hrest
  have hrange : Int32.minValue.toInt ≤ k.toInt ∧ k.toInt ≤ Int32.maxValue.toInt :=
    ⟨k.minValue_le_toInt, k.toInt_le⟩
  rw [integerParameter, Printer.integer, bind_of_eq (reads_integer k.toInt rest hrest),
    bind_of_eq (check_of_true hrange _), Int32.ofInt_toInt]
  rfl

/-! ### Real numbers -/

theorem or_of_false {x y : Scanner Bool} {s rest : List Char} (h : x s = some (false, rest)) :
    (x <||> y) s = y rest :=
  bind_of_eq h

theorem or_of_true {x y : Scanner Bool} {s rest : List Char} (h : x s = some (true, rest)) :
    (x <||> y) s = some (true, rest) :=
  bind_of_eq h

/-- The words for numbers that have no digits. -/
def realWords : List String :=
  ["inf", "+inf", "-inf", "NaN", "+NaN", "-NaN"]

/-- No such word starts with digits, whether or not a sign stands in front of them. -/
theorem acceptWord_digit {word : String} (hword : word ∈ realWords) (negative : Bool) {c : Char}
    (hc : c.isDigit = true) (s : List Char) :
    acceptWord word (signChars negative ++ c :: s) =
      some (false, signChars negative ++ c :: s) := by
  refine acceptWord_of_none ?_
  have hi : 'i' ≠ c := ne_of_isDigit hc (by decide)
  have hN : 'N' ≠ c := ne_of_isDigit hc (by decide)
  have hplus : '+' ≠ c := ne_of_isDigit hc (by decide)
  have hminus : '-' ≠ c := ne_of_isDigit hc (by decide)
  simp only [realWords, List.mem_cons, List.not_mem_nil, or_false] at hword
  rcases hword with rfl | rfl | rfl | rfl | rfl | rfl <;> cases negative <;>
    simp [isPrefixOf?_cons, signChars, *]

/-- A number with digits is read as a decimal. -/
theorem real_digit (negative : Bool) {c : Char} (hc : c.isDigit = true) (s : List Char) :
    real (signChars negative ++ c :: s) = decimal (signChars negative ++ c :: s) := by
  have hword (word : String) (hmem : word ∈ realWords) := acceptWord_digit hmem negative hc s
  have hinfinite := (or_of_false (hword "inf" (by decide))).trans (hword "+inf" (by decide))
  have hnegative := hword "-inf" (by decide)
  have hundefined := (or_of_false (hword "NaN" (by decide))).trans
    ((or_of_false (hword "+NaN" (by decide))).trans (hword "-NaN" (by decide)))
  rw [real, bind_of_eq hinfinite, if_neg Bool.false_ne_true, bind_of_eq hnegative,
    if_neg Bool.false_ne_true, bind_of_eq hundefined]
  rfl

theorem isRealChar_signed {negative : Bool} {d : Decimal} {c : Char}
    (hc : c ∈ signChars negative ++ Printer.wholeMarked d) : isRealChar c = true := by
  obtain ⟨-, -, -, -, hall⟩ := d.exists_wholeMarked_eq
  rcases List.mem_append.mp hc with hc | hc
  · cases negative with
    | true =>
      cases List.mem_singleton.mp hc
      decide
    | false => cases hc
  · rcases hall c hc with hdigit | rfl
    · simp [isRealChar, hdigit]
    · decide

/-- A finite number is read from its shortest decimal. -/
theorem reads_finite {x : Float} {negative : Bool} {units : Nat}
    (h : Binary64.ofFloat x = .finite negative units) :
    Reads real (signChars negative ++ Printer.wholeMarked (Decimal.shortest units)) x := by
  intro rest hrest
  obtain ⟨hspaced, hlt⟩ := Binary64.units_of_ofFloat h
  have hnearest := Decimal.nearestUnits_shortest hspaced hlt
  obtain ⟨found, hfound, hunits⟩ := Decimal.ofChars?_wholeMarked negative (hnearest.symm ▸ hlt)
  obtain ⟨c, s, hcons, hc, -⟩ := (Decimal.shortest units).exists_wholeMarked_eq
  have hend : rest.head?.any isRealChar = false := hrest.any_head?_eq_false (by decide)
  have hreal : real (signChars negative ++ Printer.wholeMarked (Decimal.shortest units) ++ rest) =
      decimal (signChars negative ++ Printer.wholeMarked (Decimal.shortest units) ++ rest) := by
    rw [hcons, List.append_assoc]
    exact real_digit negative hc (s ++ rest)
  have hvalue : found.toFloat negative = x := by
    rw [Decimal.toFloat, hunits, hnearest, ← h, Binary64.toFloat_ofFloat]
  rw [hreal, decimal, bind_of_eq (takeWhile_append (fun _ => isRealChar_signed) hend), hfound,
    ← hvalue]
  rfl

/-- Every real number is read back, infinite and undefined ones included. -/
theorem reads_real (x : Float) : Reads real (Printer.real x) x := by
  have hback := Binary64.toFloat_ofFloat x
  unfold Printer.real
  cases h : Binary64.ofFloat x with
  | undefined =>
    intro rest hrest
    have hend : rest.head?.any isWordChar = false := hrest.any_head?_eq_false (by decide)
    have hinfinite : (acceptWord "inf" <||> acceptWord "+inf") ("NaN".toList ++ rest) =
        some (false, "NaN".toList ++ rest) :=
      (or_of_false (acceptWord_of_none rfl)).trans (acceptWord_of_none rfl)
    have hnegative : acceptWord "-inf" ("NaN".toList ++ rest) =
        some (false, "NaN".toList ++ rest) :=
      acceptWord_of_none rfl
    have hundefined : (acceptWord "NaN" <||> acceptWord "+NaN" <||> acceptWord "-NaN")
        ("NaN".toList ++ rest) = some (true, rest) :=
      or_of_true (acceptWord_append "NaN" hend)
    change real ("NaN".toList ++ rest) = some (x, rest)
    rw [real, bind_of_eq hinfinite, if_neg Bool.false_ne_true, bind_of_eq hnegative,
      if_neg Bool.false_ne_true, bind_of_eq hundefined, ← hback, h]
    rfl
  | infinite negative =>
    intro rest hrest
    have hend : rest.head?.any isWordChar = false := hrest.any_head?_eq_false (by decide)
    cases negative with
    | true =>
      have hinfinite : (acceptWord "inf" <||> acceptWord "+inf") ("-inf".toList ++ rest) =
          some (false, "-inf".toList ++ rest) :=
        (or_of_false (acceptWord_of_none rfl)).trans (acceptWord_of_none rfl)
      change real ("-inf".toList ++ rest) = some (x, rest)
      rw [real, bind_of_eq hinfinite, if_neg Bool.false_ne_true,
        bind_of_eq (acceptWord_append "-inf" hend), ← hback, h]
      rfl
    | false =>
      have hinfinite : (acceptWord "inf" <||> acceptWord "+inf") ("inf".toList ++ rest) =
          some (true, rest) :=
        or_of_true (acceptWord_append "inf" hend)
      change real ("inf".toList ++ rest) = some (x, rest)
      rw [real, bind_of_eq hinfinite, ← hback, h]
      rfl
  | finite negative units => exact reads_finite h

/-! ### Truth values and names -/

theorem reads_truth (b : Bool) : Reads truth (Printer.truth b) b := by
  intro rest hrest
  have hend : rest.head?.any isWordChar = false := hrest.any_head?_eq_false (by decide)
  cases b with
  | true =>
    change truth ("true".toList ++ rest) = some (true, rest)
    rw [truth, bind_of_eq (acceptWord_append "true" hend)]
    rfl
  | false =>
    have htrue : acceptWord "true" ("false".toList ++ rest) =
        some (false, "false".toList ++ rest) :=
      acceptWord_of_none rfl
    change truth ("false".toList ++ rest) = some (false, rest)
    rw [truth, bind_of_eq htrue, if_neg Bool.false_ne_true,
      bind_of_eq (acceptWord_append "false" hend)]
    rfl

theorem isName_solver (solver : SolverId) : IsName solver.name.toList := by
  cases solver <;> exact ⟨by decide, by decide, by decide⟩

theorem ofName?_name (solver : SolverId) : SolverId.ofName? solver.name = some solver := by
  cases solver <;> decide

theorem reads_solverId (solver : SolverId) : Reads solverId solver.name.toList solver := by
  intro rest hrest
  have hend : rest.head?.any isMarkedChar = false := hrest.any_head?_eq_false (by decide)
  rw [solverId, bind_of_eq (word_append (isName_solver solver) hend), String.ofList_toList,
    ofName?_name]
  rfl

/-! ### Values as items -/

theorem startsWithout_digit {c : Char} (hc : c.isDigit = true) (s : List Char) :
    StartsWithout (closings ++ blanks) (c :: s) := by
  refine ⟨c, s, rfl, fun hmem => ?_⟩
  have hnone : (closings ++ blanks).any Char.isDigit = false := by decide
  exact List.any_eq_false.mp hnone c hmem hc

theorem startsWithout_signed (negative : Bool) {c : Char} (hc : c.isDigit = true) (s : List Char) :
    StartsWithout (closings ++ blanks) (signChars negative ++ c :: s) := by
  cases negative with
  | true => exact ⟨'-', c :: s, rfl, by decide⟩
  | false => exact startsWithout_digit hc s

theorem isItem_verbosity (v : UInt8) : IsItem verbosity (digitChars v.toNat) v := by
  obtain ⟨c, s, hcons, hc⟩ := head_digitChars v.toNat
  exact ⟨hcons ▸ startsWithout_digit hc s, reads_verbosity v⟩

theorem isItem_integerParameter (k : Int32) : IsItem integerParameter (Printer.integer k) k := by
  obtain ⟨c, s, hcons, hc⟩ := head_digitChars k.toInt.natAbs
  refine ⟨?_, reads_integerParameter k⟩
  unfold Printer.integer integerChars
  split
  · exact ⟨'-', _, rfl, by decide⟩
  · rw [hcons]
    exact startsWithout_digit hc s

theorem isItem_real (x : Float) : IsItem real (Printer.real x) x := by
  refine ⟨?_, reads_real x⟩
  unfold Printer.real
  cases Binary64.ofFloat x with
  | undefined => exact ⟨'N', _, rfl, by decide⟩
  | infinite negative => cases negative <;> exact ⟨_, _, rfl, by decide⟩
  | finite negative units =>
    obtain ⟨c, s, hcons, hc, -⟩ := (Decimal.shortest units).exists_wholeMarked_eq
    rw [Decimal.textWith, hcons]
    exact startsWithout_signed negative hc s

theorem isItem_truth (b : Bool) : IsItem truth (Printer.truth b) b := by
  refine ⟨?_, reads_truth b⟩
  cases b <;> exact ⟨_, _, rfl, by decide⟩

theorem isItem_solverId (solver : SolverId) : IsItem solverId solver.name.toList solver := by
  refine ⟨?_, reads_solverId solver⟩
  cases solver <;> exact ⟨_, _, rfl, by decide⟩

end Scanner

end Complementarity
