import Mathlib.Data.List.TakeDrop
import Complementarity.Config.Printer
import Complementarity.Syntax.Numeral
import Complementarity.Proofs.DecimalValues

/-!
Decimal numbers as text, with digits on both sides of a point.

The written digits may end in zeros that the number does not have, so what is read back
(`ofChars?_wholeMarked`) has the same value and is not always the same decimal.
-/

namespace Complementarity

/-- A run of characters with a property ends in front of one without it. -/
theorem takeWhile_run {p : Char → Bool} {s rest : List Char} (hs : ∀ c ∈ s, p c = true)
    (hrest : rest.head?.any p = false) : (s ++ rest).takeWhile p = s := by
  rw [List.takeWhile_append_of_pos hs]
  cases rest with
  | nil => exact List.append_nil s
  | cons c rest => rw [List.takeWhile_cons_of_neg (by simpa using hrest), List.append_nil]

theorem dropWhile_run {p : Char → Bool} {s rest : List Char} (hs : ∀ c ∈ s, p c = true)
    (hrest : rest.head?.any p = false) : (s ++ rest).dropWhile p = rest := by
  rw [List.dropWhile_append_of_pos hs]
  cases rest with
  | nil => rfl
  | cons c rest => rw [List.dropWhile_cons_of_neg (by simpa using hrest)]

/-! ### Digits -/

/-- The characters are digits. -/
def AreDigits (s : List Char) : Prop :=
  ∀ c ∈ s, c.isDigit = true

theorem AreDigits.append {s t : List Char} (hs : AreDigits s) (ht : AreDigits t) :
    AreDigits (s ++ t) :=
  List.forall_mem_append.mpr ⟨hs, ht⟩

theorem areDigits_replicate (n : Nat) : AreDigits (List.replicate n '0') := by
  intro c hc
  rw [List.eq_of_mem_replicate hc]
  rfl

theorem areDigits_digitChars (n : Nat) : AreDigits (Decimal.digitChars n) :=
  fun _ hc => Nat.isDigit_of_mem_toDigits (by decide) (by decide) hc

theorem ne_of_isDigit {c d : Char} (hc : c.isDigit = true) (hd : d.isDigit = false) : d ≠ c := by
  rintro rfl
  exact Bool.false_ne_true (hd.symm.trans hc)

theorem hexDigit?_of_isDigit {c : Char} (h : c.isDigit = true) :
    hexDigit? c = some (c.toNat - '0'.toNat) := by
  have hrange : '0' ≤ c ∧ c ≤ '9' := Char.isDigit_iff_toNat.mp h
  rw [hexDigit?, if_pos hrange]

/-- The value of decimal digits is the usual one. -/
theorem digitsValue?_ten {s : List Char} (h : AreDigits s) :
    digitsValue? 10 s = some (Nat.ofDigitChars 10 s 0) := by
  unfold digitsValue?
  generalize 0 = start
  induction s generalizing start with
  | nil => rfl
  | cons c s ih =>
    have hc : c.isDigit = true := h c (List.mem_cons_self ..)
    have hunderscore : c ≠ '_' := (ne_of_isDigit hc (by decide)).symm
    have hten : c.toNat - '0'.toNat < 10 := by
      have hle : c.toNat ≤ 57 := (Char.isDigit_iff_toNat.mp hc).2
      have hzero : '0'.toNat = 48 := rfl
      omega
    rw [List.foldlM_cons, if_neg hunderscore, hexDigit?_of_isDigit hc, Option.bind_some,
      if_pos hten]
    refine (ih (fun d hd => h d (List.mem_cons_of_mem _ hd)) _).trans ?_
    rw [Nat.ofDigitChars_cons, Nat.mul_comm start]

namespace Decimal

/-! ### Pointed numbers -/

/-- The sign of a number, nothing unless it is negative. -/
def signChars (negative : Bool) : List Char :=
  if negative then ['-'] else []

theorem splitSign_digits {negative : Bool} {c : Char} {s : List Char} (hc : c.isDigit = true) :
    splitSign (signChars negative ++ c :: s) = (negative, c :: s) := by
  cases negative with
  | true => rfl
  | false =>
    unfold signChars splitSign
    split
    · next heq => cases heq; cases hc
    · next heq => cases heq; cases hc
    · rfl

theorem span_digits {s rest : List Char} (hs : AreDigits s)
    (hrest : rest.head?.any Char.isDigit = false) :
    (s ++ rest).span Char.isDigit = (s, rest) := by
  rw [List.span_eq_takeWhile_dropWhile, takeWhile_run hs hrest, dropWhile_run hs hrest]

/-- Digits on both sides of a point are read as one number. -/
theorem ofChars?_pointed {negative : Bool} {whole places : List Char} (hne : whole ≠ [])
    (hall : AreDigits (whole ++ places)) :
    ofChars? (signChars negative ++ (whole ++ '.' :: places)) =
      some (negative, ⟨Nat.ofDigitChars 10 (whole ++ places) 0, -places.length⟩) := by
  obtain ⟨c, s, hcons⟩ := List.exists_cons_of_ne_nil hne
  obtain ⟨hwhole, hplaces⟩ : AreDigits whole ∧ AreDigits places := List.forall_mem_append.mp hall
  have hsign : splitSign (signChars negative ++ (whole ++ '.' :: places)) =
      (negative, whole ++ '.' :: places) := by
    rw [hcons, List.cons_append]
    exact splitSign_digits (hwhole c (hcons ▸ List.mem_cons_self ..))
  have hspan : places.span Char.isDigit = (places, []) := by
    simpa using @span_digits places [] hplaces rfl
  have hplacesOf : splitPlaces ('.' :: places) = (places, []) := hspan
  simp only [ofChars?, hsign, @span_digits whole ('.' :: places) hwhole rfl, hplacesOf, hne,
    false_and, ↓reduceIte, exponentOf?, digitsValue?_ten hall]
  simp

/-- A written number as digits on both sides of a point, with zeros behind its own digits. -/
theorem exists_pointed (d : Decimal) : ∃ (whole places : List Char) (k : Nat),
    Printer.wholeMarked d = whole ++ '.' :: places ∧ whole ≠ [] ∧ AreDigits (whole ++ places) ∧
      Nat.ofDigitChars 10 (whole ++ places) 0 = d.digits * 10 ^ k ∧
      d.exponent = -places.length + k := by
  have hvalue : Nat.ofDigitChars 10 (digitChars d.digits) 0 = d.digits :=
    Nat.ofDigitChars_ten_toDigits
  by_cases hsign : 0 ≤ d.exponent
  · set zeros := d.exponent.toNat with hzeros
    have hall : digitChars d.digits ++ List.replicate zeros '0' ++ ['0'] =
        digitChars d.digits ++ List.replicate (zeros + 1) '0' := by
      rw [List.append_assoc, List.replicate_succ']
    refine ⟨digitChars d.digits ++ List.replicate zeros '0', ['0'], zeros + 1, ?_,
      List.append_ne_nil_of_left_ne_nil Nat.toDigits_ne_nil _, ?_, ?_, ?_⟩
    · have hplaces : (-d.exponent).toNat = 0 := by omega
      rw [Printer.wholeMarked, positionalChars, if_pos hplaces, if_pos hsign]
    · rw [hall]
      exact (areDigits_digitChars _).append (areDigits_replicate _)
    · rw [hall, Nat.ofDigitChars_append, hvalue, Nat.ofDigitChars_replicate_zero, Nat.mul_comm]
    · rw [List.length_singleton]
      omega
  · set count := (-d.exponent).toNat with hcount
    set padded := List.replicate (count + 1 - (digitChars d.digits).length) '0' ++
      digitChars d.digits with hpadded
    have hlength : count < padded.length := by
      rw [hpadded, List.length_append, List.length_replicate]
      omega
    have hplaces : (padded.drop (padded.length - count)).length = count := by
      rw [List.length_drop]
      omega
    refine ⟨padded.take (padded.length - count), padded.drop (padded.length - count), 0, ?_, ?_, ?_,
      ?_, ?_⟩
    · have hne : count ≠ 0 := by omega
      rw [Printer.wholeMarked, positionalChars, if_neg hne, if_neg hsign, List.append_nil]
    · refine List.length_pos_iff.mp ?_
      rw [List.length_take]
      omega
    · rw [List.take_append_drop]
      exact (areDigits_replicate _).append (areDigits_digitChars _)
    · rw [List.take_append_drop, hpadded, Nat.ofDigitChars_append, Nat.ofDigitChars_replicate_zero,
        Nat.mul_zero, hvalue, Nat.pow_zero, Nat.mul_one]
    · rw [hplaces]
      omega

/-- A written number starts with a digit, and has nothing but digits and a point. -/
theorem exists_wholeMarked_eq (d : Decimal) : ∃ c s, Printer.wholeMarked d = c :: s ∧
    c.isDigit = true ∧ ∀ e ∈ Printer.wholeMarked d, e.isDigit = true ∨ e = '.' := by
  obtain ⟨whole, places, -, htext, hne, hall, -⟩ := exists_pointed d
  obtain ⟨c, s, rfl⟩ := List.exists_cons_of_ne_nil hne
  refine ⟨c, s ++ '.' :: places, htext, hall c (List.mem_cons_self ..), ?_⟩
  intro e he
  rw [htext] at he
  rcases List.mem_append.mp he with he | he
  · exact .inl (hall e (List.mem_append_left _ he))
  · rcases List.mem_cons.mp he with rfl | he
    · exact .inr rfl
    · exact .inl (hall e (List.mem_append_right _ he))

/-- What is read back has the value of what was written. -/
theorem ofChars?_wholeMarked (negative : Bool) {d : Decimal}
    (hlt : d.nearestUnits < Binary64.unitsBound) :
    ∃ found, ofChars? (signChars negative ++ Printer.wholeMarked d) = some (negative, found) ∧
      found.nearestUnits = d.nearestUnits := by
  obtain ⟨whole, places, k, htext, hne, hall, hdigits, hexponent⟩ := exists_pointed d
  refine ⟨⟨Nat.ofDigitChars 10 (whole ++ places) 0, -places.length⟩, ?_, ?_⟩
  · rw [htext, ofChars?_pointed hne hall]
  · have hshift := sameValue_shift d.digits k (-places.length)
    rw [← hexponent, ← hdigits] at hshift
    exact nearestUnits_eq_of_sameValue hshift.symm hlt

end Decimal

end Complementarity
