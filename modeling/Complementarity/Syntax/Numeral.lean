import Complementarity.Decimal.Basic
import Complementarity.Syntax.Word

/-!
Numbers.

Integers have a base and may contain underscores; reals are decimal. A run of octets is taken first
and must then be a number as a whole.
-/

namespace Complementarity

/-- The value of a hexadecimal digit. -/
def hexDigit? (c : Char) : Option Nat :=
  if '0' ≤ c ∧ c ≤ '9' then some (c.toNat - '0'.toNat)
  else if 'a' ≤ c ∧ c ≤ 'f' then some (c.toNat - 'a'.toNat + 10)
  else if 'A' ≤ c ∧ c ≤ 'F' then some (c.toNat - 'A'.toNat + 10)
  else none

/-- The value of digits in a base, without regard for underscores. -/
def digitsValue? (base : Nat) (digits : List Char) : Option Nat :=
  digits.foldlM
    (fun value c =>
      if c = '_' then some value
      else (hexDigit? c).bind fun d => if d < base then some (value * base + d) else none)
    0

namespace Decimal

/-- Splits off a sign and tells whether it was a minus. -/
def splitSign : List Char → Bool × List Char
  | '-' :: s => (true, s)
  | '+' :: s => (false, s)
  | s => (false, s)

/-- The exponent at the end of a number, zero if nothing is left. -/
def exponentOf? : List Char → Option Int
  | [] => some 0
  | c :: s =>
    let (negative, digits) := splitSign s
    if (c = 'e' ∨ c = 'E') ∧ digits ≠ [] ∧ digits.all Char.isDigit then
      (digitsValue? 10 digits).map fun k => if negative then -(k : Int) else k
    else
      none

/-- The places behind the point, if there is one, and what follows. -/
def splitPlaces : List Char → List Char × List Char
  | '.' :: s => s.span Char.isDigit
  | s => ([], s)

/-- A sign and a decimal number: digits with at most one point among them, then perhaps an
exponent. -/
def ofChars? (s : List Char) : Option (Bool × Decimal) := do
  let (negative, s) := splitSign s
  let (whole, s) := s.span Char.isDigit
  let (places, s) := splitPlaces s
  if whole = [] ∧ places = [] then
    none
  else
    let exponent ← exponentOf? s
    let digits ← digitsValue? 10 (whole ++ places)
    return (negative, ⟨digits, exponent - places.length⟩)

end Decimal

namespace Scanner

/-- The octet can stand in an integer of some base. -/
def isIntegerChar (c : Char) : Bool :=
  (hexDigit? c).isSome || c == '_'

/-- The octet can stand in a real number. -/
def isRealChar (c : Char) : Bool :=
  c.isDigit || c == 'e' || c == 'E' || c == '.' || c == '+' || c == '-' || c == '_'

/-- The base of an integer: ten unless a zero and a letter say otherwise. -/
def base : Scanner Nat := do
  if ← accept "0x" then return 16
  else if ← accept "0b" then return 2
  else if ← accept "0o" then return 8
  else return 10

/-- Takes an integer without a sign. -/
def natural : Scanner Nat := do
  let base ← base
  let digits ← takeWhile isIntegerChar
  check (digits ≠ [] ∧ digits.head? ≠ some '_')
  ofOption (digitsValue? base digits)

/-- Takes an integer with at most one sign. -/
def integer : Scanner Int := do
  if ← accept "-" then
    return -(← natural : Int)
  else
    let _ ← accept "+"
    return (← natural : Int)

/-- Takes a real number written with digits. -/
def decimal : Scanner Float := do
  let run ← takeWhile isRealChar
  let (negative, d) ← ofOption (Decimal.ofChars? run)
  return d.toFloat negative

/-- Takes a real number: one of the words for infinite and undefined numbers, or a decimal. -/
def real : Scanner Float := do
  if ← acceptWord "inf" <||> acceptWord "+inf" then
    return (Binary64.infinite false).toFloat
  else if ← acceptWord "-inf" then
    return (Binary64.infinite true).toFloat
  else if ← acceptWord "NaN" <||> acceptWord "+NaN" <||> acceptWord "-NaN" then
    return Binary64.undefined.toFloat
  else
    decimal

end Scanner

end Complementarity
