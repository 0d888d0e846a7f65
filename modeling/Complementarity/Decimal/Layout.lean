import Complementarity.Decimal.Shortest

/-!
Binary64 numbers as text, with the fewest digits that read back.

Positional text never has an exponent; scientific text always has one, with a single digit in front
of the point.
-/

namespace Complementarity.Decimal

/-- The digits of a natural number. -/
def digitChars (n : Nat) : List Char :=
  Nat.toDigits 10 n

/-- The digits of an integer, with a sign if it is negative. -/
def integerChars (k : Int) : List Char :=
  if k < 0 then '-' :: digitChars k.natAbs else digitChars k.natAbs

/-- The number without an exponent. A whole number has no point. -/
def positionalChars (d : Decimal) : List Char :=
  let digits := digitChars d.digits
  let places := (-d.exponent).toNat
  if places = 0 then digits ++ List.replicate d.exponent.toNat '0'
  else
    let padded := List.replicate (places + 1 - digits.length) '0' ++ digits
    padded.take (padded.length - places) ++ '.' :: padded.drop (padded.length - places)

/-- The number with an exponent behind the letter `e`. A single digit has no point. -/
def scientificChars (d : Decimal) : List Char :=
  let digits := digitChars d.digits
  let exponent := integerChars (d.exponent + digits.length - 1)
  match digits with
  | first :: second :: rest => first :: '.' :: second :: rest ++ 'e' :: exponent
  | single => single ++ 'e' :: exponent

/-- A binary64 number in a given layout of its shortest decimal. -/
def textWith (layout : Decimal → List Char) : Binary64 → List Char
  | .undefined => ['N', 'a', 'N']
  | .infinite negative => (if negative then ['-'] else []) ++ ['i', 'n', 'f']
  | .finite negative units => (if negative then ['-'] else []) ++ layout (shortest units)

/-- The number without an exponent. -/
def positional (x : Float) : String :=
  String.ofList (textWith positionalChars (.ofFloat x))

/-- The number with an exponent. -/
def scientific (x : Float) : String :=
  String.ofList (textWith scientificChars (.ofFloat x))

end Complementarity.Decimal
