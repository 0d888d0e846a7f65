import Complementarity.Syntax.Scanner

/-!
Space between tokens: blanks, comments to the end of a line, and comments between `/*` and `*/`,
which nest.
-/

namespace Complementarity

/-- Where a scan through blank space stands. -/
inductive BlankState where
  | outside
  | line
  /-- Inside of a comment that lies in so many others. -/
  | nested (outer : Nat)

/-- The text behind blank space, unless a comment is malformed. -/
def skipBlankFrom : BlankState → List Char → Option (List Char)
  | .outside, '/' :: '/' :: s => skipBlankFrom .line s
  | .outside, '/' :: '*' :: s => skipBlankFrom (.nested 0) s
  | .outside, '/' :: _ => none
  | .outside, c :: s =>
    if c = ' ' ∨ c = '\t' ∨ c = '\r' ∨ c = '\n' then skipBlankFrom .outside s else some (c :: s)
  | .outside, [] => some []
  | .line, '\n' :: s => skipBlankFrom .outside s
  | .line, _ :: s => skipBlankFrom .line s
  | .line, [] => some []
  | .nested 0, '*' :: '/' :: s => skipBlankFrom .outside s
  | .nested (outer + 1), '*' :: '/' :: s => skipBlankFrom (.nested outer) s
  | .nested outer, '/' :: '*' :: s => skipBlankFrom (.nested (outer + 1)) s
  | .nested outer, _ :: s => skipBlankFrom (.nested outer) s
  | .nested _, [] => none

namespace Scanner

/-- Takes blank space. -/
def skipBlank : Scanner Unit := fun s =>
  (skipBlankFrom .outside s).map fun rest => ((), rest)

/-- Takes a comma with the space around it, and tells whether there was one. -/
def comma : Scanner Bool := do
  skipBlank
  if ← accept "," then
    skipBlank
    return true
  else
    return false

/-- Takes items up to the closing octet, which stays. A comma stands between items and may follow the
last one. The fuel bounds the number of items. -/
def itemsWithin {α : Type} (close : Char) (item : Scanner α) : Nat → Scanner (List α)
  | 0 => failure
  | fuel + 1 => do
    if (← peek?) = some close then
      return []
    else
      let first ← item
      if ← comma then
        return first :: (← itemsWithin close item fuel)
      else
        check ((← peek?) = some close)
        return [first]

/-- Takes items up to the closing octet, which stays. -/
def items {α : Type} (close : Char) (item : Scanner α) : Scanner (List α) := do
  skipBlank
  itemsWithin close item ((← get).length + 1)

/-- Takes items between brackets. -/
def bracketed {α : Type} (opening closing : Char) (item : Scanner α) : Scanner (List α) := do
  expect opening.toString
  let found ← items closing item
  expect closing.toString
  return found

end Scanner

end Complementarity
