import Complementarity.Syntax.Blank

/-!
Words: names of fields, of algorithms, and of fixed values.
-/

namespace Complementarity.Scanner

/-- The octet can start a word. -/
def startsWord (c : Char) : Bool :=
  c.isAlpha || c == '_'

/-- The octet can stand in a word. -/
def isWordChar (c : Char) : Bool :=
  c.isAlphanum || c == '_'

/-- The octet can stand in a word that is marked by `r#`. -/
def isMarkedChar (c : Char) : Bool :=
  isWordChar c || c == '.' || c == '+' || c == '-'

/-- The text starts with exactly this word. -/
def atWord (word : String) : Scanner Bool := do
  match word.toList.isPrefixOf? (← get) with
  | none => return false
  | some rest => return !(rest.head?.any isWordChar)

/-- Takes a word if the text starts with exactly it, and tells whether it did. -/
def acceptWord (word : String) : Scanner Bool := do
  if ← atWord word then accept word else return false

/-- Takes a word. An octet that could only stand in a marked word must not follow it. -/
def plainWord : Scanner (List Char) := do
  check ((← peek?).any startsWord = true)
  let word ← takeWhile isWordChar
  check ((← peek?).any isMarkedChar = false)
  return word

/-- Takes a word, which may be marked by `r#`. A lone `r`, and one in front of a quoted text, is no
word. -/
def word : Scanner (List Char) := do
  match ← get with
  | ['r'] => failure
  | 'r' :: '"' :: _ => failure
  | 'r' :: '#' :: s =>
    check (s.head?.any isMarkedChar = true)
    set s
    takeWhile isMarkedChar
  | _ => plainWord

end Complementarity.Scanner
