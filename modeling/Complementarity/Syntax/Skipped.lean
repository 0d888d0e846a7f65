import Complementarity.Syntax.QuotedText

/-!
Values of unknown fields.

They are skipped, but must be well formed. A bound on their nesting is passed along: an optional value
takes one level, brackets take one and each item between them another.
-/

namespace Complementarity.Scanner

/-- What an unknown value may contain at its place. -/
structure Nesting where
  /-- A value without brackets is missing around an optional value. -/
  impliedOptions : Bool
  /-- Another bracket may be opened. -/
  opens : Bool
  /-- A value inside of an optional one. -/
  inside : Scanner Unit
  /-- A value between brackets. -/
  item : Scanner Unit

/-- Takes items between brackets if another bracket may be opened. -/
def Nesting.bracketed (nesting : Nesting) (opening closing : Char) (item : Scanner Unit) :
    Scanner Unit := do
  check (nesting.opens = true)
  let _ ← Scanner.bracketed opening closing item

/-- Takes a key and its value, separated by a colon. -/
def pair (key value : Scanner Unit) : Scanner Unit := do
  key
  skipBlank
  expect ":"
  skipBlank
  value

/-- The text goes on with a word and a colon. -/
def namesField : Scanner Bool := fun s =>
  match (do expect "("; skipBlank; let _ ← word; skipBlank; next).result? s with
  | none => some (false, s)
  | some c => some (c = ':', s)

/-- Takes what stands in round brackets: named fields or plain values. -/
def Nesting.group (nesting : Nesting) : Scanner Unit := do
  if ← namesField then
    nesting.bracketed '(' ')' (pair (do let _ ← word) nesting.item)
  else
    nesting.bracketed '(' ')' nesting.item

/-- Takes an optional value behind its name. -/
def Nesting.option (nesting : Nesting) : Scanner Unit := do
  skipBlank
  if ← accept "(" then
    skipBlank
    nesting.inside
    let _ ← comma
    expect ")"
  else
    check (nesting.impliedOptions = true)
    nesting.inside

/-- Takes an integer that fits into 64 bits. -/
def machineInteger : Scanner Unit := do
  if (← peek?) = some '+' ∨ (← peek?) = some '-' then
    let k ← integer
    check (-Int.pow 2 63 ≤ k ∧ k < Int.pow 2 63)
  else
    let k ← natural
    check (k < Nat.pow 2 64)

/-- Takes a number: a real one if more octets belong to it than to an integer, or if the integer is
too large. -/
def number : Scanner Unit := do
  let (_, unsigned) := Decimal.splitSign (← get)
  let realLength := (unsigned.takeWhile isRealChar).length
  let integerLength := (unsigned.takeWhile isIntegerChar).length
  if integerLength < realLength then
    let _ ← real
  else
    machineInteger <|> (do let _ ← real)

/-- Takes one of the words that stand for a value, and tells whether there was one. -/
def fixedWord : Scanner Bool :=
  acceptWord "true" <||> acceptWord "false" <||> acceptWord "None" <||> accept "()" <||>
    acceptWord "inf" <||> acceptWord "-inf" <||> acceptWord "NaN"

/-- Takes a value that starts with an octet that starts no word. -/
def Nesting.marked (nesting : Nesting) : Scanner Unit := do
  match ← peek? with
  | some '(' => nesting.group
  | some '[' => nesting.bracketed '[' ']' nesting.item
  | some '\x7b' => nesting.bracketed '\x7b' '\x7d' (pair nesting.item nesting.item)
  | some '.' => let _ ← real
  | some '"' => do expect "\""; quotedText
  | some 'r' => do expect "r"; rawText
  | some '\'' => do expect "'"; quotedChar
  | some c =>
    check (c.isDigit = true ∨ c = '+' ∨ c = '-')
    number
  | none => failure

/-- Takes a word, and what stands in round brackets behind it. -/
def Nesting.named (nesting : Nesting) : Scanner Unit := do
  let _ ← word
  skipBlank
  if (← peek?) = some '(' then nesting.group

/-- The text starts with a word. -/
def atAnyWord : Scanner Bool := fun s =>
  some ((word.result? s).isSome, s)

/-- Takes any value. -/
def Nesting.value (nesting : Nesting) : Scanner Unit := do
  if ← atWord "Some" then
    expect "Some"
    nesting.option
  else if ← fixedWord then
    return
  else if ← atAnyWord then
    nesting.named
  else
    nesting.marked

/-- Takes any value that opens at most so many levels. -/
def skipValue (impliedOptions : Bool) : Nat → Scanner Unit
  | 0 => Nesting.value { impliedOptions, opens := false, inside := failure, item := failure }
  | 1 => Nesting.value
      { impliedOptions, opens := true, inside := skipValue impliedOptions 0, item := failure }
  | depth + 2 => Nesting.value
      { impliedOptions, opens := true, inside := skipValue impliedOptions (depth + 1)
        item := skipValue impliedOptions depth }

end Complementarity.Scanner
