/-!
Reading a text from the front.

A scanner takes something off the front of a text and leaves the rest, or refuses the text. Texts are
read octet by octet, each octet as the character of its number, so that a text need not be valid
UTF-8 to be read.
-/

namespace Complementarity

/-- The octets of a text, each as the character of its number. -/
def octets (text : String) : List Char :=
  text.toUTF8.data.toList.map fun octet => Char.ofNat octet.toNat

/-- The octets are valid UTF-8. -/
def isValidUtf8 (s : List Char) : Bool :=
  (String.fromUTF8? ⟨(s.map fun c => UInt8.ofNat c.toNat).toArray⟩).isSome

/-- Takes something off the front of a text, or refuses it. -/
abbrev Scanner := StateT (List Char) Option

namespace Scanner

/-- Refuses the text unless the condition holds. -/
def check (condition : Prop) [Decidable condition] : Scanner Unit :=
  if condition then pure () else failure

/-- Refuses the text if there is no value. -/
def ofOption {α : Type} : Option α → Scanner α
  | some a => pure a
  | none => failure

/-- The next octet, left in place. -/
def peek? : Scanner (Option Char) := do
  return (← get).head?

/-- Takes the next octet. -/
def next : Scanner Char := fun
  | [] => none
  | c :: s => some (c, s)

/-- Takes the octets up to the first one without the property. -/
def takeWhile (p : Char → Bool) : Scanner (List Char) := fun s =>
  some (s.takeWhile p, s.dropWhile p)

/-- Takes a literal if the text starts with it, and tells whether it did. -/
def accept (literal : String) : Scanner Bool := fun s =>
  match literal.toList.isPrefixOf? s with
  | some rest => some (true, rest)
  | none => some (false, s)

/-- Takes a literal, with which the text must start. -/
def expect (literal : String) : Scanner Unit := do
  let found ← accept literal
  check found

/-- The end of the text. -/
def finish : Scanner Unit := do
  check ((← peek?) = none)

/-- What a scanner finds in a whole text. -/
def result? {α : Type} (scanner : Scanner α) (s : List Char) : Option α :=
  scanner.run' s

end Scanner

end Complementarity
