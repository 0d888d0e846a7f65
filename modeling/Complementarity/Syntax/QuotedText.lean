import Complementarity.Syntax.Numeral

/-!
Quoted texts and characters inside of a configuration text.

Only their extent matters, and that they are well formed: their octets, with escapes replaced, must
be valid UTF-8.
-/

namespace Complementarity.Scanner

/-- The octets of a character. -/
def encoded (c : Char) : List Char :=
  octets c.toString

/-- Takes the digits of a character number, which stand between braces. -/
def numberedChar : Scanner Char := do
  check ((← next) = '\x7b')
  let digits ← takeWhile fun c => (hexDigit? c).isSome
  check (digits ≠ [] ∧ digits.length ≤ 6)
  check ((← next) = '\x7d')
  let number ← ofOption (digitsValue? 16 digits)
  check number.isValidChar
  return Char.ofNat number

/-- Takes what follows the backslash of an escape. -/
def escape : Scanner Char := do
  match ← next with
  | '\'' => return '\''
  | '"' => return '"'
  | '\\' => return '\\'
  | 'n' => return '\n'
  | 'r' => return '\r'
  | 't' => return '\t'
  | '0' => return '\x00'
  | 'x' =>
    let high ← ofOption (hexDigit? (← next))
    let low ← ofOption (hexDigit? (← next))
    return Char.ofNat (16 * high + low)
  | 'u' => numberedChar
  | _ => failure

/-- Takes a quoted text behind its first quote and returns its octets. The fuel bounds its length. -/
def quotedWithin : Nat → Scanner (List Char)
  | 0 => failure
  | fuel + 1 => do
    match ← next with
    | '"' => return []
    | '\\' => return encoded (← escape) ++ (← quotedWithin fuel)
    | c => return c :: (← quotedWithin fuel)

/-- Takes a quoted text behind its first quote. -/
def quotedText : Scanner Unit := do
  let content ← quotedWithin ((← get).length + 1)
  check (isValidUtf8 content = true)

/-- Splits a text at the first place where a mark stands, and removes the mark. -/
def splitAt? (mark : List Char) : List Char → Option (List Char × List Char)
  | [] => none
  | c :: s =>
    match mark.isPrefixOf? (c :: s) with
    | some rest => some ([], rest)
    | none => (splitAt? mark s).map fun (before, rest) => (c :: before, rest)

/-- Takes a raw text behind its `r`: hashes and a quote, up to a quote and as many hashes. -/
def rawText : Scanner Unit := do
  let hashes ← takeWhile (· == '#')
  expect "\""
  let (content, rest) ← ofOption (splitAt? ('"' :: hashes) (← get))
  check (isValidUtf8 content = true)
  set rest

/-- Takes the octets of one character in front of the closing quote. -/
def plainChar : Scanner Unit := do
  let content := ((← get).take 5).takeWhile (· != '\'')
  let text := String.fromUTF8? ⟨(content.map fun c => UInt8.ofNat c.toNat).toArray⟩
  check (text.map String.length = some 1)
  modify (·.drop content.length)

/-- Takes a character behind its first quote. -/
def quotedChar : Scanner Unit := do
  if ← accept "\\" then
    let _ ← escape
  else
    plainChar
  expect "'"

end Complementarity.Scanner
