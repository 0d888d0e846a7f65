import Complementarity.Text.Unshowable

/-!
Quoted text.

A quoted text shows each of its characters unambiguously: quotes and backslashes stand behind a
backslash, a few controls have a letter, and whatever cannot be shown is given by its number.
-/

namespace Complementarity.Quoted

/-- The letter that stands behind the backslash for a character. -/
def letter? : Char → Option Char
  | '"' => some '"'
  | '\\' => some '\\'
  | '\n' => some 'n'
  | '\r' => some 'r'
  | '\t' => some 't'
  | '\x00' => some '0'
  | _ => none

/-- A character by its number in lower-case hexadecimal digits. -/
def numbered (c : Char) : List Char :=
  ['\\', 'u', '\x7b'] ++ Nat.toDigits 16 c.toNat ++ ['\x7d']

/-- One character between quotes. -/
def encodeChar (c : Char) : List Char :=
  match letter? c with
  | some letter => ['\\', letter]
  | none => if IsUnshowable c then numbered c else [c]

/-- A text between quotes. -/
def encode (text : String) : String :=
  String.ofList ('"' :: text.toList.flatMap encodeChar ++ ['"'])

end Complementarity.Quoted
