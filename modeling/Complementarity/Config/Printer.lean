import Complementarity.Config.Field
import Complementarity.Config.Tree
import Complementarity.Decimal.Layout
import Complementarity.Error

/-!
Configurations as text.

A node is written as its name and, in round brackets, its fields; a parameter list in square
brackets. What lies in the first eight levels of brackets has a line of its own, indented by the
level; what lies deeper stays on one line.
-/

namespace Complementarity

namespace Printer

/-- Brackets nested more deeply than this are written on one line. -/
def depthLimit : Nat := 8

/-- The space in front of a line at a level. -/
def indent (level : Nat) : List Char :=
  List.replicate (4 * level) ' '

/-- Items between brackets. -/
def bracketed (level : Nat) (opening closing : Char) (items : List (List Char)) : List Char :=
  if items = [] then
    [opening, closing]
  else if level ≤ depthLimit then
    opening :: '\n' :: (items.flatMap fun item => indent level ++ item ++ [',', '\n']) ++
      indent (level - 1) ++ [closing]
  else
    opening :: [',', ' '].intercalate items ++ [closing]

/-- A truth value. -/
def truth (b : Bool) : List Char :=
  if b then "true".toList else "false".toList

/-- The digits of a real number; a whole number gets a point and a zero. -/
def wholeMarked (d : Decimal) : List Char :=
  Decimal.positionalChars d ++ if 0 ≤ d.exponent then ['.', '0'] else []

/-- A real number, never with an exponent. -/
def real (x : Float) : List Char :=
  Decimal.textWith wholeMarked (.ofFloat x)

/-- An integer. -/
def integer (k : Int32) : List Char :=
  Decimal.integerChars k.toInt

/-- A field with its value. -/
def entry (field : Field) (value : List Char) : List Char :=
  field.name.toList ++ ':' :: ' ' :: value

/-- A node at a level, with the text of its internal configuration. -/
def node (level : Nat) (node : Node Float) (internal : List Char) : List Char :=
  nodeName.toList ++ bracketed level '(' ')'
    [entry .solver node.solver.name.toList,
      entry .isSet (truth node.isSet),
      entry .verbosity (Decimal.digitChars node.verbosity.toNat),
      entry .integers (bracketed (level + 1) '[' ']' (node.integers.map integer)),
      entry .reals (bracketed (level + 1) '[' ']' (node.reals.map real)),
      entry .internal internal]

/-- A configuration whose outermost brackets are at a level. -/
def tree : Nat → ConfigTree Float → List Char
  | level, .leaf top => node level top "None".toList
  | level, .above top internal =>
    node level top ("Some(".toList ++ tree (level + 1) internal ++ [')'])

end Printer

/-- The text of a configuration, unless it is nested too deeply. -/
def ConfigTree.toText (tree : ConfigTree Float) : Except LoadError String :=
  if tree.links ≤ linkLimit then .ok (String.ofList (Printer.tree 1 tree)) else .error .serialize

/-- What is left in a file after a configuration has been saved, if the file can be written. -/
def ConfigTree.save (tree : ConfigTree Float) (writable : Bool) : Except LoadError String :=
  if writable then tree.toText else .error .file

end Complementarity
