import Complementarity.Config.Field
import Complementarity.Config.Builder
import Complementarity.Syntax.Skipped

/-!
Configurations from text.

The fields of a node may come in any order, each of them once; unknown ones are skipped. All but the
internal configuration are required. Attributes in front may allow that a configuration stands
without the name that marks an optional value.
-/

namespace Complementarity

/-- One field of a node as it was read. -/
inductive Entry where
  | solver (solver : SolverId)
  | isSet (isSet : Bool)
  | verbosity (verbosity : UInt8)
  | integers (integers : List Int32)
  | reals (reals : List Float)
  | internal (internal? : Option (ConfigTree Float))
  | unknown

namespace Entry

/-- The value of the only entry that a pattern picks out, unless there is none or another one. -/
def only? {α : Type} (pick : Entry → Option α) (entries : List Entry) : Option α :=
  match entries.filterMap pick with
  | [a] => some a
  | _ => none

/-- The algorithm that an entry names. -/
def solver? : Entry → Option SolverId
  | solver value => some value
  | _ => none

/-- The mark that an entry holds. -/
def isSet? : Entry → Option Bool
  | isSet value => some value
  | _ => none

/-- The verbosity that an entry holds. -/
def verbosity? : Entry → Option UInt8
  | verbosity value => some value
  | _ => none

/-- The integers that an entry holds. -/
def integers? : Entry → Option (List Int32)
  | integers value => some value
  | _ => none

/-- The reals that an entry holds. -/
def reals? : Entry → Option (List Float)
  | reals value => some value
  | _ => none

/-- The internal configuration that an entry holds. -/
def internal? : Entry → Option (Option (ConfigTree Float))
  | internal value => some value
  | _ => none

/-- The internal configuration among the entries, `none` if no entry speaks of it. -/
def onlyInternal? (entries : List Entry) : Option (Option (ConfigTree Float)) :=
  match entries.filterMap internal? with
  | [] => some none
  | [internal?] => some internal?
  | _ => none

end Entry

/-- The configuration that the entries of a node describe. -/
def ConfigTree.ofEntries? (entries : List Entry) : Option (ConfigTree Float) := do
  let solver ← Entry.only? Entry.solver? entries
  let isSet ← Entry.only? Entry.isSet? entries
  let verbosity ← Entry.only? Entry.verbosity? entries
  let integers ← Entry.only? Entry.integers? entries
  let reals ← Entry.only? Entry.reals? entries
  let internal? ← Entry.onlyInternal? entries
  return ConfigTree.ofNode { solver, isSet, verbosity, integers, reals } internal?

namespace Scanner

/-- Takes the name of an algorithm. -/
def solverId : Scanner SolverId := do
  ofOption (SolverId.ofName? (String.ofList (← word)))

/-- Takes a truth value. -/
def truth : Scanner Bool := do
  if ← acceptWord "true" then
    return true
  else
    let found ← acceptWord "false"
    check found
    return false

/-- Takes a verbosity. -/
def verbosity : Scanner UInt8 := do
  let k ← natural
  check (k < UInt8.size)
  return UInt8.ofNat k

/-- Takes an integer parameter. -/
def integerParameter : Scanner Int32 := do
  let k ← integer
  check (Int32.minValue.toInt ≤ k ∧ k ≤ Int32.maxValue.toInt)
  return Int32.ofInt k

/-- Takes an optional configuration. Its mark may run into the configuration that it marks. -/
def optionalTree (impliedOptions : Bool) (tree : Scanner (ConfigTree Float)) :
    Scanner (Option (ConfigTree Float)) := do
  if ← accept "None" then
    return none
  else if ← accept "Some" then
    skipBlank
    if ← accept "(" then
      skipBlank
      let internal ← tree
      let _ ← comma
      expect ")"
      return some internal
    else
      check (impliedOptions = true)
      return some (← tree)
  else
    check (impliedOptions = true)
    return some (← tree)

/-- Takes the value of a field. -/
def fieldValue (impliedOptions : Bool) (tree : Scanner (ConfigTree Float))
    (anyValue : Scanner Unit) : Option Field → Scanner Entry
  | some .solver => return .solver (← solverId)
  | some .isSet => return .isSet (← truth)
  | some .verbosity => return .verbosity (← verbosity)
  | some .integers => return .integers (← bracketed '[' ']' integerParameter)
  | some .reals => return .reals (← bracketed '[' ']' real)
  | some .internal => return .internal (← optionalTree impliedOptions tree)
  | none => do
    anyValue
    return .unknown

/-- Takes a field with its value. -/
def entry (impliedOptions : Bool) (tree : Scanner (ConfigTree Float)) (anyValue : Scanner Unit) :
    Scanner Entry := do
  let name ← word
  skipBlank
  expect ":"
  skipBlank
  fieldValue impliedOptions tree anyValue (Field.ofName? (String.ofList name))

/-- Takes the name of a node if there is one. -/
def optionalNodeName : Scanner Unit := do
  if (← peek?).any isWordChar then
    let name ← word
    check (String.ofList name = nodeName)

/-- Takes a node with readers for what stands inside of it. -/
def nodeWith (impliedOptions : Bool) (tree : Scanner (ConfigTree Float))
    (anyValue : Scanner Unit) : Scanner (ConfigTree Float) := do
  optionalNodeName
  skipBlank
  let entries ← bracketed '(' ')' (entry impliedOptions tree anyValue)
  ofOption (ConfigTree.ofEntries? entries)

/-- Takes a configuration with at most so many nodes below the outermost one. Each of them takes
three levels of nesting, and values that are skipped may use what is left. -/
def tree (impliedOptions : Bool) : Nat → Scanner (ConfigTree Float)
  | 0 => nodeWith impliedOptions failure (skipValue impliedOptions 3)
  | links + 1 =>
    nodeWith impliedOptions (tree impliedOptions links)
      (skipValue impliedOptions (3 * links + 6))

/-- The attribute that lets a configuration stand without `Some`. -/
def impliedOptionsName : String := "implicit_some"

/-- The names that an attribute may hold. -/
def attributeNames : List String :=
  ["unwrap_newtypes", impliedOptionsName, "unwrap_variant_newtypes"]

/-- Takes marks with space behind each of them. -/
def spaced : List String → Scanner Unit
  | [] => pure ()
  | mark :: marks => do
    expect mark
    skipBlank
    spaced marks

/-- Takes an attribute, and tells whether it implies options. -/
def leadingAttribute : Scanner Bool := do
  spaced ["#", "!", "[", "enable", "("]
  let names ← items ')' (String.ofList <$> word)
  check (names ≠ [] ∧ ∀ name ∈ names, name ∈ attributeNames)
  spaced [")", "]"]
  return names.contains impliedOptionsName

/-- Takes attributes, and tells whether one of them implies options. -/
def leadingAttributes : Nat → Scanner Bool
  | 0 => failure
  | fuel + 1 => do
    if (← peek?) = some '#' then
      let here ← leadingAttribute
      let later ← leadingAttributes fuel
      return here || later
    else
      return false

/-- Takes a whole configuration text. -/
def document : Scanner (ConfigTree Float) := do
  skipBlank
  let impliedOptions ← leadingAttributes ((← get).length + 1)
  let found ← tree impliedOptions linkLimit
  skipBlank
  finish
  return found

end Scanner

namespace ConfigTree

/-- The configuration that octets describe. -/
def ofOctets (s : List Char) : Except LoadError (ConfigTree Float) :=
  match Scanner.document.result? s with
  | some tree => .ok tree
  | none => .error .parse

/-- The configuration that a text describes. -/
def ofText (text : String) : Except LoadError (ConfigTree Float) :=
  ofOctets (octets text)

/-- The configuration in a file with the given octets, if the file can be read. -/
def load (file? : Option (List Char)) : Except LoadError (ConfigTree Float) :=
  match file? with
  | some s => ofOctets s
  | none => .error .file

/-- The configuration in a file, completed and checked. -/
def loadValidated (file? : Option (List Char)) : Except (Error Float) (ConfigTree Float) := do
  (← (load file?).mapError .loadConfig).completed

end ConfigTree

end Complementarity
