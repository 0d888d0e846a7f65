import Complementarity.Proofs.ScannedValues

/-!
Written configurations are read back.

A node is read field by field, with a reader for the internal configuration that the recursion
provides, so one lemma (`nodeWith_append`) serves every level. The text of a configuration may be
followed by anything.
-/

namespace Complementarity

namespace Printer

/-- The fields of a node as they are written between the brackets. -/
def fieldTexts (level : Nat) (top : Node Float) (internalText : List Char) : List (List Char) :=
  [entry .solver top.solver.name.toList,
    entry .isSet (truth top.isSet),
    entry .verbosity (Decimal.digitChars top.verbosity.toNat),
    entry .integers (bracketed (level + 1) '[' ']' (top.integers.map integer)),
    entry .reals (bracketed (level + 1) '[' ']' (top.reals.map real)),
    entry .internal internalText]

theorem node_eq (level : Nat) (top : Node Float) (internalText : List Char) :
    node level top internalText =
      nodeName.toList ++ bracketed level '(' ')' (fieldTexts level top internalText) :=
  rfl

end Printer

/-- The entries of a node above an optional configuration, in the order they are written in. -/
def Node.entries (top : Node Float) (internal? : Option (ConfigTree Float)) : List Entry :=
  [.solver top.solver, .isSet top.isSet, .verbosity top.verbosity, .integers top.integers,
    .reals top.reals, .internal internal?]

theorem Node.ofEntries?_entries (top : Node Float) (internal? : Option (ConfigTree Float)) :
    ConfigTree.ofEntries? (top.entries internal?) = some (ConfigTree.ofNode top internal?) :=
  rfl

namespace Scanner

variable {α β : Type}

theorem IsItem.map {item : Scanner α} {text : List Char} {value : α} (h : IsItem item text value)
    (f : α → β) : IsItem (do return f (← item)) text (f value) :=
  ⟨h.starts, h.reads.map f⟩

/-- A list in square brackets is an item itself. -/
theorem isItem_bracketed {item : Scanner α} {write : α → List Char}
    (h : ∀ value, IsItem item (write value) value) (level : Nat) (values : List α) :
    IsItem (bracketed '[' ']' item) (Printer.bracketed level '[' ']' (values.map write))
      values := by
  have hitems : List.Forall₂ (IsItem item) (values.map write) values := by
    rw [List.forall₂_map_left_iff]
    exact List.forall₂_same.mpr fun value _ => h value
  refine ⟨?_, fun rest _ => Printer.bracketed_append (by decide) hitems level rest⟩
  obtain ⟨gap, s, heq, -, -⟩ := Printer.exists_listed level '[' ']' (values.map write)
  exact ⟨'[', gap ++ s, heq, by decide⟩

/-! ### Fields -/

theorem isName_field (field : Field) : IsName field.name.toList := by
  cases field <;> exact ⟨by decide, by decide, by decide⟩

theorem ofName?_field (field : Field) : Field.ofName? field.name = some field := by
  cases field <;> decide

variable {impliedOptions : Bool} {inner : Scanner (ConfigTree Float)} {anyValue : Scanner Unit}

/-- A field is read with its value. -/
theorem isItem_entry {field : Field} {text : List Char} {found : Entry}
    (h : IsItem (fieldValue impliedOptions inner anyValue (some field)) text found) :
    IsItem (entry impliedOptions inner anyValue) (Printer.entry field text) found := by
  constructor
  · refine StartsWithout.append ?_ _
    cases field <;> exact ⟨_, _, rfl, by decide⟩
  · intro rest hrest
    have hname : word (field.name.toList ++ ':' :: ' ' :: (text ++ rest)) =
        some (field.name.toList, ':' :: ' ' :: (text ++ rest)) :=
      word_append (isName_field field) (by simp [isMarkedChar, isWordChar])
    have hcolon : StartsWithout blanks (':' :: ' ' :: (text ++ rest)) := ⟨':', _, rfl, by decide⟩
    have hexpect : expect ":" (':' :: ' ' :: (text ++ rest)) = some ((), ' ' :: (text ++ rest)) :=
      rfl
    have hgap : IsBlank [' '] := by simp [IsBlank]
    have hblank : skipBlank (' ' :: (text ++ rest)) = some ((), text ++ rest) :=
      skipBlank_append hgap (h.startsWithout.append rest)
    rw [Printer.entry, List.append_assoc, List.cons_append, List.cons_append, entry,
      bind_of_eq hname, bind_of_eq (skipBlank_eq hcolon), bind_of_eq hexpect, bind_of_eq hblank,
      String.ofList_toList, ofName?_field]
    exact h.reads rest hrest

/-! ### Internal configurations -/

theorem isItem_none : IsItem (optionalTree impliedOptions inner) "None".toList none := by
  refine ⟨⟨'N', _, rfl, by decide⟩, fun rest _ => ?_⟩
  rw [optionalTree, bind_of_eq (accept_append "None" rest)]
  rfl

/-- An internal configuration is read behind its mark. -/
theorem isItem_some {text : List Char} {internal : ConfigTree Float}
    (hstarts : StartsWithout blanks text)
    (h : ∀ rest, inner (text ++ rest) = some (internal, rest)) :
    IsItem (optionalTree impliedOptions inner) ("Some(".toList ++ text ++ [')'])
      (some internal) := by
  refine ⟨⟨'S', _, rfl, by decide⟩, fun rest _ => ?_⟩
  have htext : "Some(".toList ++ text ++ [')'] ++ rest =
      "Some".toList ++ '(' :: (text ++ ')' :: rest) := by simp
  have hnone : accept "None" ("Some".toList ++ '(' :: (text ++ ')' :: rest)) =
      some (false, "Some".toList ++ '(' :: (text ++ ')' :: rest)) :=
    accept_of_none rfl
  have hopening : StartsWithout blanks ('(' :: (text ++ ')' :: rest)) := ⟨'(', _, rfl, by decide⟩
  have haccept : accept "(" ('(' :: (text ++ ')' :: rest)) = some (true, text ++ ')' :: rest) := rfl
  have hcomma : comma (')' :: rest) = some (false, ')' :: rest) := comma_closing (by decide) rest
  have hclosing : expect ")" (')' :: rest) = some ((), rest) := rfl
  rw [htext, optionalTree, bind_of_eq hnone, if_neg Bool.false_ne_true,
    bind_of_eq (accept_append "Some" _), if_pos rfl, bind_of_eq (skipBlank_eq hopening),
    bind_of_eq haccept, if_pos rfl, bind_of_eq (skipBlank_eq (hstarts.append _)),
    bind_of_eq (h _), bind_of_eq hcomma, bind_of_eq hclosing]
  rfl

/-! ### Nodes and configurations -/

theorem optionalNodeName_append {rest : List Char} (hrest : rest.head?.any isMarkedChar = false) :
    optionalNodeName (nodeName.toList ++ rest) = some ((), rest) := by
  have hname : IsName nodeName.toList := ⟨by decide, by decide, by decide⟩
  have hstarts : (nodeName.toList ++ rest).head?.any isWordChar = true := rfl
  rw [optionalNodeName, bind_of_eq (peek?_eq _), if_pos hstarts,
    bind_of_eq (word_append hname hrest), String.ofList_toList, check_of_true rfl]

theorem forall₂_fieldTexts (top : Node Float) {internalText : List Char}
    {internal? : Option (ConfigTree Float)}
    (h : IsItem (optionalTree impliedOptions inner) internalText internal?) (level : Nat) :
    List.Forall₂ (IsItem (entry impliedOptions inner anyValue))
      (Printer.fieldTexts level top internalText)
      (top.entries internal?) := by
  refine .cons ?_ (.cons ?_ (.cons ?_ (.cons ?_ (.cons ?_ (.cons ?_ .nil)))))
  · exact isItem_entry ((isItem_solverId top.solver).map Entry.solver)
  · exact isItem_entry ((isItem_truth top.isSet).map Entry.isSet)
  · exact isItem_entry ((isItem_verbosity top.verbosity).map Entry.verbosity)
  · exact isItem_entry
      ((isItem_bracketed isItem_integerParameter _ top.integers).map Entry.integers)
  · exact isItem_entry ((isItem_bracketed isItem_real _ top.reals).map Entry.reals)
  · exact isItem_entry (h.map Entry.internal)

/-- A node is read, whatever its internal configuration is. -/
theorem nodeWith_append (top : Node Float) {internalText : List Char}
    {internal? : Option (ConfigTree Float)}
    (h : IsItem (optionalTree impliedOptions inner) internalText internal?) (level : Nat)
    (rest : List Char) :
    nodeWith impliedOptions inner anyValue (Printer.node level top internalText ++ rest) =
      some (ConfigTree.ofNode top internal?, rest) := by
  have hfields : bracketed '(' ')' (entry impliedOptions inner anyValue)
      (Printer.bracketed level '(' ')' (Printer.fieldTexts level top internalText) ++ rest) =
        some (top.entries internal?, rest) :=
    Printer.bracketed_append (by decide) (forall₂_fieldTexts top h level) level rest
  rw [Printer.node_eq, List.append_assoc]
  obtain ⟨gap, s, heq, -, -⟩ :=
    Printer.exists_listed level '(' ')' (Printer.fieldTexts level top internalText)
  rw [heq] at hfields ⊢
  have hname : optionalNodeName (nodeName.toList ++ ('(' :: (gap ++ s) ++ rest)) =
      some ((), '(' :: (gap ++ s) ++ rest) :=
    optionalNodeName_append rfl
  have hblank : skipBlank ('(' :: (gap ++ s) ++ rest) = some ((), '(' :: (gap ++ s) ++ rest) :=
    skipBlank_eq ⟨'(', _, rfl, by decide⟩
  rw [nodeWith, bind_of_eq hname, bind_of_eq hblank, bind_of_eq hfields,
    Node.ofEntries?_entries]
  rfl

theorem startsWithout_tree (level : Nat) (t : ConfigTree Float) :
    StartsWithout ('#' :: blanks) (Printer.tree level t) := by
  cases t <;> exact ⟨_, _, rfl, by decide⟩

/-- A configuration that is not nested too deeply is read. -/
theorem tree_append (t : ConfigTree Float) {limit : Nat} (h : t.links ≤ limit) (level : Nat)
    (rest : List Char) :
    tree impliedOptions limit (Printer.tree level t ++ rest) = some (t, rest) := by
  induction t generalizing limit level rest with
  | leaf top =>
    cases limit with
    | zero => exact nodeWith_append top isItem_none level rest
    | succ limit => exact nodeWith_append top isItem_none level rest
  | above top internal ih =>
    obtain ⟨limit, rfl⟩ := Nat.exists_eq_add_one_of_ne_zero (Nat.ne_of_gt (Nat.zero_lt_of_lt h))
    have hstarts : StartsWithout blanks (Printer.tree (level + 1) internal) :=
      (startsWithout_tree _ internal).mono fun _ hc => List.mem_cons_of_mem _ hc
    exact nodeWith_append top (isItem_some hstarts (ih (Nat.le_of_succ_le_succ h) (level + 1)))
      level rest

/-- The text of a configuration is read as a whole. -/
theorem document_tree {t : ConfigTree Float} (h : t.links ≤ linkLimit) :
    document (Printer.tree 1 t) = some (t, []) := by
  have hstarts := startsWithout_tree 1 t
  have hblank := skipBlank_eq (hstarts.mono fun _ hc => List.mem_cons_of_mem _ hc)
  have hattributes (fuel : Nat) : leadingAttributes (fuel + 1) (Printer.tree 1 t) =
      some (false, Printer.tree 1 t) := by
    obtain ⟨c, s, hs, hc⟩ := hstarts
    have hsharp : (Printer.tree 1 t).head? ≠ some '#' := by
      rw [hs]
      rintro ⟨⟩
      exact hc (List.mem_cons_self ..)
    rw [leadingAttributes, bind_of_eq (peek?_eq _), if_neg hsharp]
    rfl
  have htree : tree false linkLimit (Printer.tree 1 t) = some (t, []) := by
    simpa using tree_append t h 1 []
  have hend : skipBlank [] = some ((), []) := rfl
  have hfinish : finish [] = some ((), []) := rfl
  rw [document, bind_of_eq hblank, bind_of_eq (get_eq _), bind_of_eq (hattributes _),
    bind_of_eq htree, bind_of_eq hend, bind_of_eq hfinish]
  rfl

end Scanner

end Complementarity
