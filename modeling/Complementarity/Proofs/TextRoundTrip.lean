import Complementarity.Proofs.ConfigGrammar
import Complementarity.Proofs.ConfigTexts

/-!
Configuration texts keep what was written.

A configuration that can be written is read back as it was (`toText_roundTrip`), and its text names
the algorithms of its nodes and no others. `Shows` says what a part of a text contributes to the
names, and goes along the layout of the text just as the reader does.
-/

namespace Complementarity

namespace Printer

open Scanner (Listed IsBlank isWordChar)

/-! ### Named algorithms -/

/-- What stands in front of the name of an algorithm. -/
def solverMark : List Char :=
  entry .solver []

/-- The words that stand behind such a mark. -/
def namedSolvers : List Char → List (List Char)
  | [] => []
  | c :: s =>
    match solverMark.isPrefixOf? (c :: s) with
    | some rest => rest.takeWhile isWordChar :: namedSolvers s
    | none => namedSolvers s

/-- The character is a single octet of a text, and no mark starts with it. -/
def isQuiet (c : Char) : Bool :=
  c.toNat < 128 && c != 's'

/-- A part of a text whose characters are single octets, and that names these algorithms if no word
goes on behind it. -/
structure Shows (text : List Char) (names : List (List Char)) : Prop where
  ascii : ∀ c ∈ text, c.toNat < 128
  named : ∀ rest, rest.head?.any isWordChar = false →
    namedSolvers (text ++ rest) = names ++ namedSolvers rest

theorem namedSolvers_quiet {text : List Char} (h : text.all isQuiet = true) (rest : List Char) :
    namedSolvers (text ++ rest) = namedSolvers rest := by
  induction text with
  | nil => rfl
  | cons c text ih =>
    simp only [List.all_cons, Bool.and_eq_true, isQuiet, bne_iff_ne] at h
    have hmark : solverMark.isPrefixOf? (c :: (text ++ rest)) = none := by
      simp [solverMark, entry, Field.name, Scanner.isPrefixOf?_cons, h.1.2.symm]
    rw [List.cons_append, namedSolvers, hmark]
    exact ih h.2

theorem shows_quiet {text : List Char} (h : text.all isQuiet = true) : Shows text [] := by
  refine ⟨fun c hc => ?_, fun rest _ => namedSolvers_quiet h rest⟩
  have hquiet := List.all_eq_true.mp h c hc
  simp only [isQuiet, Bool.and_eq_true, decide_eq_true_eq] at hquiet
  exact hquiet.1

theorem Shows.quiet_append {quiet text : List Char} {names : List (List Char)}
    (hquiet : quiet.all isQuiet = true) (h : Shows text names) : Shows (quiet ++ text) names := by
  constructor
  · exact List.forall_mem_append.mpr ⟨(shows_quiet hquiet).ascii, h.ascii⟩
  · intro rest hrest
    rw [List.append_assoc, namedSolvers_quiet hquiet, h.named rest hrest]

/-- Behind a part of a text, another one goes on if it does not start with a word. -/
theorem Shows.append {text later : List Char} {names laterNames : List (List Char)}
    (h : Shows text names) (hlater : Shows later laterNames) (hne : later ≠ [])
    (hstarts : later.head?.any isWordChar = false) :
    Shows (text ++ later) (names ++ laterNames) := by
  constructor
  · exact List.forall_mem_append.mpr ⟨h.ascii, hlater.ascii⟩
  · intro rest hrest
    have hhead : (later ++ rest).head?.any isWordChar = false := by
      rw [List.head?_append_of_ne_nil _ hne]
      exact hstarts
    rw [List.append_assoc, h.named _ hhead, hlater.named rest hrest, List.append_assoc]

/-! ### Values -/

theorem quiet_digits {s : List Char} (h : AreDigits s) : s.all isQuiet = true := by
  refine List.all_eq_true.mpr fun c hc => ?_
  have hdigit := h c hc
  have hne : c ≠ 's' := (ne_of_isDigit hdigit (by decide)).symm
  have hle : c.toNat ≤ 57 := (Char.isDigit_iff_toNat.mp hdigit).2
  simp only [isQuiet, Bool.and_eq_true, decide_eq_true_eq, bne_iff_ne]
  exact ⟨by omega, hne⟩

theorem quiet_integer (k : Int32) : (integer k).all isQuiet = true := by
  have hdigits := quiet_digits (areDigits_digitChars k.toInt.natAbs)
  unfold integer Decimal.integerChars
  split
  · rw [List.all_cons, hdigits]
    rfl
  · exact hdigits

theorem quiet_real (x : Float) : (real x).all isQuiet = true := by
  unfold real
  cases Binary64.ofFloat x with
  | undefined => decide
  | infinite negative => cases negative <;> decide
  | finite negative units =>
    obtain ⟨-, -, -, -, hall⟩ := (Decimal.shortest units).exists_wholeMarked_eq
    have hnumber : (wholeMarked (Decimal.shortest units)).all isQuiet = true := by
      refine List.all_eq_true.mpr fun c hc => ?_
      rcases hall c hc with hdigit | rfl
      · have hone : [c].all isQuiet = true :=
          quiet_digits fun d hd => by rwa [List.mem_singleton.mp hd]
        simpa using hone
      · decide
    rw [Decimal.textWith, List.all_append, hnumber]
    cases negative <;> rfl

theorem ascii_of_all {s : List Char} (h : (s.all fun c => c.toNat < 128) = true) :
    ∀ c ∈ s, c.toNat < 128 :=
  fun c hc => of_decide_eq_true (List.all_eq_true.mp h c hc)

theorem shows_truth (b : Bool) : Shows (truth b) [] := by
  cases b with
  | true => exact shows_quiet (by decide)
  | false => exact ⟨ascii_of_all (by decide), fun _ _ => rfl⟩

/-! ### Brackets and fields -/

theorem quiet_blank {gap : List Char} (h : IsBlank gap) : gap.all isQuiet = true := by
  refine List.all_eq_true.mpr fun c hc => ?_
  rcases h c hc with rfl | rfl
  · decide
  · decide

/-- What stands between brackets names what its items name. -/
theorem shows_listed {closing : Char} (hclosing : closing ∈ Scanner.closings)
    {texts : List (List Char)} {s : List Char} (h : Listed closing texts s)
    {found : List (List (List Char))} (hshows : List.Forall₂ Shows texts found) :
    Shows s found.flatten := by
  have hquiet : [closing].all isQuiet = true ∧ isWordChar closing = false := by
    rcases Scanner.eq_or_eq_of_mem_closings hclosing with rfl | rfl
    · decide
    · decide
  induction h generalizing found with
  | nil =>
    cases hshows
    exact shows_quiet hquiet.1
  | last text =>
    obtain _ | ⟨htext, ⟨⟩⟩ := hshows
    exact htext.append (shows_quiet hquiet.1) (List.cons_ne_nil _ _) hquiet.2
  | @cons text gap s texts hgap hlisted ih =>
    obtain _ | ⟨htext, hlater⟩ := hshows
    have hcomma : (',' :: gap).all isQuiet = true := by
      rw [List.all_cons, quiet_blank hgap]
      rfl
    exact htext.append ((ih hlater).quiet_append hcomma) (List.cons_ne_nil _ _) rfl

theorem shows_bracketed {opening closing : Char} (hopening : isQuiet opening = true)
    (hclosing : closing ∈ Scanner.closings) (level : Nat) {texts : List (List Char)}
    {found : List (List (List Char))} (hshows : List.Forall₂ Shows texts found) :
    Shows (bracketed level opening closing texts) found.flatten := by
  obtain ⟨gap, s, heq, hgap, hlisted⟩ := exists_listed level opening closing texts
  have hquiet : (opening :: gap).all isQuiet = true := by
    rw [List.all_cons, hopening, quiet_blank hgap]
    rfl
  rw [heq]
  exact (shows_listed hclosing hlisted hshows).quiet_append hquiet

/-- A field names what its value names, unless it is that of the algorithm. -/
theorem shows_entry {field : Field} (hne : field ≠ .solver) {text : List Char}
    {names : List (List Char)} (h : Shows text names) : Shows (entry field text) names := by
  constructor
  · have hname : ∀ c ∈ field.name.toList ++ [':', ' '], c.toNat < 128 := by
      cases field <;> exact ascii_of_all (by decide)
    have hsplit : entry field text = (field.name.toList ++ [':', ' ']) ++ text := by
      simp [entry]
    rw [hsplit]
    exact List.forall_mem_append.mpr ⟨hname, h.ascii⟩
  · intro rest hrest
    rw [← h.named rest hrest]
    cases field with
    | solver => exact absurd rfl hne
    | _ => rfl

theorem shows_solver (solver : SolverId) :
    Shows (entry .solver solver.name.toList) [solver.name.toList] := by
  have hname : solver.name.toList.all isQuiet = true := by
    cases solver <;> decide
  -- the mark starts with the only letter that is not quiet
  have hmark : solverMark = 's' :: "olver_id: ".toList := by decide
  have htail : ("olver_id: ".toList ++ solver.name.toList).all isQuiet = true := by
    rw [List.all_append, hname]
    decide
  have hentry : entry .solver solver.name.toList = solverMark ++ solver.name.toList := by
    simp [entry, solverMark]
  rw [hentry]
  constructor
  · exact List.forall_mem_append.mpr ⟨ascii_of_all (by decide), (shows_quiet hname).ascii⟩
  · intro rest hrest
    have hword : (solver.name.toList ++ rest).takeWhile isWordChar = solver.name.toList :=
      takeWhile_run (List.all_eq_true.mp (Scanner.isName_solver solver).all) hrest
    have hfound : solverMark.isPrefixOf?
        ('s' :: ("olver_id: ".toList ++ (solver.name.toList ++ rest))) =
          some (solver.name.toList ++ rest) := by
      rw [← List.cons_append, ← hmark]
      exact Scanner.isPrefixOf?_append _ _
    rw [List.append_assoc, hmark, List.cons_append, namedSolvers, hfound, ← List.append_assoc,
      namedSolvers_quiet htail]
    simp only [hword]
    rfl

/-! ### Nodes and configurations -/

/-- A list of numbers names nothing. -/
theorem shows_numbers {α : Type} {write : α → List Char}
    (h : ∀ value, (write value).all isQuiet = true) (level : Nat) (values : List α) :
    Shows (bracketed level '[' ']' (values.map write)) [] := by
  have hitems : List.Forall₂ Shows (values.map write) (values.map fun _ => []) := by
    rw [List.forall₂_map_left_iff, List.forall₂_map_right_iff]
    exact List.forall₂_same.mpr fun value _ => shows_quiet (h value)
  simpa using shows_bracketed (by decide) (by decide) level hitems

theorem shows_fieldTexts (level : Nat) (top : Node Float) {internalText : List Char}
    {names : List (List Char)} (h : Shows internalText names) :
    List.Forall₂ Shows (fieldTexts level top internalText)
      [[top.solver.name.toList], [], [], [], [], names] := by
  refine .cons ?_ (.cons ?_ (.cons ?_ (.cons ?_ (.cons ?_ (.cons ?_ .nil)))))
  · exact shows_solver top.solver
  · exact shows_entry (by decide) (shows_truth top.isSet)
  · exact shows_entry (by decide) (shows_quiet (quiet_digits (areDigits_digitChars _)))
  · exact shows_entry (by decide) (shows_numbers quiet_integer (level + 1) top.integers)
  · exact shows_entry (by decide) (shows_numbers quiet_real (level + 1) top.reals)
  · exact shows_entry (by decide) h

/-- A node names its algorithm, and then what its internal configuration names. -/
theorem shows_node (level : Nat) (top : Node Float) {internalText : List Char}
    {names : List (List Char)} (h : Shows internalText names) :
    Shows (node level top internalText) (top.solver.name.toList :: names) := by
  have hopening : isQuiet '(' = true := by decide
  have hclosing : ')' ∈ Scanner.closings := by decide
  have hfields : Shows (bracketed level '(' ')' (fieldTexts level top internalText))
      (top.solver.name.toList :: names) := by
    simpa using shows_bracketed hopening hclosing level (shows_fieldTexts level top h)
  obtain ⟨gap, s, heq, -, -⟩ := exists_listed level '(' ')' (fieldTexts level top internalText)
  rw [node_eq]
  rw [heq] at hfields ⊢
  constructor
  · exact List.forall_mem_append.mpr ⟨ascii_of_all (by decide), hfields.ascii⟩
  · intro rest hrest
    exact hfields.named rest hrest

/-- The text of a configuration names the algorithms of its nodes. -/
theorem shows_tree (level : Nat) (t : ConfigTree Float) :
    Shows (tree level t) (t.nodes.map fun top => top.solver.name.toList) := by
  induction t generalizing level with
  | leaf top =>
    have hnone : "None".toList.all isQuiet = true := by decide
    exact shows_node level top (shows_quiet hnone)
  | above top internal ih =>
    have hsome : "Some(".toList.all isQuiet = true := by decide
    have hclosing : Shows [')'] [] := shows_quiet (by decide)
    have hopened := (ih (level + 1)).quiet_append hsome
    have hinternal := hopened.append hclosing (List.cons_ne_nil _ _) rfl
    rw [List.append_nil] at hinternal
    exact shows_node level top hinternal

end Printer

/-! ### Octets -/

/-- The octets of a text that has nothing else are its characters. -/
theorem octets_ofList {s : List Char} (h : ∀ c ∈ s, c.toNat < 128) :
    octets (String.ofList s) = s := by
  have hencoded : octets (String.ofList s) =
      (s.flatMap String.utf8EncodeChar).map fun octet => Char.ofNat octet.toNat := by
    rw [octets, String.toUTF8_eq_toByteArray, String.toByteArray_ofList, List.utf8Encode,
      List.toList_data_toByteArray]
  rw [hencoded]
  clear hencoded
  induction s with
  | nil => rfl
  | cons c s ih =>
    have hc : c.toNat < 128 := h c (List.mem_cons_self ..)
    have hsize : c.utf8Size = 1 := Char.utf8Size_eq_one_iff.mpr (Nat.le_of_lt_succ hc)
    have hlater := ih fun d hd => h d (List.mem_cons_of_mem _ hd)
    have hoctet : Char.ofNat c.val.toUInt8.toNat = c := by
      have hsmall : c.val.toUInt8.toNat = c.toNat := by
        rw [UInt32.toNat_toUInt8]
        exact Nat.mod_eq_of_lt (hc.trans (by decide))
      rw [hsmall, Char.ofNat_toNat]
    rw [List.flatMap_cons, String.utf8EncodeChar_eq_singleton hsize, List.map_append, hlater,
      List.map_singleton, hoctet, List.singleton_append]

namespace ConfigTree

/-- A configuration that can be written is read back as it was, whatever its entries are. Its text
is written again, and names exactly the algorithms of its nodes. -/
theorem toText_roundTrip (tree : ConfigTree Float) {text : String} (h : tree.toText = .ok text) :
    ofText text = .ok tree ∧ (∀ found, ofText text = .ok found → found.toText = .ok text) ∧
      Printer.namedSolvers text.toList = tree.nodes.map fun top => top.solver.name.toList := by
  unfold toText at h
  split at h
  · next hlinks =>
    have hshows := Printer.shows_tree 1 tree
    cases h
    have hread : ofText (String.ofList (Printer.tree 1 tree)) = .ok tree := by
      have hfound : Scanner.document.result? (Printer.tree 1 tree) = some tree := by
        simp [Scanner.result?, StateT.run', Scanner.document_tree hlinks]
      rw [ofText, octets_ofList hshows.ascii, ofOctets, hfound]
    refine ⟨hread, fun found hfound => ?_, ?_⟩
    · rw [hread] at hfound
      cases hfound
      exact if_pos hlinks
    · have hnames := hshows.named [] rfl
      rw [String.toList_ofList]
      simpa [Printer.namedSolvers] using hnames
  · cases h

/-- A configuration with numbers that have no digits, and with a negative zero. -/
def unusualNumbers : ConfigTree Float :=
  .above
    { solver := .gaussSeidel, isSet := true, verbosity := 2, integers := [-1]
      reals := [Binary64.undefined.toFloat, (Binary64.infinite true).toFloat] }
    (.leaf
      { solver := .newton, isSet := false, verbosity := 0, integers := []
        reals := [(Binary64.finite true 0).toFloat] })

theorem unusualNumbers_roundTrip :
    ∃ text, unusualNumbers.toText = .ok text ∧ ofText text = .ok unusualNumbers ∧
      Printer.namedSolvers text.toList = ["F3D_NSGS".toList, "F3D_LOCAL_NSN_AC".toList] := by
  obtain ⟨hread, -, hnames⟩ := toText_roundTrip unusualNumbers rfl
  exact ⟨String.ofList (Printer.tree 1 unusualNumbers), rfl, hread, hnames⟩

end ConfigTree

end Complementarity
