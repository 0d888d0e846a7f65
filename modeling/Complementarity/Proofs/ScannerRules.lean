import Complementarity.Syntax.Numeral
import Complementarity.Config.Printer
import Complementarity.Proofs.DecimalText

/-!
What scanners take off the front of a text.

A value is written with a comma or a closing bracket behind it. `Reads` says that a scanner takes
the text of a value wherever one of them follows; items between brackets are then read one after the
other (`bracketed_eq`), in each of the layouts that are written (`exists_listed`).
-/

namespace Complementarity

namespace Scanner

variable {α β : Type}

/-- What follows a scanner goes on where it stopped. -/
theorem bind_of_eq {x : Scanner α} {f : α → Scanner β} {a : α} {s rest : List Char}
    (h : x s = some (a, rest)) : (x >>= f) s = f a rest := by
  change (x s).bind (fun p => f p.1 p.2) = f a rest
  rw [h, Option.bind_some]

theorem get_eq (s : List Char) : (get : Scanner (List Char)) s = some (s, s) :=
  rfl

theorem peek?_eq (s : List Char) : peek? s = some (s.head?, s) :=
  rfl

theorem check_of_true {condition : Prop} [Decidable condition] (h : condition) (s : List Char) :
    check condition s = some ((), s) := by
  rw [check, if_pos h]
  rfl

/-- The brackets that close a list. -/
def closings : List Char :=
  [')', ']']

theorem eq_or_eq_of_mem_closings {c : Char} (h : c ∈ closings) : c = ')' ∨ c = ']' := by
  simpa [closings] using h

/-- A comma or a closing bracket stands in front. -/
def Ended (rest : List Char) : Prop :=
  ∃ c ∈ ',' :: closings, ∃ s, rest = c :: s

/-- The scanner takes the text for this value wherever a value may end. -/
def Reads (scanner : Scanner α) (text : List Char) (value : α) : Prop :=
  ∀ rest, Ended rest → scanner (text ++ rest) = some (value, rest)

/-- A property that neither commas nor closing brackets have ends there. -/
theorem Ended.any_head?_eq_false {rest : List Char} (h : Ended rest) {p : Char → Bool}
    (hp : (',' :: closings).any p = false) : rest.head?.any p = false := by
  obtain ⟨c, hc, s, rfl⟩ := h
  exact Bool.eq_false_iff.mpr (List.any_eq_false.mp hp c hc)

/-- A value that is made of another one is read in the same places. -/
theorem Reads.map {scanner : Scanner α} {text : List Char} {value : α}
    (h : Reads scanner text value) (f : α → β) :
    Reads (do return f (← scanner)) text (f value) :=
  fun rest hrest => bind_of_eq (h rest hrest)

/-! ### Blank space -/

/-- The text has nothing in it but spaces and line ends. -/
def IsBlank (gap : List Char) : Prop :=
  ∀ c ∈ gap, c = ' ' ∨ c = '\n'

/-- What blank space and comments start with. -/
def blanks : List Char :=
  ['/', ' ', '\t', '\r', '\n']

/-- The text starts, and with none of these characters. -/
def StartsWithout (excluded s : List Char) : Prop :=
  ∃ c t, s = c :: t ∧ c ∉ excluded

theorem StartsWithout.append {excluded s : List Char} (h : StartsWithout excluded s)
    (rest : List Char) : StartsWithout excluded (s ++ rest) := by
  obtain ⟨c, t, rfl, hc⟩ := h
  exact ⟨c, t ++ rest, rfl, hc⟩

theorem StartsWithout.mono {excluded excluded' s : List Char} (h : StartsWithout excluded' s)
    (hsubset : ∀ c ∈ excluded, c ∈ excluded') : StartsWithout excluded s := by
  obtain ⟨c, t, hs, hc⟩ := h
  exact ⟨c, t, hs, fun hmem => hc (hsubset c hmem)⟩

theorem skipBlankFrom_of_startsWithout {s : List Char} (h : StartsWithout blanks s) :
    skipBlankFrom .outside s = some s := by
  obtain ⟨c, t, rfl, hc⟩ := h
  simp only [blanks, List.mem_cons, List.not_mem_nil, or_false, not_or] at hc
  simp [skipBlankFrom, hc]

theorem skipBlankFrom_append {gap s : List Char} (hgap : IsBlank gap)
    (hs : StartsWithout blanks s) : skipBlankFrom .outside (gap ++ s) = some s := by
  induction gap with
  | nil => exact skipBlankFrom_of_startsWithout hs
  | cons c gap ih =>
    have hrest := ih fun d hd => hgap d (List.mem_cons_of_mem _ hd)
    rcases hgap c (List.mem_cons_self ..) with rfl | rfl
    · simpa [skipBlankFrom] using hrest
    · simpa [skipBlankFrom] using hrest

/-- Blank space in front of something else is taken. -/
theorem skipBlank_append {gap s : List Char} (hgap : IsBlank gap) (hs : StartsWithout blanks s) :
    skipBlank (gap ++ s) = some ((), s) := by
  rw [skipBlank, skipBlankFrom_append hgap hs]
  rfl

theorem skipBlank_eq {s : List Char} (hs : StartsWithout blanks s) :
    skipBlank s = some ((), s) :=
  @skipBlank_append [] s (fun _ h => absurd h List.not_mem_nil) hs

theorem startsWithout_closing {closing : Char} (hclosing : closing ∈ closings) (rest : List Char) :
    StartsWithout blanks (closing :: rest) := by
  refine ⟨closing, rest, rfl, ?_⟩
  rcases eq_or_eq_of_mem_closings hclosing with rfl | rfl
  · decide
  · decide

/-- A comma is taken with the blank space behind it. -/
theorem comma_append {gap s : List Char} (hgap : IsBlank gap) (hs : StartsWithout blanks s) :
    comma (',' :: (gap ++ s)) = some (true, s) := by
  have hstarts : StartsWithout blanks (',' :: (gap ++ s)) := ⟨',', gap ++ s, rfl, by decide⟩
  have haccept : accept "," (',' :: (gap ++ s)) = some (true, gap ++ s) := rfl
  rw [comma, bind_of_eq (skipBlank_eq hstarts), bind_of_eq haccept]
  exact bind_of_eq (skipBlank_append hgap hs)

/-- A closing bracket is no comma, and stays. -/
theorem comma_closing {closing : Char} (hclosing : closing ∈ closings) (rest : List Char) :
    comma (closing :: rest) = some (false, closing :: rest) := by
  have haccept : accept "," (closing :: rest) = some (false, closing :: rest) := by
    rcases eq_or_eq_of_mem_closings hclosing with rfl | rfl
    · rfl
    · rfl
  rw [comma, bind_of_eq (skipBlank_eq (startsWithout_closing hclosing rest)), bind_of_eq haccept]
  rfl

/-! ### Literals and words -/

theorem isPrefixOf?_cons (c d : Char) (s t : List Char) :
    (c :: s).isPrefixOf? (d :: t) = if c = d then s.isPrefixOf? t else none := by
  change (if c == d then s.isPrefixOf? t else none) = _
  simp only [beq_iff_eq]

theorem isPrefixOf?_append (s rest : List Char) : s.isPrefixOf? (s ++ rest) = some rest := by
  induction s with
  | nil => rfl
  | cons c s ih =>
    rw [List.cons_append, isPrefixOf?_cons, if_pos rfl]
    exact ih

theorem accept_append (literal : String) (rest : List Char) :
    accept literal (literal.toList ++ rest) = some (true, rest) := by
  rw [accept, isPrefixOf?_append]

theorem accept_of_none {literal : String} {s : List Char}
    (h : literal.toList.isPrefixOf? s = none) : accept literal s = some (false, s) := by
  rw [accept, h]

theorem expect_append (literal : String) (rest : List Char) :
    expect literal (literal.toList ++ rest) = some ((), rest) := by
  rw [expect, bind_of_eq (accept_append literal rest)]
  rfl

/-- A run of characters with a property is taken up to one without it. -/
theorem takeWhile_append {p : Char → Bool} {s rest : List Char} (hs : ∀ c ∈ s, p c = true)
    (hrest : rest.head?.any p = false) : takeWhile p (s ++ rest) = some (s, rest) := by
  rw [takeWhile, takeWhile_run hs hrest, dropWhile_run hs hrest]

/-- A name that is no marked word. -/
structure IsName (s : List Char) : Prop where
  starts : s.head?.any startsWord = true
  unmarked : s.head? ≠ some 'r'
  all : s.all isWordChar = true

theorem plainWord_append {s rest : List Char} (hs : IsName s)
    (hrest : rest.head?.any isMarkedChar = false) : plainWord (s ++ rest) = some (s, rest) := by
  have hstarts : (s ++ rest).head?.any startsWord = true := by
    rw [List.head?_append]
    cases s with
    | nil => cases hs.starts
    | cons c s => exact hs.starts
  have hword : rest.head?.any isWordChar = false := by
    cases rest with
    | nil => rfl
    | cons c rest =>
      simp only [List.head?_cons, Option.any_some, isMarkedChar, Bool.or_eq_false_iff] at hrest ⊢
      exact hrest.1.1.1
  rw [plainWord, bind_of_eq (peek?_eq _), bind_of_eq (check_of_true hstarts _),
    bind_of_eq (takeWhile_append (List.all_eq_true.mp hs.all) hword), bind_of_eq (peek?_eq _),
    bind_of_eq (check_of_true hrest _)]
  rfl

theorem word_of_ne {c : Char} (hc : c ≠ 'r') (s : List Char) :
    word (c :: s) = plainWord (c :: s) := by
  rw [word, bind_of_eq (get_eq _)]
  simp [hc]

theorem word_append {s rest : List Char} (hs : IsName s)
    (hrest : rest.head?.any isMarkedChar = false) : word (s ++ rest) = some (s, rest) := by
  rw [← plainWord_append hs hrest]
  cases s with
  | nil => cases hs.starts
  | cons c s => exact word_of_ne (by simpa using hs.unmarked) _

theorem acceptWord_append (word : String) {rest : List Char}
    (hrest : rest.head?.any isWordChar = false) :
    acceptWord word (word.toList ++ rest) = some (true, rest) := by
  have hat : atWord word (word.toList ++ rest) = some (true, word.toList ++ rest) := by
    rw [atWord, bind_of_eq (get_eq _), isPrefixOf?_append]
    simp only [hrest]
    rfl
  rw [acceptWord, bind_of_eq hat]
  exact accept_append word rest

theorem acceptWord_of_none {word : String} {s : List Char}
    (h : word.toList.isPrefixOf? s = none) : acceptWord word s = some (false, s) := by
  have hat : atWord word s = some (false, s) := by
    rw [atWord, bind_of_eq (get_eq _), h]
    rfl
  rw [acceptWord, bind_of_eq hat]
  rfl

/-! ### Items between brackets -/

/-- Items up to a closing bracket. A comma and blank space stand behind each of them, but for the
last one, which may be followed by the bracket. -/
inductive Listed (closing : Char) : List (List Char) → List Char → Prop
  | nil : Listed closing [] [closing]
  | last (text : List Char) : Listed closing [text] (text ++ [closing])
  | cons {text gap s : List Char} {texts : List (List Char)} (hgap : IsBlank gap)
      (hlisted : Listed closing texts s) :
      Listed closing (text :: texts) (text ++ ',' :: (gap ++ s))

/-- The text is that of an item between brackets. -/
structure IsItem (item : Scanner α) (text : List Char) (value : α) : Prop where
  starts : StartsWithout (closings ++ blanks) text
  reads : Reads item text value

theorem Listed.length_le {closing : Char} {texts : List (List Char)} {s : List Char}
    (h : Listed closing texts s) : texts.length ≤ s.length := by
  induction h with
  | nil => exact Nat.zero_le _
  | last text => simp
  | cons _ _ ih =>
    simp only [List.length_cons, List.length_append]
    omega

theorem IsItem.startsWithout {item : Scanner α} {text : List Char} {value : α}
    (h : IsItem item text value) : StartsWithout blanks text :=
  h.starts.mono fun _ hc => List.mem_append_right _ hc

theorem IsItem.head?_ne {item : Scanner α} {text : List Char} {value : α}
    (h : IsItem item text value) {closing : Char} (hclosing : closing ∈ closings)
    (rest : List Char) : (text ++ rest).head? ≠ some closing := by
  obtain ⟨c, t, rfl, hc⟩ := h.starts
  rintro heq
  cases heq
  exact hc (List.mem_append_left blanks hclosing)

theorem Listed.startsWithout {closing : Char} (hclosing : closing ∈ closings) {item : Scanner α}
    {texts : List (List Char)} {values : List α} {s : List Char} (h : Listed closing texts s)
    (hitems : List.Forall₂ (IsItem item) texts values) : StartsWithout blanks s := by
  cases h with
  | nil => exact startsWithout_closing hclosing []
  | last text =>
    cases hitems with
    | cons h _ => exact h.startsWithout.append _
  | cons hgap hlisted =>
    cases hitems with
    | cons h _ => exact h.startsWithout.append _

/-- All items are taken, and the closing bracket stays. -/
theorem itemsWithin_eq {closing : Char} (hclosing : closing ∈ closings) {item : Scanner α}
    {texts : List (List Char)} {values : List α} {s : List Char} (h : Listed closing texts s)
    (hitems : List.Forall₂ (IsItem item) texts values) {fuel : Nat} (hfuel : texts.length < fuel)
    (rest : List Char) :
    itemsWithin closing item fuel (s ++ rest) = some (values, closing :: rest) := by
  induction h generalizing values fuel with
  | nil =>
    obtain ⟨fuel, rfl⟩ := Nat.exists_eq_add_one_of_ne_zero (Nat.ne_of_gt hfuel)
    cases hitems
    rw [List.singleton_append, itemsWithin, bind_of_eq (peek?_eq _), if_pos (List.head?_cons ..)]
    rfl
  | last text =>
    obtain ⟨fuel, rfl⟩ := Nat.exists_eq_add_one_of_ne_zero (Nat.ne_of_gt (Nat.zero_lt_of_lt hfuel))
    obtain _ | ⟨hitem, ⟨⟩⟩ := hitems
    have hended : Ended (closing :: rest) :=
      ⟨closing, List.mem_cons_of_mem _ hclosing, rest, rfl⟩
    rw [List.append_assoc, List.singleton_append, itemsWithin, bind_of_eq (peek?_eq _),
      if_neg (hitem.head?_ne hclosing _), bind_of_eq (hitem.reads _ hended),
      bind_of_eq (comma_closing hclosing _), if_neg Bool.false_ne_true, bind_of_eq (peek?_eq _),
      bind_of_eq (check_of_true (List.head?_cons ..) _)]
    rfl
  | @cons text gap s texts hgap hlisted ih =>
    obtain ⟨fuel, rfl⟩ := Nat.exists_eq_add_one_of_ne_zero (Nat.ne_of_gt (Nat.zero_lt_of_lt hfuel))
    obtain _ | ⟨hitem, hitems⟩ := hitems
    have hended : Ended (',' :: (gap ++ (s ++ rest))) := ⟨',', List.mem_cons_self .., _, rfl⟩
    have hcomma := comma_append hgap ((hlisted.startsWithout hclosing hitems).append rest)
    have hlater := ih hitems (Nat.lt_of_succ_lt_succ hfuel)
    rw [List.append_assoc, List.cons_append, List.append_assoc, itemsWithin,
      bind_of_eq (peek?_eq _), if_neg (hitem.head?_ne hclosing _),
      bind_of_eq (hitem.reads _ hended), bind_of_eq hcomma, if_pos rfl, bind_of_eq hlater]
    rfl

/-- Items between brackets are read one after the other. -/
theorem bracketed_eq {opening closing : Char} (hclosing : closing ∈ closings)
    {item : Scanner α} {texts : List (List Char)} {values : List α} {gap s : List Char}
    (hgap : IsBlank gap) (h : Listed closing texts s)
    (hitems : List.Forall₂ (IsItem item) texts values) (rest : List Char) :
    bracketed opening closing item (opening :: (gap ++ (s ++ rest))) = some (values, rest) := by
  have hopening : expect opening.toString (opening :: (gap ++ (s ++ rest))) =
      some ((), gap ++ (s ++ rest)) := by
    simpa using expect_append opening.toString (gap ++ (s ++ rest))
  have hclosed : expect closing.toString (closing :: rest) = some ((), rest) := by
    simpa using expect_append closing.toString rest
  have hstarts := (h.startsWithout hclosing hitems).append rest
  have hfuel : texts.length < (s ++ rest).length + 1 := by
    have := h.length_le
    rw [List.length_append]
    omega
  have hfound : items closing item (gap ++ (s ++ rest)) = some (values, closing :: rest) := by
    rw [items, bind_of_eq (skipBlank_append hgap hstarts), bind_of_eq (get_eq _)]
    exact itemsWithin_eq hclosing h hitems hfuel rest
  rw [bracketed, bind_of_eq hopening, bind_of_eq hfound, bind_of_eq hclosed]
  rfl

end Scanner

namespace Printer

open Scanner

theorem isBlank_indent (level : Nat) : IsBlank (indent level) :=
  fun _ hc => .inl (List.eq_of_mem_replicate hc)

theorem isBlank_lineEnd {gap : List Char} (h : IsBlank gap) : IsBlank ('\n' :: gap) := by
  intro c hc
  rcases List.mem_cons.mp hc with rfl | hc
  · exact .inr rfl
  · exact h c hc

/-- Items with a line each. -/
theorem exists_listed_lines (level : Nat) (closing : Char) (texts : List (List Char)) :
    ∃ gap s, (texts.flatMap fun text => indent level ++ text ++ [',', '\n']) ++
      (indent (level - 1) ++ [closing]) = gap ++ s ∧ IsBlank gap ∧ Listed closing texts s := by
  induction texts with
  | nil => exact ⟨indent (level - 1), [closing], rfl, isBlank_indent _, .nil⟩
  | cons text texts ih =>
    obtain ⟨gap, s, heq, hgap, hlisted⟩ := ih
    refine ⟨indent level, text ++ ',' :: ('\n' :: gap ++ s), ?_, isBlank_indent _,
      .cons (isBlank_lineEnd hgap) hlisted⟩
    simp only [List.flatMap_cons, List.append_assoc, List.cons_append, List.nil_append] at heq ⊢
    rw [heq]

/-- Items on one line. -/
theorem listed_line (closing : Char) {texts : List (List Char)} (hne : texts ≠ []) :
    Listed closing texts ([',', ' '].intercalate texts ++ [closing]) := by
  induction texts with
  | nil => exact absurd rfl hne
  | cons text texts ih =>
    cases texts with
    | nil =>
      rw [List.intercalate_singleton]
      exact .last text
    | cons next texts =>
      have hgap : IsBlank [' '] := by simp [IsBlank]
      have hlisted := @Listed.cons closing text [' '] _ _ hgap (ih (List.cons_ne_nil _ _))
      simpa using hlisted

/-- In each layout the items stand between the brackets, separated as the reader expects it. -/
theorem exists_listed (level : Nat) (opening closing : Char) (texts : List (List Char)) :
    ∃ gap s, bracketed level opening closing texts = opening :: (gap ++ s) ∧ IsBlank gap ∧
      Listed closing texts s := by
  have hempty : IsBlank [] := fun _ h => absurd h List.not_mem_nil
  unfold bracketed
  split
  · next hnil =>
    subst hnil
    exact ⟨[], [closing], rfl, hempty, .nil⟩
  · next hne =>
    split
    · obtain ⟨gap, s, heq, hgap, hlisted⟩ := exists_listed_lines level closing texts
      refine ⟨'\n' :: gap, s, ?_, isBlank_lineEnd hgap, hlisted⟩
      simp only [List.cons_append, ← heq, List.append_assoc]
    · exact ⟨[], _, rfl, hempty, listed_line closing hne⟩

/-- What is written between brackets is read. -/
theorem bracketed_append {α : Type} {opening closing : Char} (hclosing : closing ∈ closings)
    {item : Scanner α} {texts : List (List Char)} {values : List α}
    (hitems : List.Forall₂ (IsItem item) texts values) (level : Nat) (rest : List Char) :
    Scanner.bracketed opening closing item (bracketed level opening closing texts ++ rest) =
      some (values, rest) := by
  obtain ⟨gap, s, heq, hgap, hlisted⟩ := exists_listed level opening closing texts
  rw [heq, List.cons_append, List.append_assoc]
  exact bracketed_eq hclosing hgap hlisted hitems rest

end Printer

end Complementarity
