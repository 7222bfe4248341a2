import LayeredFiles.Console.Line
import LayeredFiles.Proofs.Text.Split
import Mathlib.Algebra.Order.BigOperators.Group.List
import Mathlib.Algebra.Order.Ring.Nat
import Mathlib.Data.List.SplitBy
/-
Module: LayeredFiles.Proofs.Console.Lines
Layer: Proofs
Purpose: texts on a console of some width. A line that is narrower than the console stands there as it is. Of a
  wider one nothing comes up that was not there but blanks and line ends, and it never comes to a single line
  that is narrower than the console.
Main exports: Console.IsClear, Console.FitsConsole, Console.joinWith_consoleLines,
  Console.marks_consoleLines_le, Console.eq_of_consoleLines
-/

namespace LayeredFiles.Console

open Text (isBlank)

/-! ### Lines of clear texts -/

/-- The text has no tabs and no characters that a console does not show. Line ends are allowed. -/
def IsClear (s : List Char) : Prop := ∀ c ∈ s, isHidden c = false ∧ c ≠ '\t'

theorem isClear_of_all {s : List Char} (all : s.all (fun c => !isHidden c && c != '\t') = true) :
    IsClear s := by
  intro c mem
  simpa using List.all_eq_true.1 all c mem

theorem IsClear.append {s t : List Char} (front : IsClear s) (back : IsClear t) : IsClear (s ++ t) := by
  intro c mem
  exact (List.mem_append.1 mem).elim (front c) (back c)

theorem expandTabs_of_noTab {s : List Char} (noTab : '\t' ∉ s) (cells : Nat) : expandTabs cells s = s := by
  induction s generalizing cells with
  | nil => rfl
  | cons c rest ih =>
      rw [List.mem_cons, not_or] at noTab
      rw [expandTabs, ih noTab.2]
      exact fun isTab => noTab.1 isTab.symm

theorem visible_of_isClear {s : List Char} (clear : IsClear s) : visible s = s := by
  apply List.filter_eq_self.2
  intro c mem
  rw [(clear c mem).1]
  rfl

theorem linesOf_of_isClear {s : List Char} (clear : IsClear s) : linesOf s = Text.splitOn '\n' s := by
  rw [linesOf, visible_of_isClear clear]

theorem shownLines_of_isClear {s : List Char} (clear : IsClear s) : shownLines s = Text.splitOn '\n' s := by
  have same : ∀ piece ∈ Text.splitOn '\n' s, expandTabs 0 piece = id piece := by
    intro piece isPiece
    exact expandTabs_of_noTab (fun isTab => (clear _ (Text.mem_of_mem_splitOn isPiece isTab)).2 rfl) 0
  rw [shownLines, linesOf_of_isClear clear, List.map_congr_left same, List.map_id]

/-! ### Words -/

theorem flatten_pairUp (runs : List (List Char)) : (wordsOf.pairUp runs).flatten = runs.flatten := by
  induction runs using wordsOf.pairUp.induct with
  | case1 word gap rest ih => simp [wordsOf.pairUp, ih]
  | case2 rest _ =>
      rw [wordsOf.pairUp]
      assumption

/-- The words of a line make up the line. -/
theorem flatten_wordsOf (s : List Char) : (wordsOf s).flatten = s := by
  have whole : (s.splitBy (fun a b => isBlank a == isBlank b)).flatten = s := List.flatten_splitBy _ s
  unfold wordsOf
  generalize s.splitBy (fun a b => isBlank a == isBlank b) = runs at whole
  dsimp only
  split
  · split
    · rw [flatten_pairUp, ← whole]
      simp
    · rw [flatten_pairUp, whole]
  · rw [flatten_pairUp, whole]

/-- A line is what is left without the blanks at its end, and these. -/
theorem stripRight_append (s : List Char) :
    Text.stripRight s ++ (s.reverse.takeWhile isBlank).reverse = s := by
  rw [Text.stripRight, ← List.reverse_append, List.takeWhile_append_dropWhile, List.reverse_reverse]

theorem width_stripRight_le (s : List Char) : Text.width (Text.stripRight s) ≤ Text.width s := by
  have whole := congrArg Text.width (stripRight_append s)
  rw [Text.width_append] at whole
  omega

/-- Words that fit together are one line. -/
theorem fillLines_of_fits (chops : Bool) {width : Nat} {now : List Char} {words : List (List Char)}
    (fits : Text.width (now ++ words.flatten) ≤ width) :
    fillLines chops width now words = [now ++ words.flatten] := by
  induction words generalizing now with
  | nil => simp [fillLines]
  | cons word rest ih =>
      rw [List.flatten_cons, ← List.append_assoc] at fits ⊢
      have enough : Text.width now + Text.width (Text.stripRight word) ≤ width := by
        have stripped := width_stripRight_le word
        rw [Text.width_append, Text.width_append] at fits
        omega
      simp only [fillLines, if_pos enough]
      exact ih fits

theorem flatten_chopWord (width : Nat) (part : List Char) (cells : Nat) (s : List Char) :
    (chopWord width part cells s).flatten = part.reverse ++ s := by
  induction s generalizing part cells with
  | nil => simp [chopWord]
  | cons c rest ih =>
      rw [chopWord]
      split
      · rw [List.flatten_cons, ih]
        rfl
      · rw [ih]
        simp

/-- However words are put into lines, nothing is lost. -/
theorem flatten_fillLines (chops : Bool) (width : Nat) (now : List Char) (words : List (List Char)) :
    (fillLines chops width now words).flatten = now ++ words.flatten := by
  induction words generalizing now with
  | nil => simp [fillLines]
  | cons word rest ih =>
      have before : (if now = [] then [] else [now]).flatten = now := by
        split
        · rename_i isNil
          rw [isNil]
          rfl
        · exact List.flatten_singleton
      rw [fillLines]
      dsimp only
      split
      · rw [ih, List.flatten_cons, List.append_assoc]
      · split
        · have parts := flatten_chopWord width [] 0 word
          generalize chopWord width [] 0 word = chopped at parts
          have whole : chopped.dropLast.flatten ++ chopped.getLast?.getD [] = word := by
            rw [List.reverse_nil, List.nil_append] at parts
            rw [← parts]
            cases chopped using List.reverseRecOn with
            | nil => rfl
            | append_singleton front last => simp
          rw [List.flatten_append, List.flatten_append, before, ih, List.flatten_cons, ← whole]
          simp only [List.append_assoc]
        · rw [List.flatten_append, before, ih, List.flatten_cons]

theorem flatten_wrapWords (width : Nat) (s : List Char) : (wrapWords width s).flatten = s := by
  rw [wrapWords, flatten_fillLines, List.nil_append, flatten_wordsOf]

theorem fillLines_ne_nil (chops : Bool) (width : Nat) (now : List Char) (words : List (List Char)) :
    fillLines chops width now words ≠ [] := by
  induction words generalizing now with
  | nil => exact List.cons_ne_nil _ _
  | cons word rest ih =>
      rw [fillLines]
      dsimp only
      split
      · exact ih _
      · split
        · exact List.append_ne_nil_of_right_ne_nil _ (ih _)
        · exact List.append_ne_nil_of_right_ne_nil _ (ih _)

/-! ### Lines that fit -/

/-- The line is narrower than a console, also if every character took a cell. -/
def IsBelow (columns : Nat) (line : List Char) : Prop := Text.width line < columns ∧ line.length < columns

/-- All lines of the text are narrower than the console. -/
def FitsConsole [Host] (s : List Char) : Prop := ∀ line ∈ Text.splitOn '\n' s, IsBelow Host.columns line

theorem width_replicate_blank (n : Nat) : Text.width (List.replicate n ' ') = n := by
  induction n with
  | zero => rfl
  | succ n ih =>
      rw [List.replicate_succ, Text.width, ih, Nat.add_comm]
      rfl

theorem width_fillTo {width : Nat} {s : List Char} (fits : Text.width s ≤ width) :
    Text.width (fillTo width s) = width := by
  rw [fillTo, Text.width_append, width_replicate_blank]
  omega

theorem dropExcess_of_le {width : Nat} {s : List Char} (fits : s.length ≤ width) : dropExcess width s = s := by
  simp only [dropExcess, Nat.sub_eq_zero_of_le fits, Nat.min_zero, Nat.sub_zero, List.take_length]

/-- A line that fits stands as it is. -/
theorem wrapLine_of_isBelow {width : Nat} {s : List Char} (below : IsBelow width s) :
    wrapLine width s = [s] := by
  have oneLine : wrapWords width s = [s] := by
    rw [wrapWords, fillLines_of_fits, List.nil_append, flatten_wordsOf]
    rw [List.nil_append, flatten_wordsOf]
    exact below.1.le
  rw [wrapLine, oneLine, List.map_singleton, dropExcess_of_le below.2.le, cropTo, if_pos below.1.le]

theorem width_takeCells_le (width : Nat) (s : List Char) : Text.width (takeCells width s) ≤ width := by
  induction s generalizing width with
  | nil => exact Nat.zero_le _
  | cons c rest ih =>
      rw [takeCells]
      split
      · have behind := ih (width - Text.cellWidth c)
        rw [Text.width]
        omega
      · exact Nat.zero_le _

/-- Only a line that fits comes to a single line that is narrower than the console. -/
theorem eq_of_wrapLine {width : Nat} {s shown : List Char} (wrapped : wrapLine width s = [shown])
    (below : IsBelow width shown) : s = shown := by
  rw [wrapLine, List.map_eq_singleton_iff] at wrapped
  obtain ⟨line, isLine, isShown⟩ := wrapped
  have whole := flatten_wrapWords width s
  rw [isLine, List.flatten_singleton] at whole
  subst whole
  have size : line.length ≤ width ∨ width ≤ (dropExcess width line).length := by
    simp only [dropExcess, List.length_take]
    omega
  rw [cropTo] at isShown
  split at isShown
  · subst isShown
    rcases size with fits | isLong
    · exact (dropExcess_of_le fits).symm
    · exact absurd below.2 (Nat.not_lt.2 isLong)
  · have full := width_fillTo (width_takeCells_le width (dropExcess width line))
    rw [isShown] at full
    exact absurd full below.1.ne

theorem wrapLine_ne_nil (width : Nat) (s : List Char) : wrapLine width s ≠ [] := by
  rw [wrapLine, Ne, List.map_eq_nil_iff]
  exact fillLines_ne_nil true width [] _

/-! ### Marks -/

/-- The number of brackets and backslashes of a text. -/
def marks (s : List Char) : Nat := s.countP (fun c => c = '\\' || c = '[')

theorem marks_append (s t : List Char) : marks (s ++ t) = marks s + marks t := List.countP_append

theorem marks_le_of_sublist {s t : List Char} (isLeft : s.Sublist t) : marks s ≤ marks t :=
  isLeft.countP_le

theorem marks_blanks (count : Nat) : marks (List.replicate count ' ') = 0 :=
  List.countP_eq_zero.2 (by simp)

theorem marks_flatten (lines : List (List Char)) : marks lines.flatten = (lines.map marks).sum :=
  List.countP_flatten

/-- A line end is no mark. -/
theorem marks_joinWith (lines : List (List Char)) :
    marks (Text.joinWith ['\n'] lines) = (lines.map marks).sum := by
  induction lines with
  | nil => rfl
  | cons line rest ih =>
      cases rest with
      | nil => simp [Text.joinWith]
      | cons next more =>
          rw [Text.joinWith, marks_append, marks_append, ih, List.map_cons, List.sum_cons]
          rfl

theorem takeCells_isPrefix (width : Nat) (s : List Char) : takeCells width s <+: s := by
  induction s generalizing width with
  | nil => exact List.nil_prefix
  | cons c rest ih =>
      rw [takeCells]
      split
      · exact (List.cons_prefix_cons.2 ⟨rfl, ih _⟩)
      · exact List.nil_prefix

theorem marks_cropTo_le (width : Nat) (s : List Char) : marks (cropTo width s) ≤ marks s := by
  unfold cropTo
  split
  · exact le_rfl
  · rw [fillTo, marks_append, marks_blanks]
    exact marks_le_of_sublist (takeCells_isPrefix width s).sublist

/-- A line that is broken or cut gets no marks. -/
theorem marks_wrapLine_le (width : Nat) (s : List Char) : ((wrapLine width s).map marks).sum ≤ marks s := by
  have each : ∀ line, marks (cropTo width (dropExcess width line)) ≤ marks line := fun line =>
    (marks_cropTo_le width _).trans (marks_le_of_sublist (List.take_sublist _ line))
  have whole := marks_flatten (wrapWords width s)
  rw [flatten_wrapWords] at whole
  rw [whole, wrapLine, List.map_map]
  exact List.sum_le_sum (fun line _ => each line)

section Console

variable [Host] {s shown : List Char}

/-- A clear text whose lines fit stands on the console as it is. -/
theorem joinWith_consoleLines (clear : IsClear s) (fits : FitsConsole s) :
    Text.joinWith ['\n'] (consoleLines s) = s := by
  have same : ∀ line ∈ Text.splitOn '\n' s, wrapLine Host.columns line = [line] :=
    fun line isLine => wrapLine_of_isBelow (fits line isLine)
  rw [consoleLines, shownLines_of_isClear clear, List.flatMap_congr same, List.flatMap_singleton',
    Text.joinWith_splitOn]

/-- What stands on the console has no marks but those of the text. -/
theorem marks_consoleLines_le (clear : IsClear s) :
    marks (Text.joinWith ['\n'] (consoleLines s)) ≤ marks s := by
  have whole := marks_joinWith (Text.splitOn '\n' s)
  rw [Text.joinWith_splitOn] at whole
  rw [marks_joinWith, consoleLines, shownLines_of_isClear clear, whole]
  induction Text.splitOn '\n' s with
  | nil => exact le_rfl
  | cons line rest ih =>
      rw [List.flatMap_cons, List.map_append, List.sum_append, List.map_cons, List.sum_cons]
      exact Nat.add_le_add (marks_wrapLine_le _ line) ih

/-- What stands on the console as a single line that fits is the whole text. -/
theorem eq_of_consoleLines (clear : IsClear s) (oneLine : '\n' ∉ shown) (below : IsBelow Host.columns shown)
    (stands : Text.joinWith ['\n'] (consoleLines s) = shown) : s = shown := by
  rw [consoleLines, shownLines_of_isClear clear] at stands
  obtain ⟨first, rest, whole⟩ := Text.exists_splitOn_eq_cons '\n' s
  rw [whole, List.flatMap_cons] at stands
  obtain ⟨line, others, isWrapped⟩ := List.exists_cons_of_ne_nil (wrapLine_ne_nil Host.columns first)
  have alone : others ++ rest.flatMap (wrapLine Host.columns) = [] := by
    cases behind : others ++ rest.flatMap (wrapLine Host.columns) with
    | nil => rfl
    | cons next more =>
        rw [isWrapped, List.cons_append, behind, Text.joinWith] at stands
        exact absurd (stands ▸ by simp) oneLine
  obtain ⟨noOthers, noRest⟩ := List.append_eq_nil_iff.1 alone
  rw [isWrapped, noOthers, noRest, List.append_nil, Text.joinWith] at stands
  rw [noOthers, stands] at isWrapped
  have isFirst := eq_of_wrapLine isWrapped below
  have noLines : rest = [] := by
    cases rest with
    | nil => rfl
    | cons next more =>
        rw [List.flatMap_cons, List.append_eq_nil_iff] at noRest
        exact absurd noRest.1 (wrapLine_ne_nil _ _)
  have joined := Text.joinWith_splitOn '\n' s
  rw [whole, noLines, Text.joinWith] at joined
  rw [← joined, isFirst]

end Console

end LayeredFiles.Console
