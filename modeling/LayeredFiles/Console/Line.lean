import LayeredFiles.Console.Markup
import LayeredFiles.Text.Width
/-
Module: LayeredFiles.Console.Line
Layer: Console
Purpose: console texts as lines. Tabs give way to blanks, and a line that is wider than the console is broken at
  its blanks, or inside a word that is wider than a line. What a tag styles has to be drawn, so its style is
  looked at once more: with its parameters, and also where it describes none.
Main exports: shownLines, wrapWords, wrapLine, consoleLines, StyledText.draw, line
-/

namespace LayeredFiles.Console

/-! ### Lines -/

/-- A line with blanks in place of tabs, at least one and up to the next multiple of eight cells;
    `cells` says how many cells stand in front. -/
def expandTabs (cells : Nat) : List Char → List Char
  | [] => []
  | '\t' :: rest =>
    let next := (cells + 1 + 7) / 8 * 8
    List.replicate (next - cells) ' ' ++ expandTabs next rest
  | c :: rest => c :: expandTabs (cells + Text.cellWidth c) rest

/-- The lines of a text without what a console does not show. -/
def linesOf (s : List Char) : List (List Char) := Text.splitOn '\n' (visible s)

/-- The lines of a text as a console shows them if it is wide enough. -/
def shownLines (s : List Char) : List (List Char) := (linesOf s).map (expandTabs 0)

/-! ### Lines of a bounded width -/

/-- A text filled up with blanks to a width. -/
def fillTo (width : Nat) (s : List Char) : List Char :=
  s ++ List.replicate (width - Text.width s) ' '

/-- The words of a line, each with the blanks around it. -/
def wordsOf (s : List Char) : List (List Char) :=
  let runs := s.splitBy (fun a b => Text.isBlank a == Text.isBlank b)
  match runs with
  | first :: second :: rest =>
    if first.all Text.isBlank then pairUp ((first ++ second) :: rest) else pairUp runs
  | runs => pairUp runs
where
  /-- Puts every run of blanks behind the word in front of it. -/
  pairUp : List (List Char) → List (List Char)
    | word :: gap :: rest => (word ++ gap) :: pairUp rest
    | rest => rest

/-- The parts of a word that fill lines of a width. -/
def chopWord (width : Nat) (part : List Char) (cells : Nat) : List Char → List (List Char)
  | [] => [part.reverse]
  | c :: rest =>
    let w := Text.cellWidth c
    if width < cells + w then part.reverse :: chopWord width [c] w rest
    else chopWord width (c :: part) (cells + w) rest

/-- The lines of some words; `now` is the line that is being filled, and `chops` says whether a word
    that is wider than a line is cut. -/
def fillLines (chops : Bool) (width : Nat) (now : List Char) : List (List Char) → List (List Char)
  | [] => [now]
  | word :: rest =>
    let needed := Text.width (Text.stripRight word)
    if Text.width now + needed ≤ width then fillLines chops width (now ++ word) rest
    else
      let before := if now = [] then [] else [now]
      if chops && width < needed then
        let parts := chopWord width [] 0 word
        before ++ parts.dropLast ++ fillLines chops width (parts.getLast?.getD []) rest
      else before ++ fillLines chops width word rest

/-- A line broken at its blanks so that no part is wider than `width`. -/
def wrapWords (width : Nat) (s : List Char) : List (List Char) :=
  fillLines true width [] (wordsOf s)

/-- A line without as many of the blanks at its end as it has characters too many. -/
def dropExcess (width : Nat) (s : List Char) : List Char :=
  let blanks := (s.reverse.takeWhile Text.isBlank).length
  s.take (s.length - min blanks (s.length - width))

/-- The first characters of a line that fit into a width. -/
def takeCells (width : Nat) : List Char → List Char
  | [] => []
  | c :: rest =>
    if Text.cellWidth c ≤ width then c :: takeCells (width - Text.cellWidth c) rest else []

/-- A line cut to a width. A wide character in the last cell gives way to a blank. -/
def cropTo (width : Nat) (s : List Char) : List Char :=
  if Text.width s ≤ width then s else fillTo width (takeCells width s)

/-- The lines that a line takes on a console of some width. -/
def wrapLine (width : Nat) (s : List Char) : List (List Char) :=
  (wrapWords width s).map (fun s => cropTo width (dropExcess width s))

/-- The lines that a text takes on the console. -/
def consoleLines [Host] (s : List Char) : List (List Char) :=
  (shownLines s).flatMap (wrapLine Host.columns)

/-! ### Drawing -/

/-- How many characters stand for each character of a line when its tabs are expanded; `cells` says how many
    cells stand in front. -/
def expandedSizes (cells : Nat) : List Char → List Nat
  | [] => []
  | c :: rest =>
    let expanded := expandTabs cells [c]
    expanded.length :: expandedSizes (cells + Text.width expanded) rest

/-- A part of a line: how many characters it has, and how many of them are shown. -/
structure Cut where
  length : Nat
  shown : Nat
deriving DecidableEq, Repr

/-- Which characters of a part are shown. -/
def Cut.marks (cut : Cut) : List Bool :=
  List.replicate cut.shown true ++ List.replicate (cut.length - cut.shown) false

/-- Which characters are shown, if so many others stand for each and some of those are shown. -/
def gatherMarks : List Nat → List Bool → List Bool
  | [], _ => []
  | size :: rest, marks => (marks.take size).contains true :: gatherMarks rest (marks.drop size)

/-- Which characters of a text are shown if its lines are cut into some parts; no line end is. -/
def shownMarks (lines : List (List Char)) (cuts : List (List Cut)) : List Bool :=
  List.intercalate [false] ((lines.zip cuts).map (fun e =>
    gatherMarks (expandedSizes 0 e.1) (e.2.flatMap Cut.marks)))

/-- A span is drawn if something is shown in it. In a text that stays whole an empty one is drawn as well,
    unless it stands behind what is shown. -/
def Span.isDrawn (isWhole : Bool) (marks : List Bool) (span : Span) : Bool :=
  if isWhole then marks.all id || marks[span.start]?.getD false
  else ((marks.take span.stop).drop span.start).contains true

/-- Draws what tags style in a text. The lines of the text are cut into parts when their tabs are expanded. -/
def StyledText.draw (text : StyledText) (cutsOf : List Char → List Cut) : Except Fault Unit :=
  let lines := linesOf text.chars
  let cuts := lines.map (fun s => cutsOf (expandTabs 0 s))
  let isWhole := !text.chars.contains '\t' && cuts.flatten.length = 1
  (text.spans.filter (Span.isDrawn isWhole (shownMarks lines cuts))).forM
    (fun span => (Style.parse? span.style).map (fun _ => ()))

/-- The parts into which a line is cut on a console of some width. -/
def wrapCuts (width : Nat) (s : List Char) : List Cut :=
  (wrapWords width s).map (fun part =>
    ⟨part.length, (cropTo width (dropExcess width part)).length⟩)

/-- A console text as the console prints it, with its line end. -/
def line [Host] (s : List Char) : Except Fault String := do
  let text ← readMarkup s
  text.draw (wrapCuts Host.columns)
  pure (String.ofList (Text.joinWith ['\n'] (consoleLines text.chars) ++ ['\n']))

example : wrapWords 9 "ab cd ef gh".toList = ["ab cd ef ".toList, "gh".toList] := by decide +kernel

end LayeredFiles.Console
