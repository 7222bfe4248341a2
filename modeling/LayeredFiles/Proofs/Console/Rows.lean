import LayeredFiles.Proofs.Chain.Spelling
import LayeredFiles.Proofs.Console.Literal
import LayeredFiles.Text.Printable
import Mathlib.Data.List.SplitBy
/-
Module: LayeredFiles.Proofs.Console.Rows
Layer: Proofs
Purpose: the rows of a table. A printable text that is no wider than its column takes one line of a cell and
  stands there as it is, blanks behind it. So a table of printable names whose cells are literal has one line
  for each name, and the line shows the cells of that name, if the table is no wider than the console.
Main exports: Console.IsPrintable, Console.fittedLines_of_fits, Console.rowLines_of_fits,
  Console.tableText, Console.FillTable, Console.chainTable_of_texts, Console.chainTable_eq
-/

namespace LayeredFiles.Console

open Text (isPrintable isBlank)

/-! ### Printable texts -/

/-- All characters of the text are printable. -/
def IsPrintable (s : List Char) : Prop := ∀ c ∈ s, isPrintable c = true

theorem IsPrintable.append {s t : List Char} (front : IsPrintable s) (back : IsPrintable t) :
    IsPrintable (s ++ t) := by
  intro c mem
  exact (List.mem_append.1 mem).elim (front c) (back c)

theorem isPrintable_of_all {s : List Char} (all : s.all isPrintable = true) : IsPrintable s :=
  fun c mem => List.all_eq_true.1 all c mem

/-- Of the blanks only one is printable. -/
theorem eq_blank_of_isPrintable {c : Char} (printable : isPrintable c = true) (blank : isBlank c = true) :
    c = ' ' := by
  have points : ∀ r ∈ Text.blankRanges, ∀ i ∈ List.range (r.2 + 1 - r.1), r.1 + i ≠ 0x20 →
      (if r.1 + i < 0x7F then decide (0x20 ≤ r.1 + i) else !Text.inRanges Text.hiddenRanges (r.1 + i)) =
        false := by decide +kernel
  obtain ⟨r, mem, low, high⟩ := Text.exists_range_of_inRanges blank
  have isPoint : r.1 + (c.toNat - r.1) = c.toNat := Nat.add_sub_cancel' low
  have hidden := points r mem (c.toNat - r.1) (List.mem_range.2 (by omega))
  rw [isPoint] at hidden
  by_contra other
  have differs : c.toNat ≠ 0x20 := fun same => other (Char.toNat_inj.1 same)
  rw [isPrintable, hidden differs] at printable
  cases printable

theorem not_isHidden_of_isPrintable {c : Char} (printable : isPrintable c = true) :
    isHidden c = false ∧ c ≠ '\t' ∧ c ≠ '\n' := by
  have low : ¬c.toNat < 0x20 := by
    intro small
    rw [isPrintable, if_pos (by omega), decide_eq_true_eq] at printable
    omega
  refine ⟨?_, ?_, ?_⟩
  · rw [isHidden, ← Bool.not_eq_true, List.contains_iff_mem]
    intro mem
    simp only [List.mem_cons, List.not_mem_nil, or_false] at mem
    omega
  · rintro rfl
    exact low (by decide)
  · rintro rfl
    exact low (by decide)

theorem IsPrintable.isClear {s : List Char} (printable : IsPrintable s) : IsClear s := by
  intro c mem
  obtain ⟨shown, notTab, -⟩ := not_isHidden_of_isPrintable (printable c mem)
  exact ⟨shown, notTab⟩

/-- A printable text is one line. -/
theorem IsPrintable.linesOf {s : List Char} (printable : IsPrintable s) : linesOf s = [s] := by
  rw [linesOf_of_isClear printable.isClear]
  exact Text.splitOn_of_notMem (fun mem => (not_isHidden_of_isPrintable (printable _ mem)).2.2 rfl)

/-! ### Lines that fit -/

theorem fillTo_fillTo {width : Nat} {s : List Char} (fits : Text.width s ≤ width) :
    fillTo width (fillTo width s) = fillTo width s := by
  have full := width_fillTo fits
  rw [fillTo, full, Nat.sub_self, List.replicate_zero, List.append_nil]

/-- The last characters of a printable line are blanks, if there are enough of these. -/
theorem drop_eq_replicate {s : List Char} (printable : IsPrintable s) {count : Nat}
    (few : count ≤ (s.reverse.takeWhile isBlank).length) :
    s.drop (s.length - count) = List.replicate count ' ' := by
  have fromEnd : s.reverse.take count = (s.reverse.takeWhile isBlank).take count := by
    conv_lhs => rw [← List.takeWhile_append_dropWhile (p := isBlank) (l := s.reverse)]
    exact List.take_append_of_le_length few
  have blanks : s.reverse.take count = List.replicate count ' ' := by
    rw [List.eq_replicate_iff]
    constructor
    · rw [fromEnd, List.length_take]
      omega
    · intro c mem
      have isChar : c ∈ s := List.mem_reverse.1 (List.mem_of_mem_take mem)
      rw [fromEnd] at mem
      exact eq_blank_of_isPrintable (printable c isChar)
        (List.mem_takeWhile_imp (List.mem_of_mem_take mem))
  have reversed := congrArg List.reverse blanks
  rwa [List.reverse_take, List.reverse_reverse, List.length_reverse, List.reverse_replicate] at reversed

/-- The blanks that are dropped from a line come back when it is filled up. -/
theorem fitTo_dropExcess {width : Nat} {s : List Char} (printable : IsPrintable s)
    (fits : Text.width s ≤ width) : fitTo width (dropExcess width s) = fillTo width s := by
  simp only [dropExcess]
  generalize isCount : min (s.reverse.takeWhile isBlank).length (s.length - width) = count
  have few : count ≤ (s.reverse.takeWhile isBlank).length := isCount ▸ Nat.min_le_left _ _
  have whole : s.take (s.length - count) ++ List.replicate count ' ' = s := by
    rw [← drop_eq_replicate printable few, List.take_append_drop]
  generalize s.take (s.length - count) = front at whole
  have size := congrArg Text.width whole
  rw [Text.width_append, width_replicate_blank] at size
  have filled : List.replicate (width - Text.width front) ' ' =
      List.replicate count ' ' ++ List.replicate (width - Text.width s) ' ' := by
    rw [List.replicate_append_replicate]
    congr 1
    omega
  rw [fitTo, if_pos (by omega), fillTo, filled, ← List.append_assoc, whole, fillTo]

/-- A printable text that fits takes one line of a cell, filled up with blanks. -/
theorem fittedLines_of_fits {width : Nat} {s : List Char} (printable : IsPrintable s)
    (fits : Text.width s ≤ width) (isWhole : Bool) :
    fittedLines isWhole width s = [fillTo width s] := by
  have noTab : '\t' ∉ s := fun mem => (not_isHidden_of_isPrintable (printable _ mem)).2.1 rfl
  have oneLine : (if isWhole then [s] else fillLines false width [] (wordsOf s)) = [s] := by
    cases isWhole with
    | true => rfl
    | false =>
        rw [if_neg Bool.false_ne_true, fillLines_of_fits, List.nil_append, flatten_wordsOf]
        rw [List.nil_append, flatten_wordsOf]
        exact fits
  simp only [fittedLines, fittedParts, expandTabs_of_noTab noTab, oneLine, List.map_singleton,
    fitTo_dropExcess printable fits]

/-! ### Rows -/

/-- The cells of a row fit into the columns. -/
def Fits (widths : List Nat) (cells : List (List Char)) : Prop :=
  ∀ e ∈ widths.zip cells, IsPrintable e.2 ∧ Text.width e.2 ≤ e.1

/-- Cells of one line each. -/
def lineRow (cells : List (List Char)) : Row := cells.map (fun cell => [cell])

/-- The cells of a printable row are one line each. -/
theorem rowOf_eq {cells : List StyledText} (printable : ∀ cell ∈ cells, IsPrintable cell.chars) :
    rowOf cells = lineRow (cells.map StyledText.chars) := by
  rw [rowOf, lineRow, List.map_map]
  exact List.map_congr_left (fun cell mem => (printable cell mem).linesOf)

theorem fittedRow_lineRow {widths : List Nat} {cells : List (List Char)} (fits : Fits widths cells) :
    fittedRow widths (lineRow cells) = (widths.zip cells).map (fun e => [fillTo e.1 e.2]) := by
  unfold fittedRow lineRow
  rw [List.zip_map_right, List.zipIdx_map, List.map_map, ← List.zipIdx_map_fst 0 (widths.zip cells),
    List.map_map, List.zipIdx_map_fst]
  apply List.map_congr_left
  rintro ⟨⟨width, cell⟩, index⟩ mem
  have isCell : (width, cell) ∈ widths.zip cells := (List.mem_zipIdx' mem).2 ▸ List.getElem_mem _
  obtain ⟨printable, fit⟩ := fits _ isCell
  simp [fittedLines_of_fits printable fit]

/-- Cells that are filled up already are not filled up further. -/
theorem rowLine_filled (border : Char) {widths : List Nat} {cells : List (List Char)}
    (fits : Fits widths cells) :
    rowLine border widths ((widths.zip cells).map (fun e => fillTo e.1 e.2)) =
      rowLine border widths cells := by
  have same : (widths.zip ((widths.zip cells).map (fun e => fillTo e.1 e.2))).flatMap
      (fun e => ' ' :: fillTo e.1 e.2 ++ [' ', border]) =
        (widths.zip cells).flatMap (fun e => ' ' :: fillTo e.1 e.2 ++ [' ', border]) := by
    induction widths generalizing cells with
    | nil => rfl
    | cons width widths ih =>
        cases cells with
        | nil => rfl
        | cons cell cells =>
            have fit := (fits (width, cell) List.mem_cons_self).2
            simp only [List.zip_cons_cons, List.map_cons, List.flatMap_cons, fillTo_fillTo fit]
            rw [ih (fun e mem => fits e (List.mem_cons_of_mem _ mem))]
  rw [rowLine, same, rowLine]

theorem height_of_oneLine {row : Row} (oneLine : ∀ cell ∈ row, cell.length = 1) :
    (row.map List.length).foldl max 1 = 1 := by
  induction row with
  | nil => rfl
  | cons cell rest ih =>
      rw [List.map_cons, List.foldl_cons, oneLine cell List.mem_cons_self]
      exact ih (fun cell mem => oneLine cell (List.mem_cons_of_mem _ mem))

/-- A row whose cells fit is one line, which shows the cells. -/
theorem rowLines_of_fits (border : Char) {widths : List Nat} {cells : List (List Char)}
    (fits : Fits widths cells) : rowLines border widths (lineRow cells) = [rowLine border widths cells] := by
  have height : ((fittedRow widths (lineRow cells)).map List.length).foldl max 1 = 1 := by
    apply height_of_oneLine
    rw [fittedRow_lineRow fits]
    intro cell mem
    obtain ⟨e, -, rfl⟩ := List.mem_map.1 mem
    rfl
  simp only [rowLines, height, List.range_one, List.map_singleton]
  rw [fittedRow_lineRow fits, List.map_map]
  exact congrArg (fun line => [line]) (rowLine_filled border fits)

/-! ### Columns -/

theorem width_le_widest {lines : List (List Char)} {line : List Char} (mem : line ∈ lines) :
    Text.width line ≤ widest lines := by
  have all : ∀ (widths : List Nat) (start : Nat),
      start ≤ widths.foldl max start ∧ ∀ width ∈ widths, width ≤ widths.foldl max start := by
    intro widths
    induction widths with
    | nil => simp
    | cons width rest ih =>
        intro start
        obtain ⟨least, most⟩ := ih (max start width)
        rw [List.foldl_cons]
        refine ⟨(Nat.le_max_left _ _).trans least, fun width' mem => ?_⟩
        rcases List.mem_cons.1 mem with rfl | mem
        · exact (Nat.le_max_right _ _).trans least
        · exact most width' mem
  exact (all _ 0).2 _ (List.mem_map_of_mem mem)

/-- The cells of a table fit into its columns. -/
theorem fits_columnWidths {rows : List (List (List Char))} {cells : List (List Char)}
    (isRow : cells ∈ rows) (printable : ∀ cell ∈ cells, IsPrintable cell) :
    Fits (columnWidths (rows.map lineRow)) cells := by
  intro e mem
  obtain ⟨i, inRange, isEntry⟩ := List.mem_iff_getElem.1 mem
  rw [List.length_zip] at inRange
  have inCells : i < cells.length := by omega
  rw [List.getElem_zip] at isEntry
  rw [← isEntry]
  refine ⟨printable _ (List.getElem_mem inCells), ?_⟩
  simp only [columnWidths, List.getElem_map, List.getElem_range]
  apply width_le_widest
  refine List.mem_flatMap.2 ⟨lineRow cells, List.mem_map_of_mem isRow, ?_⟩
  simp [lineRow, inCells]

/-! ### Tables -/

/-- The widths that the columns of a table need for some rows of cells. -/
def neededWidths (rows : List (List (List Char))) : List Nat := columnWidths ((heads :: rows).map lineRow)

/-- The lines of a table with a title and some rows of cells, one line for each row. -/
def tableText (title : List Char) (rows : List (List (List Char))) : List (List Char) :=
  let widths := neededWidths rows
  titleLines (tableWidth widths) title ++
    [ruleLine '┏' '━' '┳' '┓' widths, rowLine '┃' widths heads, ruleLine '┡' '━' '╇' '┩' widths] ++
    rows.map (rowLine '│' widths) ++ [ruleLine '└' '─' '┴' '┘' widths]

theorem tableLines_eq {rows : List (List (List Char))}
    (printable : ∀ cells ∈ rows, ∀ cell ∈ cells, IsPrintable cell) (title : List Char) :
    tableLines (neededWidths rows) (some title) (rows.map lineRow) = tableText title rows := by
  have isHead : ∀ cell ∈ heads, IsPrintable cell := by
    have all : heads.all (fun cell => cell.all isPrintable) = true := by decide
    intro cell mem
    exact isPrintable_of_all (List.all_eq_true.1 all cell mem)
  have head : Fits (neededWidths rows) heads := fits_columnWidths List.mem_cons_self isHead
  have body : ∀ cells ∈ rows, Fits (neededWidths rows) cells := fun cells mem =>
    fits_columnWidths (List.mem_cons_of_mem _ mem) (printable cells mem)
  rw [tableText]
  generalize neededWidths rows = widths at head body
  have headLine : rowLines '┃' widths headRow = [rowLine '┃' widths heads] := rowLines_of_fits '┃' head
  have lines : (rows.map lineRow).flatMap (rowLines '│' widths) = rows.map (rowLine '│' widths) := by
    rw [List.flatMap_map, List.flatMap_congr (fun cells mem => rowLines_of_fits '│' (body cells mem)),
      List.map_eq_flatMap]
  simp only [tableLines, lines, headLine, List.append_assoc, List.cons_append, List.nil_append]

/-! ### Cells of names -/

theorem mem_of_mem_folderChars {path : List Char} {c : Char} (mem : c ∈ Path.folderChars path) :
    c ∈ path := by
  have inHead : c ∈ Path.headChars path := by
    simp only [Path.folderChars] at mem
    split at mem
    · exact mem
    · exact List.mem_reverse.1 ((List.dropWhile_suffix _).subset (List.mem_reverse.1 mem))
  rw [← Path.headChars_append_fileNameChars path]
  exact List.mem_append_left _ inHead

theorem mem_of_mem_headOf {folder : List Char} {c : Char} (mem : c ∈ Path.headOf folder) :
    c ∈ folder ∨ c = '/' := by
  unfold Path.headOf at mem
  split at mem
  · exact Or.inl mem
  · simpa using mem

/-- The characters that a table adds to those of a name. -/
def cellMarks : List Char := ['/', '.', '-', '>', ' ']

section Names

variable {file : String} {c : Char}

/-- The segments of a name hold characters of the name. -/
theorem mem_of_mem_segment {plain chain : List (List Char)} {segment : List Char}
    (found : ChainName.cut (Path.fileNameChars file.toList) = (plain, chain))
    (isSegment : segment ∈ plain ++ chain) (mem : c ∈ segment) : c ∈ file.toList := by
  rw [← ChainName.splitOn_eq_of_cut found] at isSegment
  rw [← Path.headChars_append_fileNameChars file.toList]
  exact List.mem_append_right _ (Text.mem_of_mem_splitOn isSegment mem)

theorem mem_of_mem_base (mem : c ∈ (ChainName.parse file).base.toList) :
    c ∈ file.toList ∨ c ∈ cellMarks := by
  cases chained : (ChainName.parse file).hasChain with
  | false =>
      rw [ChainName.parse_of_not_hasChain chained] at mem
      exact Or.inl mem
  | true =>
      obtain ⟨plain, first, rest, found⟩ := ChainName.exists_cut_of_hasChain chained
      rw [ChainName.parse_of_cut found (List.cons_ne_nil _ _), String.toList_ofList,
        Path.joinChars_eq (ChainName.slash_notMem_front found)] at mem
      rcases List.mem_append.1 mem with inHead | inName
      · exact (mem_of_mem_headOf inHead).imp mem_of_mem_folderChars (by rintro rfl; decide)
      · rcases Text.mem_joinWith inName with isDot | ⟨segment, isSegment, isChar⟩
        · rw [List.mem_singleton.1 isDot]
          exact Or.inr (by decide)
        · exact Or.inl (mem_of_mem_segment found (List.mem_append_left _ isSegment) isChar)

theorem mem_of_mem_template {id : String} (isTemplate : id ∈ (ChainName.parse file).templates)
    (mem : c ∈ id.toList) : c ∈ file.toList := by
  cases chained : (ChainName.parse file).hasChain with
  | false =>
      rw [ChainName.parse_of_not_hasChain chained] at isTemplate
      cases isTemplate
  | true =>
      obtain ⟨plain, first, rest, found⟩ := ChainName.exists_cut_of_hasChain chained
      rw [ChainName.parse_of_cut found (List.cons_ne_nil _ _), List.mem_reverse] at isTemplate
      obtain ⟨segment, isSegment, rfl⟩ := List.mem_map.1 isTemplate
      rw [String.toList_ofList] at mem
      exact mem_of_mem_segment found (List.mem_append_right _ isSegment) (mem_of_mem_templateOf mem)

/-- The characters of the cells are those of the name and a few more. -/
theorem mem_of_mem_cellsOf {cell : List Char} (isCell : cell ∈ cellsOf file) (mem : c ∈ cell) :
    c ∈ file.toList ∨ c ∈ cellMarks := by
  rw [cellsOf] at isCell
  simp only [List.mem_cons, List.not_mem_nil, or_false] at isCell
  rcases isCell with rfl | rfl | rfl
  · exact Or.inl mem
  · exact mem_of_mem_base mem
  · split at mem
    · rw [String.toList_intercalate, Text.intercalate_eq_joinWith] at mem
      rcases Text.mem_joinWith mem with isMark | ⟨piece, isPiece, isChar⟩
      · have marks : " -> ".toList ⊆ cellMarks := by decide
        exact Or.inr (marks isMark)
      · obtain ⟨id, isTemplate, rfl⟩ := List.mem_map.1 isPiece
        exact Or.inl (mem_of_mem_template isTemplate isChar)
    · have marks : "-".toList ⊆ cellMarks := by decide
      exact Or.inr (marks mem)

theorem isPrintable_cellsOf (printable : IsPrintable file.toList) {cell : List Char}
    (isCell : cell ∈ cellsOf file) : IsPrintable cell := by
  intro c mem
  rcases mem_of_mem_cellsOf isCell mem with isChar | isMark
  · exact printable c isChar
  · have marks : cellMarks.all isPrintable = true := by decide
    exact List.all_eq_true.1 marks c isMark

end Names

theorem drawRow_eq_ok {widths : List Nat} {cells : List StyledText}
    (drawable : ∀ cell ∈ cells, ∀ span ∈ cell.spans, IsDrawable span.style) :
    drawRow widths cells = .ok () := by
  have each : ∀ e ∈ (widths.zip cells).zipIdx,
      e.1.2.draw (fittedCuts (e.2 = 0) e.1.1) = .ok () := by
    rintro ⟨⟨width, cell⟩, index⟩ mem
    have isEntry : (width, cell) ∈ widths.zip cells := (List.mem_zipIdx' mem).2 ▸ List.getElem_mem _
    exact draw_eq_ok (drawable cell (List.of_mem_zip isEntry).2) _
  exact forM_eq_ok each

section Tables

variable [Host]

/-- The names of some files can be put into a table as they are: their cells hold no tags and no codes, and the
    table is no wider than the console. -/
structure FillTable (files : List String) : Prop where
  printable : ∀ file ∈ files, IsPrintable file.toList
  literal : ∀ file ∈ files, ∀ cell ∈ cellsOf file, IsLiteral cell
  noCode : ∀ file ∈ files, ∀ cell ∈ cellsOf file, HoldsNoCode cell
  fits : tableWidth (neededWidths (files.map cellsOf)) ≤ Host.columns

/-- The cells of a file without styles. -/
def plainCells (file : String) : List StyledText := (cellsOf file).map (fun cell => ⟨cell, []⟩)

theorem columnOf_eq {files : List String} (fill : FillTable files) {index : Nat} (inRange : index < 3) :
    columnOf files index = .ok (files.map (fun file => ⟨(cellsOf file)[index]?.getD [], []⟩)) := by
  apply mapM_eq_ok
  intro file mem
  have isCell : (cellsOf file)[index]?.getD [] ∈ cellsOf file := by
    have bound : index < (cellsOf file).length := inRange
    rw [List.getElem?_eq_getElem bound]
    exact List.getElem_mem bound
  exact readMarkup_of_isLiteral (fill.literal file mem _ isCell) (fill.noCode file mem _ isCell)

theorem textsOf_eq {files : List String} (fill : FillTable files) :
    textsOf files = .ok (files.map plainCells) := by
  rw [textsOf, columnOf_eq fill (by decide), columnOf_eq fill (by decide), columnOf_eq fill (by decide)]
  simp only [bind, Except.bind, pure, Except.pure, List.zip_map', List.map_map]
  rfl

/-- A table with a literal title in whose cells the console can draw. -/
theorem chainTable_of_texts {title : String} (titled : title ≠ "") (literal : IsLiteral title.toList)
    (noCode : HoldsNoCode title.toList) {files : List String} {texts : List (List StyledText)}
    (isTexts : textsOf files = .ok texts)
    (drawable : ∀ cells ∈ texts, ∀ cell ∈ cells, ∀ span ∈ cell.spans, IsDrawable span.style) :
    chainTable title files = .ok (String.ofList
      ((tableLines (fittedWidths Host.columns (columnWidths (headRow :: texts.map rowOf))) (some title.toList)
        (texts.map rowOf) ++ [[]]).flatMap (· ++ ['\n']))) := by
  have isTitle := readMarkup_of_isLiteral literal noCode
  have drawn : texts.forM (drawRow (fittedWidths Host.columns (columnWidths (headRow :: texts.map rowOf)))) =
      .ok () := forM_eq_ok (fun cells mem => drawRow_eq_ok (drawable cells mem))
  have drawnTitle : ∀ cutsOf, StyledText.draw ⟨title.toList, []⟩ cutsOf = .ok () := fun cutsOf =>
    draw_eq_ok (by simp) cutsOf
  simp only [chainTable, isTexts, if_neg titled, isTitle, drawn, Option.forM, drawnTitle, bind, Except.bind,
    pure, Except.pure, Except.map, Option.map]

/-- A table of names that can be put into it as they are shows the cells of every name in a line. -/
theorem chainTable_eq {title : String} (titled : title ≠ "") (literal : IsLiteral title.toList)
    (noCode : HoldsNoCode title.toList) {files : List String} (fill : FillTable files) :
    chainTable title files = .ok (String.ofList
      ((tableText title.toList (files.map cellsOf) ++ [[]]).flatMap (· ++ ['\n']))) := by
  have printable : ∀ file ∈ files, ∀ cell ∈ cellsOf file, IsPrintable cell := fun file isFile cell isCell =>
    isPrintable_cellsOf (fill.printable file isFile) isCell
  have rows : (files.map plainCells).map rowOf = (files.map cellsOf).map lineRow := by
    rw [List.map_map, List.map_map]
    apply List.map_congr_left
    intro file isFile
    have chars : (plainCells file).map StyledText.chars = cellsOf file := by
      rw [plainCells, List.map_map]
      exact List.map_id _
    rw [Function.comp_apply, Function.comp_apply, rowOf_eq, chars]
    intro cell mem
    obtain ⟨chars, isCell, rfl⟩ := List.mem_map.1 mem
    exact printable file isFile chars isCell
  have widths : fittedWidths Host.columns (columnWidths (headRow :: (files.map cellsOf).map lineRow)) =
      neededWidths (files.map cellsOf) := if_pos fill.fits
  have noSpans : ∀ cells ∈ files.map plainCells, ∀ cell ∈ cells, ∀ span ∈ cell.spans,
      IsDrawable span.style := by
    intro cells mem cell isCell span isSpan
    obtain ⟨file, -, rfl⟩ := List.mem_map.1 mem
    obtain ⟨chars, -, rfl⟩ := List.mem_map.1 isCell
    cases isSpan
  rw [chainTable_of_texts titled literal noCode (textsOf_eq fill) noSpans, rows, widths, tableLines_eq]
  intro cells mem cell isCell
  obtain ⟨file, isFile, rfl⟩ := List.mem_map.1 mem
  exact printable file isFile cell isCell

end Tables

end LayeredFiles.Console
