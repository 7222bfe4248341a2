import LayeredFiles.Chain.Name
import LayeredFiles.Console.Line
import LayeredFiles.Number.Decimal
/-
Module: LayeredFiles.Console.Table
Layer: Console
Purpose: a table with a heavy head that lists files, their bases and their chains. Every column is as
  wide as its widest line; if the console is too narrow for that, the columns behind the first are made
  narrower and their cells broken, and then all are. The title stands above the middle and is broken at blanks
  where it is wider than the table. Cells and title are console texts.
Main exports: Row, cellsOf, textsOf, columnWidths, tableWidth, fittedWidths, tableLines, chainTable
-/

namespace LayeredFiles.Console

/-- The cells of one row, each as its lines. -/
abbrev Row := List (List (List Char))

/-- The heads of the columns. -/
def heads : List (List Char) :=
  ["File".toList, "Base".toList, "Templates (applied first -> last)".toList]

/-- What a table says about a file: its name, the base and the templates in the order they apply. -/
def cellsOf (file : String) : List (List Char) :=
  let name := ChainName.parse file
  let chain := if name.hasChain then " -> ".intercalate name.templates else "-"
  [file.toList, name.base.toList, chain.toList]

/-- The cells of one column, for every file. -/
def columnOf [Host] (files : List String) (index : Nat) : Except Fault (List StyledText) :=
  files.mapM (fun file => readMarkup ((cellsOf file)[index]?.getD []))

/-- The cells of some files. What is wrong with a cell shows column by column. -/
def textsOf [Host] (files : List String) : Except Fault (List (List StyledText)) := do
  let names ← columnOf files 0
  let bases ← columnOf files 1
  let chains ← columnOf files 2
  pure ((names.zip (bases.zip chains)).map (fun e => [e.1, e.2.1, e.2.2]))

/-- The lines of the cells of a row, tabs not yet expanded. -/
def rowOf (cells : List StyledText) : Row := cells.map (fun cell => linesOf cell.chars)

/-! ### Widths -/

/-- The widest of some lines. -/
def widest (lines : List (List Char)) : Nat := (lines.map Text.width).foldl max 0

/-- The widths of the columns. -/
def columnWidths (rows : List Row) : List Nat :=
  (List.range heads.length).map (fun i => widest (rows.flatMap (fun row => (row[i]?).getD [])))

/-- The width of a table whose columns have some widths: each stands between blanks and behind a border. -/
def tableWidth (widths : List Nat) : Nat := widths.foldr (fun w total => w + 3 + total) 1

/-- How many cells some columns take together. -/
def cellsIn (widths : List Nat) : Nat := widths.foldl (· + ·) 0

/-- A column to be made narrower: its width, and by how much it may be reduced at most. -/
structure Reducible where
  width : Nat
  most : Nat
deriving DecidableEq, Repr

/-- Spreads an excess evenly over the columns that may be reduced; `parts` is their number. -/
def spreadExcess (excess parts : Nat) : List Reducible → List Nat
  | [] => []
  | column :: rest =>
    if column.most = 0 || parts = 0 then column.width :: spreadExcess excess parts rest
    else
      let share := min column.most (Number.roundHalfEven excess parts)
      (column.width - share) :: spreadExcess (excess - share) (parts - 1) rest

/-- The widths of some columns when an excess was spread over them. -/
def reduceColumns (excess : Nat) (columns : List Reducible) : List Nat :=
  spreadExcess excess (columns.countP (fun column => column.most ≠ 0)) columns

/-- Makes the columns that may be broken narrower, the widest of them first, until all columns fit into a width
    or those are equally wide; `whole` is a column that is not broken. `fuel` bounds the rounds. -/
def collapseColumns (limit whole : Nat) : Nat → List Nat → List Nat
  | 0, widths => widths
  | fuel + 1, widths =>
    let excess := whole + cellsIn widths - limit
    let largest := widths.foldl max 0
    let second := (widths.filter (· ≠ largest)).foldl max 0
    if excess = 0 || largest = second then widths
    else
      let most := min excess (largest - second)
      collapseColumns limit whole fuel (reduceColumns excess
        (widths.map (fun w => ⟨w, if w = largest then most else 0⟩)))

/-- The widths of columns, with a blank on both sides, for a table of at most some width: those that are broken
    give way first, then all of them. -/
def shrinkColumns (limit : Nat) (widths : List Nat) : List Nat :=
  let widths := widths.map (min limit)
  if cellsIn widths ≤ limit then widths
  else
    let collapsed := match widths with
      | whole :: others => whole :: collapseColumns limit whole (cellsIn widths) others
      | [] => []
    reduceColumns (cellsIn collapsed - limit) (collapsed.map (fun w => ⟨w, w⟩))

/-- The widths of the columns of a table on a console of some width, if their cells need some widths. -/
def fittedWidths (columns : Nat) (widths : List Nat) : List Nat :=
  if tableWidth widths ≤ columns then widths
  else (shrinkColumns (columns - (heads.length + 1)) (widths.map (· + 2))).map (· - 2)

/-! ### Rows -/

/-- A line of exactly one width: filled up with blanks, or cut and marked with an ellipsis. -/
def fitTo (width : Nat) (s : List Char) : List Char :=
  if Text.width s ≤ width then fillTo width s
  else fillTo (width - 1) (takeCells (width - 1) s) ++ ['…']

/-- The parts of a line of a cell. One that is too wide is broken at its blanks, unless the column keeps its
    lines whole. -/
def fittedParts (isWhole : Bool) (width : Nat) (s : List Char) : List (List Char) :=
  if isWhole then [s] else fillLines false width [] (wordsOf s)

/-- The lines that one line of a cell takes. Columns are measured before tabs are expanded, so a line
    with tabs may be too wide even where the console is not too narrow. -/
def fittedLines (isWhole : Bool) (width : Nat) (s : List Char) : List (List Char) :=
  (fittedParts isWhole width (expandTabs 0 s)).map (fun part => fitTo width (dropExcess width part))

/-- The parts into which a line of a cell is cut. -/
def fittedCuts (isWhole : Bool) (width : Nat) (s : List Char) : List Cut :=
  (fittedParts isWhole width s).map (fun part =>
    let kept := dropExcess width part
    ⟨part.length, min kept.length (fitTo width kept).length⟩)

/-- The lines of the cells of a row; the first column keeps its lines whole. -/
def fittedRow (widths : List Nat) (row : Row) : Row :=
  (widths.zip row).zipIdx.map (fun e => e.1.2.flatMap (fittedLines (e.2 = 0) e.1.1))

/-- One line of a row between its borders. -/
def rowLine (border : Char) (widths : List Nat) (cells : List (List Char)) : List Char :=
  border :: (widths.zip cells).flatMap (fun e => ' ' :: fillTo e.1 e.2 ++ [' ', border])

/-- The lines of a row, as many as its highest cell has. -/
def rowLines (border : Char) (widths : List Nat) (row : Row) : List (List Char) :=
  let row := fittedRow widths row
  let height := (row.map List.length).foldl max 1
  (List.range height).map (fun i =>
    rowLine border widths (row.map (fun cell => (cell[i]?).getD [])))

/-- A line between rows: its ends, its stroke and the crossings. -/
def ruleLine (left stroke crossing right : Char) (widths : List Nat) : List Char :=
  left :: Text.joinWith [crossing] (widths.map (fun w => List.replicate (w + 2) stroke)) ++ [right]

/-! ### Titles -/

/-- A line in the middle of a width. -/
def centred (width : Nat) (s : List Char) : List Char :=
  let s := Text.stripRight s
  fillTo width (List.replicate ((width - Text.width s) / 2) ' ' ++ s)

/-- The lines of a title above a table of some width. -/
def titleLines (width : Nat) (title : List Char) : List (List Char) :=
  ((shownLines title).flatMap (wrapWords width)).map (centred width)

/-- The parts into which a line of a title is cut. -/
def titleCuts (width : Nat) (s : List Char) : List Cut :=
  (wrapWords width s).map (fun part => ⟨part.length, (Text.stripRight part).length⟩)

/-! ### Tables -/

/-- The row of the heads. -/
def headRow : Row := heads.map (fun head => [head])

/-- The lines of a table whose columns have some widths. -/
def tableLines (widths : List Nat) (title : Option (List Char)) (rows : List Row) : List (List Char) :=
  (match title with
    | none => []
    | some title => titleLines (tableWidth widths) title) ++
    [ruleLine '┏' '━' '┳' '┓' widths] ++ rowLines '┃' widths headRow ++
    [ruleLine '┡' '━' '╇' '┩' widths] ++ rows.flatMap (rowLines '│' widths) ++
    [ruleLine '└' '─' '┴' '┘' widths]

/-- Draws what tags style in a row of cells. -/
def drawRow (widths : List Nat) (cells : List StyledText) : Except Fault Unit :=
  (widths.zip cells).zipIdx.forM (fun e => e.1.2.draw (fittedCuts (e.2 = 0) e.1.1))

/-- The title of a table of chains. -/
def defaultTitle : String := "Template chains"

/-- The table of some files, with an empty line behind it. All cells are read before the title is. -/
def chainTable [Host] (title : String) (files : List String) : Except Fault String := do
  let texts ← textsOf files
  let rows := texts.map rowOf
  let widths := fittedWidths Host.columns (columnWidths (headRow :: rows))
  let title ← if title = "" then pure none else (readMarkup title.toList).map some
  title.forM (fun title => title.draw (titleCuts (tableWidth widths)))
  texts.forM (drawRow widths)
  let lines := tableLines widths (title.map StyledText.chars) rows
  pure (String.ofList ((lines ++ [[]]).flatMap (· ++ ['\n'])))

example : fittedWidths 30 [4, 20, 33] = [4, 8, 8] := by decide +kernel

end LayeredFiles.Console
