import LayeredFiles.Text.Split
/-
Module: LayeredFiles.Yaml.Cursor
Layer: Yaml
Purpose: a place in a YAML text, with its line and column, and the classes of characters that the
  grammar tells apart. Behind the end of the text stands a null character, which no text holds.
Main exports: Cursor, Cursor.peek, Cursor.forward, Cursor.takeBreak, isBreak, isGap, isPrintable
-/

namespace LayeredFiles.Yaml

/-- A character that a YAML text may hold. -/
def isPrintable (c : Char) : Bool :=
  let n := c.toNat
  n = 0x09 || n = 0x0A || n = 0x0D || (0x20 ≤ n && n ≤ 0x7E) || n = 0x85 ||
    (0xA0 ≤ n && n ≤ 0xFFFD) || 0x10000 ≤ n

/-- A character that ends a line. -/
def isBreak (c : Char) : Bool :=
  c = '\n' || c = '\r' || c = '\x85' || c = '\u2028' || c = '\u2029'

/-- The end of a line or of the text. -/
def isLineEnd (c : Char) : Bool := c = '\x00' || isBreak c

/-- The end of a line or of the text, or a blank that is no tab. -/
def isSpaceEnd (c : Char) : Bool := c = ' ' || isLineEnd c

/-- The end of a line or of the text, or a blank. -/
def isGap (c : Char) : Bool := c = '\t' || isSpaceEnd c

/-- A character of the names of anchors and tag handles. -/
def isNameChar (c : Char) : Bool := c.isAlphanum || c = '-' || c = '_'

/-- What is left of a text, and how far it has been read. -/
structure Cursor where
  rest : List Char
  index : Nat
  line : Nat
  column : Nat
deriving DecidableEq, Repr

namespace Cursor

/-- The start of a text. -/
def start (s : List Char) : Cursor := ⟨s, 0, 0, 0⟩

/-- The character that stands so many places ahead. -/
def peek (c : Cursor) (ahead : Nat) : Char := (c.rest[ahead]?).getD '\x00'

/-- The character at the cursor. -/
def here (c : Cursor) : Char := c.peek 0

/-- Passes one character. A carriage return in front of a line feed ends no line of its own. -/
def next (c : Cursor) : Cursor :=
  match c.rest with
  | [] => c
  | ch :: rest =>
    if isBreak ch && !(ch = '\r' && rest.head? = some '\n') then ⟨rest, c.index + 1, c.line + 1, 0⟩
    else ⟨rest, c.index + 1, c.line, if ch = '\uFEFF' then c.column else c.column + 1⟩

/-- Passes so many characters. -/
def forward : Nat → Cursor → Cursor
  | 0, c => c
  | n + 1, c => forward n c.next

/-- The characters from the cursor on that satisfy a condition, and the cursor behind them. -/
def takeWhile (p : Char → Bool) (c : Cursor) : List Char × Cursor :=
  let run := c.rest.takeWhile p
  (run, forward run.length c)

/-- The cursor behind all characters that satisfy a condition. -/
def dropWhile (p : Char → Bool) (c : Cursor) : Cursor := (c.takeWhile p).2

/-- The line end at the cursor as a text keeps it, and the cursor behind it. -/
def takeBreak (c : Cursor) : List Char × Cursor :=
  match c.rest with
  | '\r' :: '\n' :: _ => (['\n'], forward 2 c)
  | ch :: _ =>
    if ch = '\u2028' || ch = '\u2029' then ([ch], c.next)
    else if isBreak ch then (['\n'], c.next)
    else ([], c)
  | [] => ([], c)

/-- A line of three dashes or dots starts here, which separates documents. -/
def atMark (c : Cursor) (mark : Char) : Bool :=
  c.rest.take 3 = [mark, mark, mark] && isGap (c.peek 3)

/-- A mark that separates documents starts here. -/
def atSeparator (c : Cursor) : Bool := c.atMark '-' || c.atMark '.'

/-- Passes blanks and a comment up to the end of the line. -/
def skipComment (c : Cursor) : Cursor :=
  let c := c.dropWhile (· = ' ')
  if c.here = '#' then c.dropWhile (fun ch => !isBreak ch) else c

end Cursor

end LayeredFiles.Yaml
