import LayeredFiles.Number.Reading
import LayeredFiles.Yaml.Cursor
import LayeredFiles.Yaml.Fault
/-
Module: LayeredFiles.Yaml.Scalar
Layer: Yaml
Purpose: the texts of scalars: plain ones, quoted ones and blocks of lines. A line break inside a scalar
  is folded into a blank, and further breaks stand for themselves; blocks keep their lines or fold
  them, and say what becomes of the breaks at their end.
Main exports: scanPlain, scanQuoted, scanBlock
-/

namespace LayeredFiles.Yaml

/-! ### Plain scalars -/

/-- The line breaks, blanks and empty lines before a line that goes on, none if a document ends. -/
def plainBreaks : Nat → Cursor → Option (List Char × Cursor)
  | 0, c => some ([], c)
  | fuel + 1, c =>
    if c.here = ' ' then plainBreaks fuel c.next
    else if isBreak c.here then
      let (lineEnd, c) := c.takeBreak
      if c.atSeparator then none
      else (plainBreaks fuel c).map (fun r => (lineEnd ++ r.1, r.2))
    else some ([], c)

/-- What stands for the blanks and line ends at the cursor inside a plain scalar, none if the scalar
    ends with them; and whether a line ended. -/
def plainGap (c : Cursor) : Option (List Char) × Cursor × Bool :=
  let (blanks, c) := c.takeWhile (· = ' ')
  if isBreak c.here then
    let (lineEnd, c) := c.takeBreak
    if c.atSeparator then (none, c, true)
    else match plainBreaks (c.rest.length + 1) c with
      | none => (none, c.dropWhile (fun ch => ch = ' ' || isBreak ch), true)
      | some (breaks, c) =>
        let text := if lineEnd ≠ ['\n'] then lineEnd ++ breaks
          else if breaks = [] then [' '] else breaks
        (some text, c, true)
  else (if blanks = [] then none else some blanks, c, false)

/-- The character ahead ends a plain scalar. -/
def endsPlain (inFlow : Bool) (ch following : Char) : Bool :=
  isGap ch ||
    (ch = ':' && (isGap following || (inFlow && [',', '[', ']', '\x7b', '\x7d'].contains following))) ||
    (inFlow && [',', '?', '[', ']', '\x7b', '\x7d'].contains ch)

/-- The characters up to the end of a word of a plain scalar. -/
def plainWord (inFlow : Bool) : List Char → List Char
  | [] => []
  | ch :: rest =>
    if endsPlain inFlow ch (rest.head?.getD '\x00') then [] else ch :: plainWord inFlow rest

/-- The text of a plain scalar, the cursor behind it, and whether it ended at the beginning of a line.
    `gap` is what stands before the next word. -/
def scanPlainFrom (inFlow : Bool) (indent : Int) (gap : List Char) (isFresh : Bool) :
    Nat → Cursor → List Char × Cursor × Bool
  | 0, c => ([], c, isFresh)
  | fuel + 1, c =>
    if c.here = '#' then ([], c, isFresh)
    else
      let word := plainWord inFlow c.rest
      if word = [] then ([], c, isFresh)
      else
        let (next, behind, isFresh) := plainGap (Cursor.forward word.length c)
        match next with
        | none => (gap ++ word, behind, isFresh)
        | some next =>
          if behind.here = '#' || (!inFlow && (behind.column : Int) < indent) then
            (gap ++ word, behind, isFresh)
          else
            let (later, behind, isFresh) :=
              scanPlainFrom inFlow indent next isFresh fuel behind
            (gap ++ word ++ later, behind, isFresh)

/-- The text of the plain scalar at the cursor, the cursor behind it, and whether it ended at the
    beginning of a line. -/
def scanPlain (inFlow : Bool) (indent : Int) (c : Cursor) : List Char × Cursor × Bool :=
  scanPlainFrom inFlow indent [] false (c.rest.length + 1) c

/-! ### Quoted scalars -/

/-- The characters of escapes of one letter. -/
def escapedChars : List (Char × Char) := [('0', '\x00'), ('a', '\x07'), ('b', '\x08'), ('t', '\t'),
  ('\t', '\t'), ('n', '\n'), ('v', '\x0b'), ('f', '\x0c'), ('r', '\r'), ('e', '\x1b'), (' ', ' '),
  ('"', '"'), ('\\', '\\'), ('/', '/'), ('N', '\x85'), ('_', '\xa0'), ('L', '\u2028'),
  ('P', '\u2029')]

/-- How many digits the number of an escape has. -/
def escapedLengths : List (Char × Nat) := [('x', 2), ('u', 4), ('U', 8)]

/-- A hexadecimal digit. -/
def isHexDigit (c : Char) : Bool :=
  c.isDigit || ('a' ≤ c && c ≤ 'f') || ('A' ≤ c && c ≤ 'F')

/-- The number of hexadecimal digits. -/
def hexValue (digits : List Char) : Nat :=
  digits.foldl (fun n c => n * 16 + (Number.digitBelow? 16 c).getD 0) 0

/-- Why scanning a text stops before its end. -/
inductive ScanStop where
  | problem (what : YamlProblem)
  /-- An escape stands for a number that is no character. -/
  | noCharacter
  /-- An escape stands for a number that does not fit into 32 bits with its sign. -/
  | numberTooLarge
  /-- The number of a version has more digits than a whole number may have. -/
  | tooManyDigits (digits : Nat)
deriving DecidableEq, Repr

/-- The empty lines before a line of a quoted scalar that goes on. -/
def quotedBreaks : Nat → Cursor → Except ScanStop (List Char × Cursor)
  | 0, c => .ok ([], c)
  | fuel + 1, c =>
    if c.atSeparator then .error (.problem .unterminated)
    else
      let c := c.dropWhile (fun ch => ch = ' ' || ch = '\t')
      if isBreak c.here then do
        let (lineEnd, c) := c.takeBreak
        let (later, c) ← quotedBreaks fuel c
        pure (lineEnd ++ later, c)
      else .ok ([], c)

/-- What stands for the blanks and line ends at the cursor inside a quoted scalar. -/
def quotedGap (c : Cursor) : Except ScanStop (List Char × Cursor) := do
  let (blanks, c) := c.takeWhile (fun ch => ch = ' ' || ch = '\t')
  if c.rest = [] then .error (.problem .unterminated)
  else if isBreak c.here then
    let (lineEnd, c) := c.takeBreak
    let (breaks, c) ← quotedBreaks (c.rest.length + 1) c
    let text := if lineEnd ≠ ['\n'] then lineEnd ++ breaks
      else if breaks = [] then [' '] else breaks
    pure (text, c)
  else pure (blanks, c)

/-- The text of an escape whose backslash was passed. -/
def scanEscape (c : Cursor) : Except ScanStop (List Char × Cursor) :=
  match escapedChars.lookup c.here, escapedLengths.lookup c.here with
  | some ch, _ => if c.rest = [] then .error (.problem .escape) else .ok ([ch], c.next)
  | none, some length =>
    let c := c.next
    let digits := c.rest.take length
    if digits.length = length && digits.all isHexDigit then
      let n := hexValue digits
      if n < 0x110000 then
        .ok ([if Nat.isValidChar n then Char.ofNat n else '\uFFFD'], Cursor.forward length c)
      else if n < 0x80000000 then .error .noCharacter
      else .error .numberTooLarge
    else .error (.problem .escape)
  | none, none =>
    if isBreak c.here then
      let c := c.takeBreak.2
      quotedBreaks (c.rest.length + 1) c
    else .error (.problem .escape)

/-- The text up to the closing quote and the cursor behind it. -/
def scanQuotedFrom (quote : Char) : Nat → Cursor → Except ScanStop (List Char × Cursor)
  | 0, _ => .error (.problem .unterminated)
  | fuel + 1, c =>
    match c.rest with
    | [] => .error (.problem .unterminated)
    | ch :: rest =>
      if ch = quote then
        if quote = '\'' && rest.head? = some '\'' then do
          let (later, c) ← scanQuotedFrom quote fuel (Cursor.forward 2 c)
          pure ('\'' :: later, c)
        else .ok ([], c.next)
      else if quote = '"' && ch = '\\' then do
        let (text, c) ← scanEscape c.next
        let (later, c) ← scanQuotedFrom quote fuel c
        pure (text ++ later, c)
      else if isGap ch then do
        let (text, c) ← quotedGap c
        let (later, c) ← scanQuotedFrom quote fuel c
        pure (text ++ later, c)
      else do
        let (later, c) ← scanQuotedFrom quote fuel c.next
        pure (ch :: later, c)

/-- The text of the quoted scalar at the cursor, and the cursor behind it. -/
def scanQuoted (c : Cursor) : Except ScanStop (List Char × Cursor) :=
  scanQuotedFrom c.here (c.rest.length + 1) c.next

/-! ### Blocks of lines -/

/-- What becomes of the line breaks at the end of a block. -/
inductive Chomping where
  | clip | strip | keep
deriving DecidableEq, Repr

/-- The chomping that a sign asks for. -/
def chompingOf? (c : Char) : Option Chomping :=
  if c = '+' then some .keep else if c = '-' then some .strip else none

/-- The step of indentation that a digit asks for. -/
def stepOf? (c : Char) : Option Nat := if c.isDigit then some (c.toNat - 0x30) else none

/-- The header of a block behind its mark: chomping, step of indentation, and the cursor at the next
    line. -/
def scanHeader (c : Cursor) : Option (Chomping × Option Nat × Cursor) :=
  let (chomping, step, c) : Chomping × Option Nat × Cursor :=
    match chompingOf? c.here with
    | some chomping =>
      match stepOf? c.next.here with
      | some step => (chomping, some step, Cursor.forward 2 c)
      | none => (chomping, none, c.next)
    | none =>
      match stepOf? c.here with
      | some step =>
        match chompingOf? c.next.here with
        | some chomping => (chomping, some step, Cursor.forward 2 c)
        | none => (.clip, some step, c.next)
      | none => (.clip, none, c)
  if step = some 0 || !isSpaceEnd c.here then none
  else
    let c := c.skipComment
    if isLineEnd c.here then some (chomping, step, c.takeBreak.2) else none

/-- The empty lines in front of a block, and the most columns that one of its first lines is moved
    in. -/
def measureBlock (most : Nat) : Nat → Cursor → List Char × Nat × Cursor
  | 0, c => ([], most, c)
  | fuel + 1, c =>
    if c.here = ' ' then
      let c := c.next
      measureBlock (max most c.column) fuel c
    else if isBreak c.here then
      let (lineEnd, c) := c.takeBreak
      let (later, most, c) := measureBlock most fuel c
      (lineEnd ++ later, most, c)
    else ([], most, c)

/-- Passes blanks up to a column. -/
def toColumn (column : Nat) : Nat → Cursor → Cursor
  | 0, c => c
  | fuel + 1, c => if c.column < column && c.here = ' ' then toColumn column fuel c.next else c

/-- The empty lines at the cursor, and the cursor at the first column of the next line. -/
def blockBreaks (column : Nat) : Nat → Cursor → List Char × Cursor
  | 0, c => ([], c)
  | fuel + 1, c =>
    let c := toColumn column column c
    if isBreak c.here then
      let (lineEnd, c) := c.takeBreak
      let (later, c) := blockBreaks column fuel c
      (lineEnd ++ later, c)
    else ([], c)

/-- The lines of a block. Gives their text, the break behind the last line, the empty lines behind
    that, and the cursor. -/
def blockLines (folds : Bool) (column : Nat) (lineEnd breaks : List Char) :
    Nat → Cursor → List Char × List Char × List Char × Cursor
  | 0, c => ([], lineEnd, breaks, c)
  | fuel + 1, c =>
    if c.column = column && c.rest ≠ [] then
      let startsWithGap := c.here = ' ' || c.here = '\t'
      let (text, c) := c.takeWhile (fun ch => !isBreak ch)
      let (lineEnd, c) := c.takeBreak
      let (next, c) := blockBreaks column (c.rest.length + 1) c
      let goesOn := c.column = column && c.rest ≠ []
      let joint :=
        if !goesOn then []
        else if folds && lineEnd = ['\n'] && !startsWithGap && c.here ≠ ' ' && c.here ≠ '\t' then
          if next = [] then [' '] else []
        else lineEnd
      if goesOn then
        let (later, lineEnd, left, c) := blockLines folds column lineEnd next fuel c
        (breaks ++ text ++ joint ++ later, lineEnd, left, c)
      else (breaks ++ text, lineEnd, next, c)
    else ([], lineEnd, breaks, c)

/-- The text of the block whose mark stands at the cursor, and the cursor behind it. `indent` is the
    column of the node that the block belongs to. -/
def scanBlock (folds : Bool) (indent : Int) (c : Cursor) : Option (List Char × Cursor) := do
  let (chomping, step, c) ← scanHeader c.next
  let least := (max (indent + 1) 1).toNat
  let fuel := c.rest.length + 1
  let (breaks, column, c) :=
    match step with
    | none =>
      let (breaks, most, c) := measureBlock 0 fuel c
      (breaks, max least most, c)
    | some step =>
      let column := least + step - 1
      let (breaks, c) := blockBreaks column fuel c
      (breaks, column, c)
  let (text, lineEnd, left, c) := blockLines folds column [] breaks fuel c
  let tail := match chomping with
    | .clip => lineEnd
    | .strip => []
    | .keep => lineEnd ++ left
  some (text ++ tail, c)

example : (scanPlain false 1 (.start "a b\n  c: d".toList)).1 = "a b c".toList := by decide +kernel

example : ((scanQuoted (.start "\"a\\x41\n b\"".toList)).toOption.map Prod.fst) =
    some "aA b".toList := by decide +kernel

example : (scanBlock true (-1) (.start ">\n a\n b\n\n c\n".toList)).map Prod.fst =
    some "a b\nc\n".toList := by decide +kernel

end LayeredFiles.Yaml
