import LayeredFiles.Text.Codec
import LayeredFiles.Yaml.Scalar
/-
Module: LayeredFiles.Yaml.Token
Layer: Yaml
Purpose: the tokens of a YAML text. Blocks are opened and closed where the indentation changes. A key
  need not be marked: what turns out to be followed by a colon becomes one afterwards, if it stands on
  one line and is not too long; what must be a key and is followed by none is refused. Where scanning stops,
  the tokens that can no longer turn out to be keys are there to be read.
Main exports: Token, Token.describe, Scanned, scanTokens
-/

namespace LayeredFiles.Yaml

/-- A token. -/
inductive Token where
  | versionDirective (major minor : Nat)
  | tagDirective (handle start : String)
  | otherDirective
  | documentStart
  | documentEnd
  | blockSequenceStart
  | blockMappingStart
  | blockEnd
  | flowSequenceStart
  | flowSequenceEnd
  | flowMappingStart
  | flowMappingEnd
  | flowEntry
  | blockEntry
  | key
  | value
  | alias (name : String)
  | anchor (name : String)
  /-- A tag, short for the handle's text and the rest, or in full. -/
  | tag (handle : Option String) (rest : String)
  | scalar (text : String) (isPlain : Bool)
  | streamEnd
deriving DecidableEq, Repr

/-- How messages call a token. -/
def Token.describe : Token → String
  | .versionDirective _ _ => "directive"
  | .tagDirective _ _ => "directive"
  | .otherDirective => "directive"
  | .documentStart => "document start"
  | .documentEnd => "document end"
  | .blockSequenceStart => "block sequence start"
  | .blockMappingStart => "block mapping start"
  | .blockEnd => "block end"
  | .flowSequenceStart => "'['"
  | .flowSequenceEnd => "']'"
  | .flowMappingStart => "'\x7b'"
  | .flowMappingEnd => "'\x7d'"
  | .flowEntry => "','"
  | .blockEntry => "'-'"
  | .key => "'?'"
  | .value => "':'"
  | .alias _ => "alias"
  | .anchor _ => "anchor"
  | .tag _ _ => "tag"
  | .scalar _ _ => "scalar"
  | .streamEnd => "end of the stream"

/-- A place that may turn out to be a key: the number of tokens before it and where it stands. -/
structure KeyPlace where
  count : Nat
  isRequired : Bool
  index : Nat
  line : Nat
  column : Nat

/-- The state of scanning. -/
structure Scanner where
  cursor : Cursor
  /-- The tokens so far, the last one first. -/
  tokens : List Token
  count : Nat
  flowLevel : Nat
  indent : Int
  indents : List Int
  allowsKey : Bool
  /-- The places that may be keys, by the level of brackets they stand at. -/
  keys : List (Nat × KeyPlace)

/-- What is scanned of a text: the tokens that can be read, and why there are no more if the text is not at
    its end. -/
structure Scanned where
  tokens : List Token
  stop : Option ScanStop

/-- A step of scanning. -/
abbrev Scan (α : Type) := Except ScanStop α

/-- Stops with a problem. -/
def problem {α : Type} (what : YamlProblem) : Scan α := .error (.problem what)

namespace Scanner

/-- The state before a text. -/
def start (s : List Char) : Scanner := ⟨.start s, [], 0, 0, -1, [], true, []⟩

/-- Puts a token behind the others. -/
def push (s : Scanner) (t : Token) : Scanner := { s with tokens := t :: s.tokens, count := s.count + 1 }

/-- Puts a token in front of the place where so many tokens stand before it. -/
def insertAt (s : Scanner) (count : Nat) (t : Token) : Scanner :=
  let later := s.count - count
  { s with tokens := s.tokens.take later ++ t :: s.tokens.drop later, count := s.count + 1 }

/-- Whether brackets are open. -/
def inFlow (s : Scanner) : Bool := s.flowLevel != 0

/-! ### Places that may be keys -/

/-- A place that is too far back to be a key. -/
def isStale (s : Scanner) (k : KeyPlace) : Bool :=
  k.line != s.cursor.line || 1024 < s.cursor.index - k.index

/-- Forgets places that are too far back; one that has to be a key is refused. -/
def dropStaleKeys (s : Scanner) : Scan Scanner :=
  if s.keys.any (fun e => s.isStale e.2 && e.2.isRequired) then problem .key
  else .ok { s with keys := s.keys.filter (fun e => !s.isStale e.2) }

/-- The tokens in front of the first place that may still turn out to be a key. -/
def settled (s : Scanner) : List Token :=
  let places := s.keys.filter (fun e => !s.isStale e.2)
  s.tokens.reverse.take ((places.map (fun e => e.2.count)).foldl min s.count)

/-- Forgets the place at the present level; one that has to be a key is refused. -/
def dropKey (s : Scanner) : Scan Scanner :=
  match s.keys.lookup s.flowLevel with
  | some k =>
    if k.isRequired then problem .key
    else .ok { s with keys := s.keys.filter (fun e => e.1 != s.flowLevel) }
  | none => .ok s

/-- Remembers that the next token may be a key. -/
def markKey (s : Scanner) : Scan Scanner :=
  if s.allowsKey then do
    let s ← s.dropKey
    let isRequired := !s.inFlow && s.indent == (s.cursor.column : Int)
    let place : KeyPlace :=
      ⟨s.count, isRequired, s.cursor.index, s.cursor.line, s.cursor.column⟩
    pure { s with keys := (s.flowLevel, place) :: s.keys }
  else .ok s

/-! ### Indentation -/

/-- Closes the blocks that are further in than a column. -/
def unwind (s : Scanner) (column : Int) : List Int → Scanner
  | [] => { s with indents := [] }
  | outer :: rest =>
    if column < s.indent then unwind (({ s with indent := outer }).push .blockEnd) column rest
    else { s with indents := outer :: rest }

/-- Closes blocks unless brackets are open. -/
def unwindTo (s : Scanner) (column : Int) : Scanner :=
  if s.inFlow then s else s.unwind column s.indents

/-- Opens a block at a column if that is further in. -/
def indentTo (s : Scanner) (column : Nat) : Scanner × Bool :=
  if s.indent < column then ({ s with indents := s.indent :: s.indents, indent := column }, true)
  else (s, false)

/-! ### Tokens -/

/-- Ends all blocks and forbids a key. -/
def closeAll (s : Scanner) : Scan Scanner := do
  let s ← (s.unwindTo (-1)).dropKey
  pure { s with allowsKey := false }

/-- Goes on behind so many characters. -/
def skip (s : Scanner) (n : Nat) : Scanner := { s with cursor := s.cursor.forward n }

/-- An opening bracket, which may start a key. -/
def openFlow (s : Scanner) (t : Token) : Scan Scanner := do
  let s ← s.markKey
  pure (({ s with flowLevel := s.flowLevel + 1, allowsKey := true }).skip 1 |>.push t)

/-- A closing bracket. -/
def closeFlow (s : Scanner) (t : Token) : Scan Scanner := do
  let s ← s.dropKey
  if s.flowLevel = 0 then problem (.content t.describe)
  else pure (({ s with flowLevel := s.flowLevel - 1, allowsKey := false }).skip 1 |>.push t)

/-- The dash, the question mark or the colon of a block: opens a block of its kind here. -/
def openBlock (s : Scanner) (t : Token) : Scan Scanner :=
  if s.inFlow then .ok s
  else if !s.allowsKey then problem .indentation
  else
    let (s, isNew) := s.indentTo s.cursor.column
    .ok (if isNew then s.push t else s)

/-- The dash of an item. -/
def fetchBlockEntry (s : Scanner) : Scan Scanner := do
  let s ← s.openBlock .blockSequenceStart
  let s ← ({ s with allowsKey := true }).dropKey
  pure ((s.skip 1).push .blockEntry)

/-- The mark of a key. -/
def fetchKey (s : Scanner) : Scan Scanner := do
  let s ← s.openBlock .blockMappingStart
  let s ← ({ s with allowsKey := !s.inFlow }).dropKey
  pure ((s.skip 1).push .key)

/-- The colon of a value: what may be a key at this level is one. -/
def fetchValue (s : Scanner) : Scan Scanner := do
  match s.keys.lookup s.flowLevel with
  | some place =>
    let s := { s with keys := s.keys.filter (fun e => e.1 != s.flowLevel) }
    let s := s.insertAt place.count .key
    let s :=
      if s.inFlow then s
      else
        let (s, isNew) := s.indentTo place.column
        if isNew then s.insertAt place.count .blockMappingStart else s
    pure ((({ s with allowsKey := false }).skip 1).push .value)
  | none =>
    let s ← s.openBlock .blockMappingStart
    let s ← ({ s with allowsKey := !s.inFlow }).dropKey
    pure ((s.skip 1).push .value)

/-- The name of an anchor or alias behind its mark, and the cursor behind it. -/
def scanName (c : Cursor) : Scan (String × Cursor) :=
  let (name, c) := c.takeWhile isNameChar
  let following := c.here
  if name = [] ||
      !(isGap following || ['?', ':', ',', ']', '\x7d', '%', '@', (Char.ofNat 0x60)].contains following)
  then problem .anchorName
  else .ok (String.ofList name, c)

/-- The mark of an anchor or alias and its name. -/
def fetchName (s : Scanner) (token : String → Token) : Scan Scanner := do
  let s ← s.markKey
  let (name, c) ← scanName s.cursor.next
  pure (({ s with allowsKey := false, cursor := c }).push (token name))

/-! ### Tags and directives -/

/-- A character of a tag. -/
def isTagChar (c : Char) : Bool :=
  isNameChar c || "-;/?:@&=+$,_.!~*'()[]%".toList.contains c

/-- The bytes of escapes with percent signs. -/
def escapedBytes : List Char → Option (List UInt8 × List Char)
  | '%' :: a :: b :: rest =>
    if isHexDigit a && isHexDigit b then
      (escapedBytes rest).map (fun r => (UInt8.ofNat (hexValue [a, b]) :: r.1, r.2))
    else none
  | '%' :: _ => none
  | rest => some ([], rest)

/-- The text of a tag with its escapes resolved; `fuel` bounds the number of characters. -/
def unescapeTag : Nat → List Char → Option (List Char)
  | 0, _ => some []
  | _ + 1, [] => some []
  | fuel + 1, '%' :: rest =>
    match escapedBytes ('%' :: rest) with
    | none => none
    | some (bytes, rest) =>
      match Text.Encoding.utf8.decode bytes with
      | .ok chars => (unescapeTag fuel rest).map (chars ++ ·)
      | .error _ => none
  | fuel + 1, c :: rest => (unescapeTag fuel rest).map (c :: ·)

/-- The rest of a tag. -/
def scanTagText (what : YamlProblem) (c : Cursor) : Scan (String × Cursor) :=
  let (raw, c) := c.takeWhile isTagChar
  match raw, unescapeTag (raw.length + 1) raw with
  | [], _ => problem what
  | _, none => problem what
  | _, some text => .ok (String.ofList text, c)

/-- The handle of a tag: one exclamation mark, or two with a name between them. -/
def scanHandle (what : YamlProblem) (c : Cursor) : Scan (String × Cursor) :=
  if c.here ≠ '!' then problem what
  else if c.peek 1 = ' ' then .ok ("!", c.next)
  else
    let (name, behind) := c.next.takeWhile isNameChar
    if behind.here = '!' then .ok (String.ofList ('!' :: name ++ ['!']), behind.next) else problem what

/-- A tag. -/
def scanTag (c : Cursor) : Scan (Token × Cursor) := do
  let (token, c) ←
    if c.peek 1 = '<' then do
      let (text, c) ← scanTagText .tagName (c.forward 2)
      if c.here = '>' then pure (Token.tag none text, c.next) else problem .tagName
    else if isGap (c.peek 1) then pure (Token.tag none "!", c.next)
    else do
      let word := (c.next.rest).takeWhile (fun ch => !isSpaceEnd ch)
      if word.contains '!' then
        let (handle, c) ← scanHandle .tagName c
        let (text, c) ← scanTagText .tagName c
        pure (Token.tag (some handle) text, c)
      else
        let (text, c) ← scanTagText .tagName c.next
        pure (Token.tag (some "!") text, c)
  if isSpaceEnd c.here then pure (token, c) else problem .tagName

/-- A number of a version. -/
def scanNumber (c : Cursor) : Scan (Nat × Cursor) :=
  let (digits, c) := c.takeWhile Char.isDigit
  if digits = [] then problem .directive
  else if Number.digitLimit < digits.length then .error (.tooManyDigits digits.length)
  else .ok (digits.foldl (fun n d => n * 10 + (d.toNat - 0x30)) 0, c)

/-- A directive, whose percent sign stands at the cursor, and the cursor at the next line. -/
def scanDirective (c : Cursor) : Scan (Token × Cursor) := do
  let (name, c) := c.next.takeWhile isNameChar
  if name = [] || !isSpaceEnd c.here then problem .directive
  else
    let (token, c) ←
      if name = "YAML".toList then do
        let (major, c) ← scanNumber (c.dropWhile (· = ' '))
        if c.here ≠ '.' then problem .directive
        else
          let (minor, c) ← scanNumber c.next
          if isSpaceEnd c.here then pure (Token.versionDirective major minor, c)
          else problem .directive
      else if name = "TAG".toList then do
        let (handle, c) ← scanHandle .directive (c.dropWhile (· = ' '))
        if c.here ≠ ' ' then problem .directive
        else
          let (text, c) ← scanTagText .directive (c.dropWhile (· = ' '))
          if isSpaceEnd c.here then pure (Token.tagDirective handle text, c) else problem .directive
      else pure (Token.otherDirective, c.dropWhile (fun ch => !isBreak ch))
    let c := c.skipComment
    if isLineEnd c.here then pure (token, c.takeBreak.2) else problem .directive

/-! ### The next token -/

/-- Passes blanks, comments and line ends. `fuel` bounds the number of lines. -/
def toNext : Nat → Scanner → Scanner
  | 0, s => s
  | fuel + 1, s =>
    let c := s.cursor.skipComment
    if isBreak c.here then
      toNext fuel { s with cursor := c.takeBreak.2, allowsKey := s.allowsKey || !s.inFlow }
    else { s with cursor := c }

/-- A character that starts no plain scalar. -/
def isIndicator (c : Char) : Bool :=
  "-?:,[]\x7b\x7d#&*!|>'\"%@".toList.contains c || c = Char.ofNat 0x60

/-- A plain scalar starts at the cursor. -/
def startsPlain (s : Scanner) : Bool :=
  let ch := s.cursor.here
  (!isGap ch && !isIndicator ch) ||
    (!isGap (s.cursor.peek 1) && (ch = '-' || (!s.inFlow && (ch = '?' || ch = ':'))))

/-- A quoted scalar. -/
def fetchQuoted (s : Scanner) : Scan Scanner := do
  let s ← s.markKey
  let (text, c) ← scanQuoted s.cursor
  pure (({ s with allowsKey := false, cursor := c }).push (.scalar (String.ofList text) false))

/-- A plain scalar. -/
def fetchPlain (s : Scanner) : Scan Scanner := do
  let s ← s.markKey
  let (text, c, isFresh) := scanPlain s.inFlow (s.indent + 1) s.cursor
  pure (({ s with allowsKey := isFresh, cursor := c }).push (.scalar (String.ofList text) true))

/-- A block of lines. -/
def fetchBlock (s : Scanner) (folds : Bool) : Scan Scanner := do
  let s ← ({ s with allowsKey := true }).dropKey
  match scanBlock folds s.indent s.cursor with
  | none => problem .blockHeader
  | some (text, c) => pure (({ s with cursor := c }).push (.scalar (String.ofList text) false))

/-- The next token, with the blocks that end before it; the last component says that the text is at its
    end. -/
def fetch (s : Scanner) : Scan (Scanner × Bool) := do
  let s ← (toNext (s.cursor.rest.length + 1) s).dropStaleKeys
  let s := s.unwindTo s.cursor.column
  let c := s.cursor
  let ch := c.here
  let isAlone := isGap (c.peek 1)
  let next (step : Scan Scanner) : Scan (Scanner × Bool) := step.map (·, false)
  if c.rest = [] then
    let s ← s.closeAll
    pure (s.push .streamEnd, true)
  else if ch = '%' && c.column = 0 then
    let s ← s.closeAll
    let (token, c) ← scanDirective c
    pure (({ s with cursor := c }).push token, false)
  else if c.column = 0 && c.atMark '-' then
    next (s.closeAll.map (fun s => (s.skip 3).push .documentStart))
  else if c.column = 0 && c.atMark '.' then
    next (s.closeAll.map (fun s => (s.skip 3).push .documentEnd))
  else if ch = '[' then next (s.openFlow .flowSequenceStart)
  else if ch = '\x7b' then next (s.openFlow .flowMappingStart)
  else if ch = ']' then next (s.closeFlow .flowSequenceEnd)
  else if ch = '\x7d' then next (s.closeFlow .flowMappingEnd)
  else if ch = ',' then
    next (({ s with allowsKey := true }).dropKey.map (fun s : Scanner => (s.skip 1).push .flowEntry))
  else if ch = '-' && isAlone then next s.fetchBlockEntry
  else if ch = '?' && (s.inFlow || isAlone) then next s.fetchKey
  else if ch = ':' && (s.inFlow || isAlone) then next s.fetchValue
  else if ch = '*' then next (s.fetchName .alias)
  else if ch = '&' then next (s.fetchName .anchor)
  else if ch = '!' then
    let s ← s.markKey
    let (token, c) ← scanTag s.cursor
    pure (({ s with allowsKey := false, cursor := c }).push token, false)
  else if ch = '|' && !s.inFlow then next (s.fetchBlock false)
  else if ch = '>' && !s.inFlow then next (s.fetchBlock true)
  else if ch = '\'' || ch = '"' then next s.fetchQuoted
  else if s.startsPlain then next s.fetchPlain
  else problem (.character ch)

/-- All tokens; every token but the last takes a character, so `fuel` bounds their number. -/
def fetchAll : Nat → Scanner → Scanned
  | 0, s => ⟨s.tokens.reverse, none⟩
  | fuel + 1, s =>
    match s.fetch with
    | .error stop => ⟨s.settled, some stop⟩
    | .ok (s, true) => ⟨s.tokens.reverse, none⟩
    | .ok (s, false) => fetchAll fuel s

end Scanner

/-- The tokens of a text. All its characters are looked at before the first token is. -/
def scanTokens (s : List Char) : Scanned :=
  match s.find? (fun c => !isPrintable c) with
  | some c => ⟨[], some (.problem (.character c))⟩
  | none =>
    let s := match s with
      | '\uFEFF' :: rest => rest
      | s => s
    Scanner.fetchAll (s.length + 1) (.start s)

example : (scanTokens "a: [b]\n".toList).tokens.map Token.describe =
    ["block mapping start", "'?'", "scalar", "':'", "'['", "scalar", "']'", "block end",
      "end of the stream"] := by decide +kernel

example : (scanTokens "- *a\n- *b *\n".toList).tokens = [.blockSequenceStart, .blockEntry, .alias "a",
    .blockEntry] := by decide +kernel

end LayeredFiles.Yaml
