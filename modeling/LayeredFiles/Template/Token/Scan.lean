import LayeredFiles.Template.Token
import LayeredFiles.Template.Token.Literal
/-
Module: LayeredFiles.Template.Token.Scan
Layer: Template
Purpose: a template text as tokens. Text goes on to the next tag; a tag that ends in a minus swallows
  the blanks behind it, one that begins with a minus those before it. A statement at the start of a
  line takes the blanks before it along, and the line end behind a statement or comment belongs to it.
  A plus in the tag keeps the blanks.
Main exports: tokens
-/

namespace LayeredFiles.Template

open Text

/-! ### Tags -/

/-- A sign inside a tag that says what happens to the blanks outside. -/
inductive Sign where
  | strip
  | keep
  | none
deriving DecidableEq, Repr

/-- A sign at the front of a text, and the rest. -/
def takeTagSign : List Char → Sign × List Char
  | '-' :: rest => (.strip, rest)
  | '+' :: rest => (.keep, rest)
  | s => (.none, s)

/-- What a tag opens. -/
inductive TagKind where
  | raw
  | comment
  | block
  | print
deriving DecidableEq, Repr

/-- One line end at the front of a text is dropped. -/
def dropLineEnd : List Char → List Char
  | '\n' :: rest => rest
  | s => s

/-- Drops the blanks at the front. -/
def dropBlanks (s : List Char) : List Char := s.dropWhile isBlank

/-- The end of a statement, and the rest. -/
def takeBlockEnd? : List Char → Option (List Char)
  | '+' :: '%' :: '}' :: rest => some rest
  | '-' :: '%' :: '}' :: rest => some (dropBlanks rest)
  | '%' :: '}' :: rest => some (dropLineEnd rest)
  | _ => none

/-- The end of a printed expression, and the rest. -/
def takePrintEnd? : List Char → Option (List Char)
  | '-' :: '}' :: '}' :: rest => some (dropBlanks rest)
  | '}' :: '}' :: rest => some rest
  | _ => none

/-- The end of a comment, and the rest. -/
def takeCommentEnd? : List Char → Option (List Char)
  | '+' :: '#' :: '}' :: rest => some rest
  | '-' :: '#' :: '}' :: rest => some (dropBlanks rest)
  | '#' :: '}' :: rest => some (dropLineEnd rest)
  | _ => none

/-- The rest of a tag that starts raw text, after its opening; the line end behind it is kept. -/
def takeRawBegin? (s : List Char) : Option (List Char) :=
  match stripPrefix? "raw".toList (dropBlanks s) with
  | some rest =>
    match dropBlanks rest with
    | '-' :: '%' :: '}' :: rest => some (dropBlanks rest)
    | '%' :: '}' :: rest => some rest
    | _ => none
  | none => none

/-- The tag that ends raw text: its sign, and the rest. -/
def takeRawEnd? : List Char → Option (Sign × List Char)
  | '{' :: '%' :: rest =>
    let (sign, rest) := takeTagSign rest
    match stripPrefix? "endraw".toList (dropBlanks rest) with
    | some rest => (takeBlockEnd? (dropBlanks rest)).map (sign, ·)
    | none => none
  | _ => none

/-- An opening tag at the front of a text: what it opens, its sign, and the rest. -/
def takeTag? : List Char → Option (TagKind × Sign × List Char)
  | '{' :: '{' :: rest =>
    let (sign, rest) := takeTagSign rest
    some (.print, sign, rest)
  | '{' :: '#' :: rest =>
    let (sign, rest) := takeTagSign rest
    some (.comment, sign, rest)
  | '{' :: '%' :: rest =>
    let (sign, rest) := takeTagSign rest
    match takeRawBegin? rest with
    | some rest => some (.raw, sign, rest)
    | none => some (.block, sign, rest)
  | _ => none

/-- The text before the first place where something is found, and what is found there. -/
def textBefore {α : Type} (found? : List Char → Option α) : List Char → List Char × Option α
  | [] => ([], none)
  | c :: rest =>
    match found? (c :: rest) with
    | some found => ([], some found)
    | none =>
      let (text, found) := textBefore found? rest
      (c :: text, found)

/-- The blanks at the end of a text are dropped if they start a line and nothing else stands on it.
    `startsLine` says that the text itself starts on a new line. -/
def dropIndent (startsLine : Bool) (text : List Char) : List Char :=
  let last := (text.reverse.takeWhile (· != '\n')).reverse
  let isWholeText := last.length = text.length
  if (!isWholeText || startsLine) && last.all isBlank then text.take (text.length - last.length)
  else text

/-- What remains of the text before a tag. -/
def textBeforeTag (startsLine : Bool) (sign : Sign) (isPrint : Bool) (text : List Char) : List Char :=
  match sign with
  | .strip => stripRight text
  | .keep => text
  | .none => if isPrint then text else dropIndent startsLine text

/-! ### Steps -/

/-- Where the reader is: outside of tags, in a comment or raw text, or in a tag with the brackets that
    are still open there, innermost first. -/
inductive Mode where
  | text
  | comment
  | raw
  | tag (isBlock : Bool) (pending : List Operator)
deriving DecidableEq, Repr

/-- What one step finds: token kinds, the mode to go on in, and the rest; or a fault. -/
inductive Step where
  | more (found : List TokenKind) (mode : Mode) (rest : List Char)
  | fault (found : List TokenKind) (fault : SyntaxFault)

/-- Text as a token, if there is any. -/
def dataToken (text : List Char) : List TokenKind := if text = [] then [] else [.data text]

/-- The bracket that closes an opening one. -/
def Operator.closing? : Operator → Option Operator
  | .leftBrace => some .rightBrace
  | .leftParen => some .rightParen
  | .leftBracket => some .rightBracket
  | _ => none

/-- A bracket that closes. -/
def Operator.isClosing : Operator → Bool
  | .rightBrace => true
  | .rightParen => true
  | .rightBracket => true
  | _ => false

/-- The operator at the front of a text, the longest that fits. -/
def takeOperator? (s : List Char) : Option (Operator × List Char) :=
  operators.findSome? (fun op => (stripPrefix? op.text.toList s).map (op, ·))

/-- A step over text up to the next tag. -/
def textStep (startsLine : Bool) (s : List Char) : Step :=
  match textBefore takeTag? s with
  | (text, none) => .more (dataToken text) .text []
  | (text, some (kind, sign, rest)) =>
    let data := dataToken (textBeforeTag startsLine sign (kind = .print) text)
    match kind with
    | .raw => .more data .raw rest
    | .comment => .more data .comment rest
    | .block => .more (data ++ [.blockBegin]) (.tag true []) rest
    | .print => .more (data ++ [.printBegin]) (.tag false []) rest

/-- A step over a comment. -/
def commentStep (s : List Char) : Step :=
  match textBefore takeCommentEnd? s with
  | (_, some rest) => .more [] .text rest
  | (_, none) => .fault [] .unclosedComment

/-- A step over raw text. -/
def rawStep (startsLine : Bool) (s : List Char) : Step :=
  match textBefore takeRawEnd? s with
  | (text, some (sign, rest)) =>
    .more (dataToken (textBeforeTag startsLine sign false text)) .text rest
  | (_, none) => .fault [] .unclosedRaw

/-- A step over an operator. Brackets must match. -/
def operatorStep (isBlock : Bool) (pending : List Operator) (op : Operator) (rest : List Char) : Step :=
  match op.closing? with
  | some closing => .more [.operator op] (.tag isBlock (closing :: pending)) rest
  | none =>
    if op.isClosing then
      match pending with
      | [] => .fault [] (.unexpectedClosing op.text)
      | expected :: pending =>
        if expected = op then .more [.operator op] (.tag isBlock pending) rest
        else .fault [] (.mismatchedClosing op.text expected.text)
    else .more [.operator op] (.tag isBlock pending) rest

/-- A step over a blank, a literal, a name or an operator. `afterDot` says that a dot stands just
    before, and `offset` is the place in the whole text. -/
def expressionStep (offset : Nat) (afterDot isBlock : Bool) (pending : List Operator)
    (c : Char) (s : List Char) : Step :=
  let mode := Mode.tag isBlock pending
  if isBlank c then .more [] mode (dropBlanks (c :: s))
  else match (if afterDot then none else takeReal? (c :: s)) with
  | some (x, rest) => .more [.real x] mode rest
  | none =>
    match takeInteger? (c :: s) with
    | some (n, rest) => .more [.integer n] mode rest
    | none =>
      if isWordChar c then
        let name := (c :: s).takeWhile isWordChar
        if isIdentifier name then
          .more [.name (String.ofList name)] mode ((c :: s).dropWhile isWordChar)
        else .fault [] .identifier
      else match takeString? (c :: s) with
        | some (.ok text, rest) => .more [.string (String.ofList text)] mode rest
        | some (.error fault, _) => .fault [] fault
        | none =>
          match takeOperator? (c :: s) with
          | some (op, rest) => operatorStep isBlock pending op rest
          | none => .fault [] (.unexpectedChar c offset)

/-- The end of a tag in which no bracket is open. -/
def tagEnd? (isBlock : Bool) (s : List Char) : Option (TokenKind × List Char) :=
  if isBlock then (takeBlockEnd? s).map (.blockEnd, ·) else (takePrintEnd? s).map (.printEnd, ·)

/-- A step inside a tag. -/
def tagStep (offset : Nat) (afterDot isBlock : Bool) (pending : List Operator) (s : List Char) : Step :=
  match s with
  | [] => .more [] (.tag isBlock pending) []
  | c :: rest =>
    match (if pending = [] then tagEnd? isBlock (c :: rest) else none) with
    | some (kind, rest) => .more [kind] .text rest
    | none => expressionStep offset afterDot isBlock pending c rest

/-! ### The whole text -/

/-- How far the reader has come. -/
structure Progress where
  mode : Mode
  offset : Nat
  line : Nat
  /-- The character just before, if any. -/
  last : Option Char

/-- The next text starts a line. -/
def Progress.startsLine (p : Progress) : Bool := p.last = none || p.last = some '\n'

/-- One step from where the reader is. -/
def Progress.step (p : Progress) (s : List Char) : Step :=
  match p.mode with
  | .text => textStep p.startsLine s
  | .comment => commentStep s
  | .raw => rawStep p.startsLine s
  | .tag isBlock pending => tagStep p.offset (p.last = some '.') isBlock pending s

/-- Where the reader is after it has passed some characters. -/
def Progress.pass (p : Progress) (passed : List Char) (mode : Mode) : Progress :=
  ⟨mode, p.offset + passed.length, p.line + passed.count '\n',
    match passed.getLast? with
    | some c => some c
    | none => p.last⟩

/-- The tokens of a text from where the reader is. Every step passes a character. -/
def tokensFrom (p : Progress) (s : List Char) : List Token :=
  if s = [] then []
  else match p.step s with
    | .fault found fault =>
      (found.map (⟨p.line, ·⟩ : TokenKind → Token)) ++ [⟨p.line, .bad fault⟩]
    | .more found mode rest =>
      let here := found.map (⟨p.line, ·⟩ : TokenKind → Token)
      if rest.length < s.length then
        here ++ tokensFrom (p.pass (s.take (s.length - rest.length)) mode) rest
      else here
termination_by s.length

/-- The tokens of a template text, whose line ends are made uniform first. -/
def tokens (source : List Char) : List Token := tokensFrom ⟨.text, 0, 1, none⟩ (unifyNewlines source)

example : (tokens "a\n  {% if x -%}  b".toList).map (·.kind) =
    [.data "a\n".toList, .blockBegin, .name "if", .name "x", .blockEnd, .data "b".toList] := by
  decide +kernel

end LayeredFiles.Template
