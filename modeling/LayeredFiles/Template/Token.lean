import LayeredFiles.Template.Fault
import LayeredFiles.Number.Binary64
/-
Module: LayeredFiles.Template.Token
Layer: Template
Purpose: the tokens of a template. Text outside of tags is one token; the tags are cut into names,
  literals and operators. A fault in the text is a token as well, the last one: it only counts when a
  reader gets there.
Main exports: Operator, Operator.text, TokenKind, TokenKind.describe, Token
-/

namespace LayeredFiles.Template

open Number

/-- The operators and brackets of expressions. -/
inductive Operator where
  | add | sub | mul | div | floorDiv | mod | pow | tilde
  | leftBracket | rightBracket | leftParen | rightParen | leftBrace | rightBrace
  | eq | ne | gt | ge | lt | le | assign | dot | colon | pipe | comma | semicolon
deriving DecidableEq, Repr

/-- The spelling of an operator. -/
def Operator.text : Operator → String
  | .add => "+" | .sub => "-" | .mul => "*" | .div => "/" | .floorDiv => "//" | .mod => "%"
  | .pow => "**" | .tilde => "~" | .leftBracket => "[" | .rightBracket => "]" | .leftParen => "("
  | .rightParen => ")" | .leftBrace => "\x7b" | .rightBrace => "\x7d" | .eq => "==" | .ne => "!="
  | .gt => ">" | .ge => ">=" | .lt => "<" | .le => "<=" | .assign => "=" | .dot => "."
  | .colon => ":" | .pipe => "|" | .comma => "," | .semicolon => ";"

/-- The operators, those of two characters first. -/
def operators : List Operator :=
  [.floorDiv, .pow, .eq, .ne, .ge, .le, .add, .sub, .div, .mul, .mod, .tilde, .leftBracket,
   .rightBracket, .leftParen, .rightParen, .leftBrace, .rightBrace, .gt, .lt, .assign, .dot, .colon,
   .pipe, .comma, .semicolon]

/-- What a token is. -/
inductive TokenKind where
  /-- Text outside of tags. -/
  | data (text : List Char)
  | blockBegin
  | blockEnd
  | printBegin
  | printEnd
  | name (name : String)
  | string (text : String)
  | integer (n : Nat)
  | real (x : Binary64)
  | operator (op : Operator)
  /-- The text cannot be cut any further. -/
  | bad (fault : SyntaxFault)
deriving DecidableEq, Repr

/-- A token and the line it starts on. -/
structure Token where
  line : Nat
  kind : TokenKind
deriving DecidableEq, Repr

/-- How messages call the end of the text. -/
def endDescription : String := "end of template"

/-- How messages call a token. A name is called by itself. -/
def TokenKind.describe : TokenKind → String
  | .data _ => "template data / text"
  | .blockBegin => "begin of statement block"
  | .blockEnd => "end of statement block"
  | .printBegin => "begin of print statement"
  | .printEnd => "end of print statement"
  | .name n => n
  | .string _ => "string"
  | .integer _ => "integer"
  | .real _ => "float"
  | .operator op => op.text
  | .bad _ => endDescription

end LayeredFiles.Template
