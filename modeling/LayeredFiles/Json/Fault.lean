/-
Module: LayeredFiles.Json.Fault
Layer: Json
Purpose: why a text is no JSON document, and where that shows.
Main exports: JsonProblem, JsonFault, JsonFault.message
-/

namespace LayeredFiles

/-- What is wrong in a JSON text. -/
inductive JsonProblem where
  | byteOrderMark
  | value
  | propertyName
  | colon
  | comma
  | extraData
  | unterminatedString
  | controlCharacter
  | escape
  | unicodeEscape
deriving DecidableEq, Repr

/-- The wording of a problem. -/
def JsonProblem.message : JsonProblem → String
  | .byteOrderMark => "Unexpected UTF-8 BOM (decode using utf-8-sig)"
  | .value => "Expecting value"
  | .propertyName => "Expecting property name enclosed in double quotes"
  | .colon => "Expecting ':' delimiter"
  | .comma => "Expecting ',' delimiter"
  | .extraData => "Extra data"
  | .unterminatedString => "Unterminated string starting at"
  | .controlCharacter => "Invalid control character at"
  | .escape => "Invalid \\escape"
  | .unicodeEscape => "Invalid \\uXXXX escape"

/-- A problem and its place: the line and the column, both from one, and the distance from the start
    of the text. -/
structure JsonFault where
  problem : JsonProblem
  line : Nat
  column : Nat
  offset : Nat
deriving DecidableEq, Repr

/-- The wording of a fault. -/
def JsonFault.message (fault : JsonFault) : String :=
  fault.problem.message ++ ": line " ++ toString fault.line ++ " column " ++ toString fault.column ++
    " (char " ++ toString fault.offset ++ ")"

end LayeredFiles
