import LayeredFiles.Number.Decimal
import LayeredFiles.Text.Quoted
import LayeredFiles.Text.Split
import LayeredFiles.Value.Basic
/-
Module: LayeredFiles.Json.Write
Layer: Json
Purpose: writing values as JSON documents over several lines. A number that is not finite has no form in
  JSON and is written as null.
Main exports: Json.writeText, Json.writeValue, Json.write
-/

namespace LayeredFiles.Json

open Number

/-- The form of a character inside a text. -/
def writeChar (c : Char) : List Char :=
  if c = '"' then ['\\', '"']
  else if c = '\\' then ['\\', '\\']
  else if c = '\n' then ['\\', 'n']
  else if c = '\r' then ['\\', 'r']
  else if c = '\t' then ['\\', 't']
  else if c = '\x08' then ['\\', 'b']
  else if c = '\x0c' then ['\\', 'f']
  else if c.toNat < 0x20 then
    ['\\', 'u', '0', '0', Text.hexDigit (c.toNat / 16), Text.hexDigit (c.toNat % 16)]
  else [c]

/-- A text between quotes. -/
def writeText (s : List Char) : List Char := '"' :: s.flatMap writeChar ++ ['"']

/-- A floating-point number. -/
def writeFloat (x : Binary64) : List Char :=
  if x.isFinite then compact.write x else "null".toList

/-- A new line and blanks. -/
def newLine (indent : Nat) : List Char := '\n' :: List.replicate indent ' '

/-- Parts between two brackets, each on a line of its own. -/
def bracketed (indent : Nat) (left right : Char) (parts : List (List Char)) : List Char :=
  match parts with
  | [] => [left, right]
  | parts =>
    left :: newLine (indent + 2) ++ Text.joinWith (',' :: newLine (indent + 2)) parts ++
      newLine indent ++ [right]

/-- A value; its parts are two blanks further in than `indent`. -/
def writeValue (indent : Nat) : Value → List Char
  | .bool b => (if b then "true" else "false").toList
  | .int i => (toString i).toList
  | .float x => writeFloat x
  | .str s => writeText s.toList
  | .list items => bracketed indent '[' ']' (writeAll (indent + 2) items)
  | .dict entries => bracketed indent '\x7b' '\x7d' (writeEntries (indent + 2) entries)
  | _ => "null".toList
where
  /-- Some values. -/
  writeAll (indent : Nat) : List Value → List (List Char)
    | [] => []
    | v :: rest => writeValue indent v :: writeAll indent rest
  /-- The members of an object. -/
  writeEntries (indent : Nat) : List (Value × Value) → List (List Char)
    | [] => []
    | (key, v) :: rest =>
      (writeText (key.text?.getD "").toList ++ ": ".toList ++ writeValue indent v) ::
        writeEntries indent rest

/-- The document of a value. -/
def write (v : Value) : String := String.ofList (writeValue 0 v)

example : write (.dict [(.str "a", .int 1), (.str "b", .str "\"")]) =
    "\x7b\n  \"a\": 1,\n  \"b\": \"\\\"\"\n\x7d" := by decide +kernel

end LayeredFiles.Json
