import LayeredFiles.Console.Line
/-
Module: LayeredFiles.Console.Status
Layer: Console
Purpose: the lines that tell what was done: a status word at the right of twelve columns and a message,
  or a message alone. Messages are shown as they are, status words and colours may hold tags.
Main exports: statusColour, statusText, messageText, statusLine, successLine, errorLine, warningLine
-/

namespace LayeredFiles.Console

/-- The colours of status words. -/
def statusColours : List (String × String) := [("create", "green"), ("identical", "blue"),
  ("skip", "yellow"), ("error", "red"), ("stage", "dim")]

/-- The colour of a status word. -/
def statusColour (status : String) : String := (statusColours.lookup status).getD "white"

/-- A text at the right of so many columns. -/
def alignRight (columns : Nat) (s : List Char) : List Char :=
  List.replicate (columns - s.length) ' ' ++ s

/-- The style around a text. -/
def styled (style : String) (s : List Char) : List Char :=
  '[' :: style.toList ++ ']' :: s ++ "[/".toList ++ style.toList ++ [']']

/-- The console text of a status word and a message. -/
def statusText (status colour : String) (message : List Char) : List Char :=
  styled ("bold " ++ colour) (alignRight 12 status.toList) ++ ' ' :: ' ' :: escapeTags message

/-- The console text of a message in a style. -/
def messageText (style : String) (message : List Char) : List Char :=
  styled style (escapeTags message)

/-- The line of a status word and a message. -/
def statusLine [Host] (status : String) (message : String) : Except Fault String :=
  line (statusText status (statusColour status) message.toList)

/-- The line of good news. -/
def successLine [Host] (message : String) : Except Fault String :=
  line (messageText "bold green" message.toList)

/-- The line of bad news. -/
def errorLine [Host] (message : String) : Except Fault String :=
  line (messageText "bold red" message.toList)

/-- The line of a warning. -/
def warningLine [Host] (message : String) : Except Fault String :=
  line (messageText "bold yellow" message.toList)

/-! ### Arguments that may be no texts -/

/-- A status word given as a value. -/
def statusWord (v : Value) : Except Fault String :=
  match v with
  | .str s => .ok s
  | .int i => .ok (toString i)
  | .bool b => .ok (if b then "1" else "0")
  | .float x => .ok (Value.float x).display
  | v => .error (.type (.notFormattable v.typeName))

/-- A message given as a value. -/
def messageOf (v : Value) : Except Fault String :=
  match v with
  | .str s => .ok s
  | v => .error (.type (.notPattern v.typeName))

/-- The colour that is asked for, or else the one that the status word has. -/
def colourOf (status colour : Value) : Except Fault String :=
  if colour.isTrue then .ok colour.display
  else match status with
    | .str s => .ok (statusColour s)
    | status =>
      if status.isHashable then .ok "white" else .error (.type (.notHashable status.typeName))

/-- The line of a status word and a message that are given as values. -/
def statusLineOf [Host] (status message colour : Value) : Except Fault String := do
  let colour ← colourOf status colour
  let word ← statusWord status
  line (statusText word colour (← messageOf message).toList)

end LayeredFiles.Console
