import LayeredFiles.Value.Basic
import LayeredFiles.Number.Decimal
import LayeredFiles.Number.Reading
/-
Module: LayeredFiles.Value.Display
Layer: Value
Purpose: the two texts of a value. Alone, a text shows itself; inside a list it is quoted. All other
  values have the same form in both places, apart from dates.
Main exports: Date.iso, DateTime.iso, Value.quoted, Value.display, Value.isTooLong
-/

namespace LayeredFiles

open Number

/-- A number with zeros in front. -/
def padded (places n : Nat) : String := String.ofList (padZeros places (decimalDigits n))

/-- The day as year, month and day. -/
def Date.iso (d : Date) : String :=
  padded 4 d.year ++ "-" ++ padded 2 d.month ++ "-" ++ padded 2 d.day

/-- A distance from universal time. -/
def offsetText (seconds : Int) : String :=
  let n := seconds.natAbs
  (if seconds < 0 then "-" else "+") ++ padded 2 (n / 3600) ++ ":" ++ padded 2 (n / 60 % 60) ++
    (if n % 60 = 0 then "" else ":" ++ padded 2 (n % 60))

/-- Day and time with a mark between them. -/
def DateTime.text (mark : String) (t : DateTime) : String :=
  t.date.iso ++ mark ++ padded 2 t.hour ++ ":" ++ padded 2 t.minute ++ ":" ++ padded 2 t.second ++
    (if t.microsecond = 0 then "" else "." ++ padded 6 t.microsecond) ++
    (match t.offset with | some seconds => offsetText seconds | none => "")

/-- Day and time in one word. -/
def DateTime.iso (t : DateTime) : String := t.text "T"

/-- The day as lists show it. -/
def Date.quoted (d : Date) : String :=
  "datetime.date(" ++ ", ".intercalate ([d.year, d.month, d.day].map toString) ++ ")"

/-- A clock's distance from universal time as lists show it: whole days and positive seconds. -/
def offsetQuoted (seconds : Int) : String :=
  if seconds = 0 then "datetime.timezone.utc"
  else
    let days := seconds.fdiv 86400
    let rest := seconds.fmod 86400
    let parts := (if days = 0 then [] else ["days=" ++ toString days]) ++
      (if rest = 0 then [] else ["seconds=" ++ toString rest])
    "datetime.timezone(datetime.timedelta(" ++ ", ".intercalate parts ++ "))"

/-- Day and time as lists show them; seconds and parts of them are left out if they are zero. -/
def DateTime.quoted (t : DateTime) : String :=
  let fine := if t.microsecond ≠ 0 then [t.second, t.microsecond]
    else if t.second ≠ 0 then [t.second] else []
  let parts := [t.date.year, t.date.month, t.date.day, t.hour, t.minute] ++ fine
  "datetime.datetime(" ++ ", ".intercalate (parts.map toString) ++
    (match t.offset with | some seconds => ", tzinfo=" ++ offsetQuoted seconds | none => "") ++ ")"

namespace Value

/-- The text of a value inside a list. -/
def quoted : Value → String
  | .null => "None"
  | .bool b => if b then "True" else "False"
  | .int i => toString i
  | .float x => String.ofList (plain.write x)
  | .str s => Text.quoted s
  | .safe s => "Markup(" ++ Text.quoted s ++ ")"
  | .bytes content => String.ofList (Text.quotedBytes content)
  | .date d => d.quoted
  | .datetime t => t.quoted
  | .list items => "[" ++ ", ".intercalate (quotedAll items) ++ "]"
  | .tuple [item] => "(" ++ item.quoted ++ ",)"
  | .tuple items => "(" ++ ", ".intercalate (quotedAll items) ++ ")"
  | .dict entries => "\x7b" ++ ", ".intercalate (quotedEntries entries) ++ "\x7d"
  | .view .keys entries => "dict_keys([" ++ ", ".intercalate (quotedKeys entries) ++ "])"
  | .view .items entries => "dict_items([" ++ ", ".intercalate (quotedPairs entries) ++ "])"
  | .missing _ => "Undefined"
  | .method owner name => "<built-in method " ++ name ++ " of " ++ owner.typeName ++ " object>"
  | .loop index length => "<LoopContext " ++ toString (index + 1) ++ "/" ++ toString length ++ ">"
where
  /-- The texts of some values. -/
  quotedAll : List Value → List String
    | [] => []
    | v :: rest => v.quoted :: quotedAll rest
  /-- The texts of the entries of a dictionary. -/
  quotedEntries : List (Value × Value) → List String
    | [] => []
    | (key, v) :: rest => (key.quoted ++ ": " ++ v.quoted) :: quotedEntries rest
  /-- The texts of the keys of a dictionary. -/
  quotedKeys : List (Value × Value) → List String
    | [] => []
    | (key, _) :: rest => key.quoted :: quotedKeys rest
  /-- The texts of the entries of a dictionary as pairs. -/
  quotedPairs : List (Value × Value) → List String
    | [] => []
    | (key, v) :: rest => ("(" ++ key.quoted ++ ", " ++ v.quoted ++ ")") :: quotedPairs rest

/-- The text of a value that stands alone. A missing value shows nothing. -/
def display : Value → String
  | .str s => s
  | .safe s => s
  | .date d => d.iso
  | .datetime t => t.text " "
  | .missing _ => ""
  | v => v.quoted

/-- A whole number that has too many digits to be written. -/
def intIsTooLong (i : Int) : Bool := Nat.pow 10 digitLimit ≤ i.natAbs

/-- The value holds a whole number that has too many digits to be written. -/
def isTooLong : Value → Bool
  | .int i => intIsTooLong i
  | .list items => anyTooLong items
  | .tuple items => anyTooLong items
  | .dict entries => anyEntryTooLong entries
  | .view _ entries => anyEntryTooLong entries
  | _ => false
where
  /-- One of some values holds such a number. -/
  anyTooLong : List Value → Bool
    | [] => false
    | v :: rest => v.isTooLong || anyTooLong rest
  /-- One of some entries holds such a number. -/
  anyEntryTooLong : List (Value × Value) → Bool
    | [] => false
    | (key, v) :: rest => key.isTooLong || v.isTooLong || anyEntryTooLong rest

end Value

end LayeredFiles
