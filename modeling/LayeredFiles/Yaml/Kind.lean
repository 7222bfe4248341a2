import LayeredFiles.Text.Split
/-
Module: LayeredFiles.Yaml.Kind
Layer: Yaml
Purpose: what a plain scalar is, found from its text alone: a word for a truth value or for nothing, a
  number in one of its forms, a day or a moment, or a text. The forms are regular; each is read off the
  front of a text.
Main exports: Kind, Kind.tag, plainKind
-/

namespace LayeredFiles.Yaml

/-- What a plain scalar is. -/
inductive Kind where
  | bool | float | int | merge | null | timestamp | value | str
deriving DecidableEq, Repr

/-- The start of the tags of the language. -/
def tagStart : String := "tag:yaml.org,2002:"

/-- The tag of a kind. -/
def Kind.tag : Kind → String
  | .bool => tagStart ++ "bool"
  | .float => tagStart ++ "float"
  | .int => tagStart ++ "int"
  | .merge => tagStart ++ "merge"
  | .null => tagStart ++ "null"
  | .timestamp => tagStart ++ "timestamp"
  | .value => tagStart ++ "value"
  | .str => tagStart ++ "str"

/-- The words for truth values. -/
def boolWords : List String := ["yes", "Yes", "YES", "no", "No", "NO", "true", "True", "TRUE", "false",
  "False", "FALSE", "on", "On", "ON", "off", "Off", "OFF"]

/-- The words for nothing. -/
def nullWords : List String := ["", "~", "null", "Null", "NULL"]

/-- A digit or an underscore. -/
def isLooseDigit (c : Char) : Bool := c.isDigit || c = '_'

/-- A text without the line end behind it, to which the forms pay no heed. -/
def withoutEnd (s : List Char) : List Char := if s.getLast? = some '\n' then s.dropLast else s

/-- A text without a sign in front. -/
def unsigned (s : List Char) : List Char :=
  match s with
  | '-' :: rest => rest
  | '+' :: rest => rest
  | s => s

/-- Digits of an exponent with its sign. -/
def isExponent (s : List Char) : Bool :=
  match s with
  | e :: sign :: digits =>
    (e = 'e' || e = 'E') && (sign = '-' || sign = '+') && digits ≠ [] && digits.all Char.isDigit
  | _ => false

/-- Nothing, or digits of an exponent. -/
def isExponentOrEnd (s : List Char) : Bool := s = [] || isExponent s

/-- Groups of one or two digits below sixty, each behind a colon; at least one. -/
def isSixties (groups : List (List Char)) : Bool :=
  groups ≠ [] && groups.all (fun g =>
    match g with
    | [d] => d.isDigit
    | [d, e] => '0' ≤ d && d ≤ '5' && e.isDigit
    | _ => false)

/-- Digits, the first of them no underscore. -/
def isNumeral (s : List Char) : Bool := s.head?.any Char.isDigit && s.all isLooseDigit

/-- A floating-point number: with a point, and an exponent only with its sign; or the words for infinity
    and for no number. -/
def isFloat (s : List Char) : Bool :=
  let body := unsigned s
  let withPoint := match Text.cutAt? ['.'] body with
    | some (whole, rest) =>
      let tail := rest.dropWhile isLooseDigit
      if whole = [] then
        body.length = s.length && rest.head?.any Char.isDigit && isExponentOrEnd tail
      else
        (isNumeral whole && isExponentOrEnd tail) ||
          (match Text.splitOn ':' whole with
            | first :: groups => isNumeral first && isSixties groups && tail = []
            | [] => false)
    | none => false
  withPoint || [".inf", ".Inf", ".INF"].contains (String.ofList body) ||
    [".nan", ".NaN", ".NAN"].contains (String.ofList s)

/-- A whole number: with two, eight, ten or sixteen digits, or in groups of sixty. -/
def isInt (s : List Char) : Bool :=
  match unsigned s with
  | '0' :: 'b' :: digits => digits ≠ [] && digits.all (fun c => c = '0' || c = '1' || c = '_')
  | '0' :: 'x' :: digits =>
    digits ≠ [] && digits.all (fun c => isLooseDigit c || ('a' ≤ c && c ≤ 'f') || ('A' ≤ c && c ≤ 'F'))
  | '0' :: digits => digits.all (fun c => ('0' ≤ c && c ≤ '7') || c = '_')
  | body =>
    match Text.splitOn ':' body with
    | [digits] => isNumeral digits
    | digits :: groups => isNumeral digits && isSixties groups
    | [] => false

/-- A number of digits between two bounds at the front of a text, as many as there are, and the rest. -/
def takeDigits? (least most : Nat) (s : List Char) : Option (List Char × List Char) :=
  let digits := (s.take most).takeWhile Char.isDigit
  if least ≤ digits.length then some (digits, s.drop digits.length) else none

/-- What follows a character at the front of a text. -/
def after? (c : Char) (s : List Char) : Option (List Char) :=
  match s with
  | d :: rest => if c = d then some rest else none
  | [] => none

/-- The parts of a day or moment as they are written. -/
structure TimeText where
  year : List Char
  month : List Char
  day : List Char
  /-- Hour, minute and second. -/
  clock : Option (List Char × List Char × List Char)
  fraction : List Char
  /-- The clock is that of universal time. -/
  isUniversal : Bool
  /-- The sign, the hours and the minutes of the distance from universal time. -/
  offset : Option (Char × List Char × List Char)

/-- The distance from universal time at the end of a moment. -/
def takeZone? (s : List Char) : Option (Bool × Option (Char × List Char × List Char)) :=
  if s = [] then some (false, none)
  else
    let s := s.dropWhile (fun c => c = ' ' || c = '\t')
    match s with
    | ['Z'] => some (true, none)
    | sign :: rest =>
      if sign = '-' || sign = '+' then
        match takeDigits? 1 2 rest with
        | none => none
        | some (hours, []) => some (false, some (sign, hours, []))
        | some (hours, rest) =>
          match (after? ':' rest).bind (takeDigits? 2 2) with
          | some (minutes, []) => some (false, some (sign, hours, minutes))
          | _ => none
      else none
    | [] => none

/-- The clock of a moment behind its day. -/
def takeClock? (s : List Char) :
    Option ((List Char × List Char × List Char) × List Char × List Char) := do
  let s ← match s with
    | 'T' :: rest => some rest
    | 't' :: rest => some rest
    | s =>
      let rest := s.dropWhile (fun c => c = ' ' || c = '\t')
      if rest.length = s.length then none else some rest
  let (hour, s) ← takeDigits? 1 2 s
  let (minute, s) ← (after? ':' s).bind (takeDigits? 2 2)
  let (second, s) ← (after? ':' s).bind (takeDigits? 2 2)
  match s with
  | '.' :: rest => some ((hour, minute, second), rest.takeWhile Char.isDigit, rest.dropWhile Char.isDigit)
  | s => some ((hour, minute, second), [], s)

/-- The parts of a day or moment. -/
def readTime? (s : List Char) : Option TimeText := do
  let (year, s) ← takeDigits? 4 4 (withoutEnd s)
  let (month, s) ← (after? '-' s).bind (takeDigits? 1 2)
  let (day, s) ← (after? '-' s).bind (takeDigits? 1 2)
  if s = [] then some ⟨year, month, day, none, [], false, none⟩
  else
    let (clock, fraction, s) ← takeClock? s
    let (isUniversal, offset) ← takeZone? s
    some ⟨year, month, day, some clock, fraction, isUniversal, offset⟩

/-- A day or moment; month and day of a day alone have two digits. -/
def isTimestamp (s : List Char) : Bool :=
  match readTime? s with
  | some t => t.clock.isSome || (t.month.length = 2 && t.day.length = 2)
  | none => false

/-- The kind of a plain scalar. -/
def plainKind (text : List Char) : Kind :=
  let s := withoutEnd text
  let word := String.ofList s
  if text = ['\n'] then .str
  else if boolWords.contains word then .bool
  else if isFloat s then .float
  else if isInt s then .int
  else if word = "<<" then .merge
  else if nullWords.contains word then .null
  else if isTimestamp text then .timestamp
  else if word = "=" then .value
  else .str

example : (["1_000", "010", "08", "1:30", "1e3", "1.0e+3", ".5", "+.5", "0x1F", "2001-1-1"].map
    (fun s => plainKind s.toList)) =
    [.int, .int, .str, .int, .str, .float, .float, .str, .int, .str] := by decide +kernel

end LayeredFiles.Yaml
