import LayeredFiles.Fault
import LayeredFiles.Text.Escape
import LayeredFiles.Value.Order
/-
Module: LayeredFiles.Value.Format
Layer: Value
Purpose: values inserted into texts at places that percent signs mark. A mark may carry flags, a width
  and a number of places, and its letter says how the value is shown.
Main exports: Value.formatted, Value.shown
-/

namespace LayeredFiles

open Number

namespace Value

/-- The text of a value, which a missing value and a number that is too long do not have. -/
def shown (v : Value) : Except Fault String :=
  match v with
  | .missing m => if m.isStrict then .error (.missing m) else .ok ""
  | v => if v.isTooLong then .error (.value .intTooLong) else .ok v.display

/-- The text of a value inside a list. -/
def shownQuoted (v : Value) : Except Fault String :=
  if v.isTooLong then .error (.value .intTooLong) else .ok v.quoted

/-- What stands between a percent sign and its letter. -/
structure Mark where
  key : Option String
  left : Bool
  zeros : Bool
  plus : Bool
  blank : Bool
  width : Nat
  places : Option Nat

/-- The flags at the front of a mark. -/
def takeFlags (m : Mark) : List Char → Mark × List Char
  | '-' :: rest => takeFlags { m with left := true } rest
  | '0' :: rest => takeFlags { m with zeros := true } rest
  | '+' :: rest => takeFlags { m with plus := true } rest
  | ' ' :: rest => takeFlags { m with blank := true } rest
  | '#' :: rest => takeFlags m rest
  | s => (m, s)

/-- The number at the front of a text, zero if there is none. -/
def takeCount (s : List Char) : Nat × List Char :=
  ((s.takeWhile Char.isDigit).foldl (fun n c => n * 10 + (c.toNat - 0x30)) 0, s.dropWhile Char.isDigit)

/-- A mark behind its percent sign, and the rest, which starts with the letter. -/
def takeMark (s : List Char) : Mark × List Char :=
  let empty : Mark := ⟨none, false, false, false, false, 0, none⟩
  let (m, s) := match s with
    | '(' :: rest =>
      ({ empty with key := some (String.ofList (rest.takeWhile (· != ')'))) },
        (rest.dropWhile (· != ')')).drop 1)
    | s => (empty, s)
  let (m, s) := takeFlags m s
  let (width, s) := takeCount s
  let m := { m with width := width }
  match s with
  | '.' :: rest =>
    let (places, rest) := takeCount rest
    ({ m with places := some places }, rest)
  | s => (m, s)

/-- A text brought to the width of its mark. -/
def Mark.pad (m : Mark) (s : String) : String :=
  let fill := String.ofList (List.replicate (m.width - s.length) ' ')
  if m.left then s ++ fill else fill ++ s

/-- A number brought to the width of its mark. -/
def Mark.padNumber (m : Mark) (isNegative : Bool) (digits : String) : String :=
  let sign := if isNegative then "-" else if m.plus then "+" else if m.blank then " " else ""
  if m.zeros && !m.left then
    sign ++ String.ofList (List.replicate (m.width - sign.length - digits.length) '0') ++ digits
  else m.pad (sign ++ digits)

/-- The whole number of a value that is a number. -/
def wholeOf (letter : Char) (v : Value) : Except Fault Int :=
  match v.numeral? with
  | some (.whole i) => .ok i
  | some (.real x) =>
    match x.truncate? with
    | some i => .ok i
    | none => .error (if x.isNaN then .value .intOfNaN else .arithmetic .intOfInfinity)
  | none => .error (.type (.formatNumber letter v.typeName))

/-- The floating-point number of a value that is a number. -/
def realOf (v : Value) : Except Fault Binary64 :=
  match v.numeral? with
  | some (.whole i) =>
    match Binary64.ofInt? i with
    | some x => .ok x
    | none => .error (.arithmetic .intTooLarge)
  | some (.real x) => .ok x
  | none => .error (.type (.notNumber v.typeName))

/-- A value in the form of its mark. -/
def Mark.write (m : Mark) (letter : Char) (index : Nat) (escapes : Bool) (v : Value) :
    Except Fault String :=
  let cut (s : String) : String :=
    match m.places with
    | some places => String.ofList (s.toList.take places)
    | none => s
  let digits (base : Nat) (v : Value) : Except Fault String :=
    match wholeOf letter v with
    | .error fault => .error fault
    | .ok i =>
      if base = 10 && intIsTooLong i then .error (.value .intTooLong)
      else .ok (m.padNumber (i < 0) (String.ofList (Nat.toDigits base i.natAbs)))
  if letter = 's' then
    match v.shown with
    | .ok s =>
      let isSafe := match v with
        | .safe _ => true
        | _ => false
      .ok (m.pad (cut (if escapes && !isSafe then Text.escape s else s)))
    | .error fault => .error fault
  else if letter = 'r' then
    match v.shownQuoted with
    | .ok s => .ok (m.pad (cut (if escapes then Text.escape s else s)))
    | .error fault => .error fault
  else if ['d', 'i', 'u'].contains letter then digits 10 v
  else if letter = 'x' then digits 16 v
  else if letter = 'X' then (digits 16 v).map String.toUpper
  else if letter = 'o' then digits 8 v
  else if ['f', 'F'].contains letter then
    match realOf v with
    | .ok x =>
      .ok (m.padNumber x.isNegative (String.ofList (fixedPlaces (m.places.getD 6) x.abs)))
    | .error fault => .error fault
  else .error (.value (.formatLetter letter index))

/-- Inserts values one after another. `source` holds the values by name if there are names; `isStrict`
    says that no value may be left over. `total` is the length of the whole text, and `fuel` bounds
    the number of marks. -/
def formatFrom (source : Entries) (isStrict escapes : Bool) (total : Nat) :
    Nat → List Char → List Value → Except Fault String
  | 0, _, _ => .ok ""
  | fuel + 1, s, values => do
    let text := String.ofList (s.takeWhile (· != '%'))
    match s.dropWhile (· != '%') with
    | [] =>
      if isStrict && !values.isEmpty then .error (.type (.formatCount false)) else .ok text
    | '%' :: '%' :: rest =>
      let later ← formatFrom source isStrict escapes total fuel rest values
      .ok (text ++ "%" ++ later)
    | _ :: rest =>
      let (m, rest) := takeMark rest
      match rest with
      | [] => .error (.value .formatCut)
      | letter :: after =>
        let index := total - rest.length
        let (v, values) ←
          match m.key, values with
          | some key, values =>
            match source.find? key with
            | none => .error (.key key)
            | some v => .ok (v, values)
          | none, [] => .error (.type (.formatCount true))
          | none, v :: values => .ok (v, values)
        let here ← m.write letter index escapes v
        let later ← formatFrom source isStrict escapes total fuel after values
        .ok (text ++ here ++ later)

/-- A text with values inserted: the items of a tuple, or a single value. -/
def formatted (format : String) (escapes : Bool) (args : Value) : Except Fault String :=
  let chars := format.toList
  let (values, source, isStrict) : List Value × Entries × Bool :=
    match args with
    | .tuple items => (items, [], true)
    | .dict entries => ([.dict entries], entries, false)
    | .list items => ([.list items], [], false)
    | v => ([v], [], true)
  formatFrom source isStrict escapes chars.length (chars.length + 1) chars values

end Value

end LayeredFiles
