import LayeredFiles.Fault
import LayeredFiles.Number.Reading
import LayeredFiles.Text.Split
import LayeredFiles.Value.Order
/-
Module: LayeredFiles.Json.Read
Layer: Json
Purpose: reading JSON documents. Besides the numbers of the standard the words for infinity and for no
  number are read. Of two members of one name the later one counts, at the place of the earlier one.
Main exports: Json.readValue, Json.read, Json.readDocument
-/

namespace LayeredFiles.Json

open Number

/-- Why reading stopped: a problem in front of the last so many characters, or a whole number with too
    many digits. -/
inductive Stop where
  | problem (what : JsonProblem) (left : Nat)
  | tooLong (digits : Nat)
deriving DecidableEq, Repr

/-- Stops in front of a rest. -/
def stop {α : Type} (what : JsonProblem) (rest : List Char) : Except Stop α :=
  .error (.problem what rest.length)

/-- A blank between the parts of a document. -/
def isGap (c : Char) : Bool := c = ' ' || c = '\t' || c = '\n' || c = '\r'

/-- A text without the blanks in front of it. -/
def skipGaps (s : List Char) : List Char := s.dropWhile isGap

/-! ### Texts -/

/-- The value of four hexadecimal digits at the front of a text that goes on behind them. -/
def takeUnit (s : List Char) : Option (Nat × List Char) :=
  match s with
  | _ :: _ :: _ :: _ :: [] => none
  | a :: b :: c :: d :: rest =>
    match [a, b, c, d].mapM (digitBelow? 16) with
    | some digits =>
      if [a, b, c, d].all (fun c => c.toNat < 0x80) then
        some (digits.foldl (fun n d => n * 16 + d) 0, rest)
      else none
    | none => none
  | _ => none

/-- The unit is the first or the second half of a character. -/
def isHalf (isSecond : Bool) (unit : Nat) : Bool :=
  if isSecond then 0xDC00 ≤ unit && unit ≤ 0xDFFF else 0xD800 ≤ unit && unit ≤ 0xDBFF

/-- The character of a unit; a half alone is shown as the replacement character. -/
def unitChar (unit : Nat) : Char :=
  if isHalf false unit || isHalf true unit then '\uFFFD' else Char.ofNat unit

/-- The character of an escape that is a number, and the rest. -/
def takeNumberedChar (s : List Char) : Option (Char × List Char) :=
  match takeUnit s with
  | none => none
  | some (first, rest) =>
    let alone := some (unitChar first, rest)
    if !isHalf false first then alone
    else match rest with
      | '\\' :: 'u' :: more =>
        match takeUnit more with
        | some (second, after) =>
          if isHalf true second then
            some (Char.ofNat (0x10000 + (first - 0xD800) * 0x400 + (second - 0xDC00)), after)
          else alone
        | none => alone
      | _ => alone

/-- The characters of the escapes of one letter. -/
def escapedLetters : List (Char × Char) := [('"', '"'), ('\\', '\\'), ('/', '/'), ('b', '\x08'),
  ('f', '\x0c'), ('n', '\n'), ('r', '\r'), ('t', '\t')]

/-- The characters of a text up to its closing quote. `opening` is what was left at its opening quote;
    `fuel` bounds the number of characters. -/
def readChars (opening : List Char) : Nat → List Char → Except Stop (List Char × List Char)
  | 0, _ => stop .unterminatedString opening
  | _ + 1, [] => stop .unterminatedString opening
  | _ + 1, '"' :: rest => .ok ([], rest)
  | _ + 1, '\\' :: [] => stop .unterminatedString opening
  | fuel + 1, '\\' :: 'u' :: rest =>
    match takeNumberedChar rest with
    | none => stop .unicodeEscape ('u' :: rest)
    | some (c, rest) => do
      let (chars, rest) ← readChars opening fuel rest
      pure (c :: chars, rest)
  | fuel + 1, '\\' :: letter :: rest =>
    match escapedLetters.lookup letter with
    | none => stop .escape ('\\' :: letter :: rest)
    | some c => do
      let (chars, rest) ← readChars opening fuel rest
      pure (c :: chars, rest)
  | fuel + 1, c :: rest =>
    if c.toNat < 0x20 then stop .controlCharacter (c :: rest)
    else do
      let (chars, rest) ← readChars opening fuel rest
      pure (c :: chars, rest)

/-- The text whose opening quote stands in front of `s`. -/
def readText (s : List Char) : Except Stop (String × List Char) := do
  let (chars, rest) ← readChars ('"' :: s) (s.length + 1) s
  pure (String.ofList chars, rest)

/-! ### Numbers and words -/

/-- The parts of a number: its whole part, the digits behind the point and the exponent. -/
structure NumberText where
  whole : List Char
  fraction : List Char
  exponent : List Char
deriving DecidableEq, Repr

/-- The fraction at the front of a text, if a digit follows its point. -/
def takeFractionText (s : List Char) : List Char × List Char :=
  match s with
  | '.' :: d :: rest =>
    if d.isDigit then ('.' :: (d :: rest).takeWhile Char.isDigit, (d :: rest).dropWhile Char.isDigit)
    else ([], s)
  | s => ([], s)

/-- The exponent at the front of a text, if it has a digit. -/
def takeExponentText (s : List Char) : List Char × List Char :=
  match s with
  | e :: rest =>
    if e = 'e' || e = 'E' then
      let (sign, digits) := match rest with
        | '+' :: digits => (['+'], digits)
        | '-' :: digits => (['-'], digits)
        | digits => ([], digits)
      if digits.head?.any Char.isDigit then
        (e :: sign ++ digits.takeWhile Char.isDigit, digits.dropWhile Char.isDigit)
      else ([], s)
    else ([], s)
  | [] => ([], [])

/-- The number at the front of a text: a zero or digits that do not start with one, and what may
    follow them. -/
def takeNumber? (s : List Char) : Option (NumberText × List Char) :=
  let (sign, body) := match s with
    | '-' :: body => (['-'], body)
    | body => ([], body)
  let whole := match body with
    | '0' :: _ => ['0']
    | body => body.takeWhile Char.isDigit
  if whole = [] then none
  else
    let (fraction, rest) := takeFractionText (body.drop whole.length)
    let (exponent, rest) := takeExponentText rest
    some (⟨sign ++ whole, fraction, exponent⟩, rest)

/-- The value of a number. Without a fraction and an exponent it is whole. -/
def NumberText.value (n : NumberText) : Except Stop Value :=
  if n.fraction = [] && n.exponent = [] then
    match readInt 10 n.whole with
    | .ok i => .ok (.int i)
    | .error (.tooLong digits) => .error (.tooLong digits)
    | .error .malformed => .ok .null
  else .ok (((readFloat (n.whole ++ n.fraction ++ n.exponent)).map .float).getD .null)

/-- The words that stand for values. -/
def words : List (String × Value) := [("null", .null), ("true", .bool true), ("false", .bool false),
  ("NaN", .float .nan), ("Infinity", .float (.infinity false)), ("-Infinity", .float (.infinity true))]

/-- The word at the front of a text. -/
def takeWord? (s : List Char) : Option (Value × List Char) :=
  words.findSome? (fun w => (Text.stripPrefix? w.1.toList s).map (fun rest => (w.2, rest)))

/-- A value that has no parts. -/
def readPlain (s : List Char) : Except Stop (Value × List Char) :=
  match takeWord? s with
  | some found => .ok found
  | none =>
    match takeNumber? s with
    | none => stop .value s
    | some (n, rest) => do pure (← n.value, rest)

/-! ### Documents -/

mutual

/-- The value at the front of a text; `fuel` bounds the number of its parts. -/
def readValue : Nat → List Char → Except Stop (Value × List Char)
  | 0, s => stop .value s
  | fuel + 1, s =>
    match s with
    | '"' :: rest => do
      let (text, rest) ← readText rest
      pure (.str text, rest)
    | '[' :: rest =>
      match skipGaps rest with
      | ']' :: rest => .ok (.list [], rest)
      | rest => do
        let (items, rest) ← readItems fuel rest
        pure (.list items, rest)
    | '\x7b' :: rest =>
      match skipGaps rest with
      | '\x7d' :: rest => .ok (.dict [], rest)
      | rest => do
        let (members, rest) ← readMembers fuel rest
        pure (.dict (Entries.ofList members), rest)
    | s => readPlain s

/-- The items of a list up to its closing bracket. -/
def readItems : Nat → List Char → Except Stop (List Value × List Char)
  | 0, s => stop .value s
  | fuel + 1, s => do
    let (v, rest) ← readValue fuel s
    match skipGaps rest with
    | ']' :: rest => pure ([v], rest)
    | ',' :: rest =>
      let (items, rest) ← readItems fuel (skipGaps rest)
      pure (v :: items, rest)
    | rest => stop .comma rest

/-- The members of an object up to its closing brace. -/
def readMembers : Nat → List Char → Except Stop (List (Value × Value) × List Char)
  | 0, s => stop .propertyName s
  | fuel + 1, s =>
    match s with
    | '"' :: rest => do
      let (name, rest) ← readText rest
      match skipGaps rest with
      | ':' :: rest =>
        let (v, rest) ← readValue fuel (skipGaps rest)
        match skipGaps rest with
        | '\x7d' :: rest => pure ([(.str name, v)], rest)
        | ',' :: rest =>
          let (members, rest) ← readMembers fuel (skipGaps rest)
          pure ((.str name, v) :: members, rest)
        | rest => stop .comma rest
      | rest => stop .colon rest
    | s => stop .propertyName s

end

/-- The value that a text is as a whole. -/
def read (s : List Char) : Except Stop Value :=
  match s with
  | '\uFEFF' :: _ => stop .byteOrderMark s
  | s => do
    let (v, rest) ← readValue (2 * s.length + 2) (skipGaps s)
    match skipGaps rest with
    | [] => pure v
    | rest => stop .extraData rest

/-- A stop as a fault of the whole text. -/
def Stop.fault (s : List Char) : Stop → Fault
  | .tooLong digits => .value (.intTextTooLong digits)
  | .problem what left =>
    let before := s.take (s.length - left)
    .json ⟨what, before.count '\n' + 1, (before.reverse.takeWhile (· != '\n')).length + 1,
      before.length⟩

/-- The value of a document. -/
def readDocument (s : List Char) : Except Fault Value :=
  match read s with
  | .ok v => .ok v
  | .error stop => .error (stop.fault s)

example : ((read "[1, \x7b\"a\": -2.50e1\x7d]".toList).toOption.map Value.quoted) =
    some "[1, \x7b'a': -25.0\x7d]" := by decide +kernel

end LayeredFiles.Json
