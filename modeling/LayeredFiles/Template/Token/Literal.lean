import LayeredFiles.Number.Reading
import LayeredFiles.Template.Fault
import LayeredFiles.Text.Identifier
import LayeredFiles.Text.Newline
import LayeredFiles.Text.Split
/-
Module: LayeredFiles.Template.Token.Literal
Layer: Template
Purpose: the literals of expressions. Each function looks for one kind of literal at the front of a
  text and gives what it stands for together with the rest.
Main exports: takeReal?, takeInteger?, takeString?, unescape
-/

namespace LayeredFiles.Template

open Number Text

/-! ### Numbers -/

/-- Digits of a base at the front of a text; between two of them an underscore may stand. -/
def takeGrouped (base : Nat) (value : Nat) : List Char → Nat × List Char
  | [] => (value, [])
  | [c] =>
    match digitBelow? base c with
    | some d => (value * base + d, [])
    | none => (value, [c])
  | c :: next :: rest =>
    match digitBelow? base c with
    | some d => takeGrouped base (value * base + d) (next :: rest)
    | none =>
      if c = '_' then
        match digitBelow? base next with
        | some d => takeGrouped base (value * base + d) rest
        | none => (value, c :: next :: rest)
      else (value, c :: next :: rest)

/-- A whole number of a base whose first digit, after an optional underscore, must follow at once. -/
def takeMarked? (base : Nat) (s : List Char) : Option (Nat × List Char) :=
  let digits := match s with
    | '_' :: rest => rest
    | s => s
  match digits with
  | c :: _ => if (digitBelow? base c).isSome then some (takeGrouped base 0 digits) else none
  | [] => none

/-- A whole number. Without the mark of a base it starts with a digit other than zero or consists of
    zeros. -/
def takeInteger? (s : List Char) : Option (Nat × List Char) :=
  let plain (s : List Char) : Option (Nat × List Char) :=
    match s with
    | '0' :: rest => some (takeGrouped 1 0 ('0' :: rest))
    | c :: rest => if '1' ≤ c && c ≤ '9' then some (takeGrouped 10 0 (c :: rest)) else none
    | [] => none
  match s with
  | '0' :: mark :: rest =>
    let marked :=
      if mark = 'b' || mark = 'B' then takeMarked? 2 rest
      else if mark = 'o' || mark = 'O' then takeMarked? 8 rest
      else if mark = 'x' || mark = 'X' then takeMarked? 16 rest
      else none
    match marked with
    | some found => some found
    | none => plain s
  | s => plain s

/-- A number with a fraction or an exponent. Digits stand on both sides of the point. -/
def takeReal? (s : List Char) : Option (Binary64 × List Char) :=
  let (whole, rest) := takeDigits ⟨0, 0⟩ s
  if whole.count = 0 then none
  else
    let (decimal, afterFraction) := takeFraction whole rest
    let hasFraction := decimal.places ≠ 0
    let (decimal, rest) := if hasFraction then (decimal, afterFraction)
      else (⟨whole.value, whole.count, 0, 0⟩, rest)
    let (powered, afterExponent) := takeExponent decimal rest
    if !hasFraction && afterExponent.length = rest.length then none
    else some (floatOfDecimal false powered, afterExponent)

/-! ### Texts -/

/-- The raw characters up to a quote that no backslash precedes, and the rest behind it. -/
def takeQuoted (quote : Char) : List Char → Option (List Char × List Char)
  | [] => none
  | [c] => if c = quote then some ([], []) else none
  | c :: next :: rest =>
    if c = quote then some ([], next :: rest)
    else if c = '\\' then (takeQuoted quote rest).map (fun p => (c :: next :: p.1, p.2))
    else (takeQuoted quote (next :: rest)).map (fun p => (c :: p.1, p.2))

/-- The number that some hexadecimal digits form, if they are digits. -/
def hexNumber? (s : List Char) : Option Nat :=
  if s.all (fun c => c.toNat < 0x80 && (digitBelow? 16 c).isSome) then
    some (s.foldl (fun n c => n * 16 + (digitBelow? 16 c).getD 0) 0)
  else none

/-- The character of a code point; a code point that is no character is replaced. -/
def charOfCode (n : Nat) : Char := if n.isValidChar then Char.ofNat n else '\uFFFD'

/-- The characters that a backslash and one letter stand for. -/
def simpleEscapes : List (Char × Char) :=
  [('\\', '\\'), ('\'', '\''), ('"', '"'), ('a', '\x07'), ('b', '\x08'), ('f', '\x0c'), ('n', '\n'),
   ('r', '\r'), ('t', '\t'), ('v', '\x0b')]

/-- A digit below eight. -/
def isOctal (c : Char) : Bool := '0' ≤ c && c ≤ '7'

/-- Resolves the escapes of a text literal. A backslash before a character without a meaning of its
    own stays. `fuel` bounds the number of steps, each of which takes a character. -/
def unescapeUpTo : Nat → List Char → Except SyntaxFault (List Char)
  | 0, _ => .ok []
  | _ + 1, [] => .ok []
  | fuel + 1, '\\' :: c :: rest =>
    let code (digits : Nat) (detail : String) : Except SyntaxFault (List Char) :=
      match hexNumber? (rest.take digits) with
      | some n =>
        if (rest.take digits).length < digits then .error (.escape detail)
        else if 0x10FFFF < n then .error (.escape "illegal Unicode character")
        else
          match unescapeUpTo fuel (rest.drop digits) with
          | .ok s => .ok (charOfCode n :: s)
          | .error fault => .error fault
      | none => .error (.escape detail)
    match simpleEscapes.lookup c with
    | some d =>
      match unescapeUpTo fuel rest with
      | .ok s => .ok (d :: s)
      | .error fault => .error fault
    | none =>
      if c = '\n' then unescapeUpTo fuel rest
      else if c = 'x' then code 2 "truncated \\xXX escape"
      else if c = 'u' then code 4 "truncated \\uXXXX escape"
      else if c = 'U' then code 8 "truncated \\UXXXXXXXX escape"
      else if c = 'N' then .error (.escape "malformed \\N character escape")
      else if isOctal c then
        let digits := ((c :: rest).take 3).takeWhile isOctal
        let n := digits.foldl (fun n d => n * 8 + (d.toNat - 0x30)) 0
        match unescapeUpTo fuel ((c :: rest).drop digits.length) with
        | .ok s => .ok (charOfCode n :: s)
        | .error fault => .error fault
      else
        match unescapeUpTo fuel rest with
        | .ok s => .ok ('\\' :: c :: s)
        | .error fault => .error fault
  | fuel + 1, c :: rest =>
    match unescapeUpTo fuel rest with
    | .ok s => .ok (c :: s)
    | .error fault => .error fault

/-- The text that the characters between quotes stand for. -/
def unescape (s : List Char) : Except SyntaxFault (List Char) :=
  unescapeUpTo (s.length + 1) (unifyNewlines s)

/-- A text literal with its quotes: what it stands for, or the fault in it, and the rest. -/
def takeString? (s : List Char) : Option (Except SyntaxFault (List Char) × List Char) :=
  match s with
  | quote :: rest =>
    if quote = '\'' || quote = '"' then
      (takeQuoted quote rest).map (fun p => (unescape p.1, p.2))
    else none
  | [] => none

example : takeInteger? "1_0x".toList = some (10, "x".toList) ∧
    takeInteger? "007".toList = some (0, "7".toList) ∧
    takeInteger? "0xfF_0".toList = some (0xFF0, []) := by decide +kernel

example : (takeReal? "1.5e3 ".toList).map (·.2) = some " ".toList ∧ takeReal? "1.x".toList = none := by
  decide +kernel

end LayeredFiles.Template
