import LayeredFiles.Number.Binary64
import LayeredFiles.Text.Blank
import LayeredFiles.Text.Digit
/-
Module: LayeredFiles.Number.Reading
Layer: Number
Purpose: numbers from texts. Blanks around the number are skipped, digits may come from any script and
  may be grouped by single underscores. Whole numbers of more than 4300 decimal digits are refused.
Main exports: digitLimit, readInt, readFloat, IntFault, floatOfDecimal
-/

namespace LayeredFiles.Number

open Text

/-- The greatest number of decimal digits that a whole number may have in a text. -/
def digitLimit : Nat := 4300

/-- A blank that may surround a number: the blanks that are no separators of records. -/
def isNumberBlank (c : Char) : Bool :=
  if c.toNat < 0x80 then c = ' ' || (0x09 ≤ c.toNat && c.toNat ≤ 0x0D) else isBlank c

/-- A text without the blanks around a number. -/
def trimNumber (s : List Char) : List Char :=
  ((s.dropWhile isNumberBlank).reverse.dropWhile isNumberBlank).reverse

/-- The value of a digit below `base`; letters go on after nine. -/
def digitBelow? (base : Nat) (c : Char) : Option Nat :=
  let value :=
    if 'a' ≤ c && c ≤ 'z' then some (c.toNat - 0x61 + 10)
    else if 'A' ≤ c && c ≤ 'Z' then some (c.toNat - 0x41 + 10)
    else digitValue? c
  value.filter (· < base)

/-- Digits in a text: how many there are and the number they form. -/
structure DigitRun where
  count : Nat
  value : Nat
deriving DecidableEq, Repr

/-- Goes on with a run of digits; `afterDigit` says that an underscore may stand here. -/
def readRun (base : Nat) (run : DigitRun) (afterDigit : Bool) : List Char → Option DigitRun
  | [] => if afterDigit then some run else none
  | c :: rest =>
    if c = '_' then (if afterDigit then readRun base run false rest else none)
    else match digitBelow? base c with
      | some d => readRun base ⟨run.count + 1, run.value * base + d⟩ true rest
      | none => none

/-- Drops the mark of a base in front of digits, together with one underscore after it. -/
def dropBaseMark (base : Nat) (s : List Char) : List Char :=
  match s with
  | '0' :: mark :: rest =>
    if (base = 16 && (mark = 'x' || mark = 'X')) || (base = 8 && (mark = 'o' || mark = 'O')) ||
        (base = 2 && (mark = 'b' || mark = 'B')) then
      match rest with
      | '_' :: rest => rest
      | rest => rest
    else s
  | s => s

/-- Why a text is no whole number. -/
inductive IntFault where
  | malformed
  | tooLong (digits : Nat)
deriving DecidableEq, Repr

/-- The sign in front of a number, and the rest. -/
def takeSign : List Char → Bool × List Char
  | '-' :: rest => (true, rest)
  | '+' :: rest => (false, rest)
  | s => (false, s)

/-- A whole number in a base. -/
def readInt (base : Nat) (s : List Char) : Except IntFault Int :=
  let (negative, body) := takeSign (trimNumber s)
  match readRun base ⟨0, 0⟩ false (dropBaseMark base body) with
  | none => .error .malformed
  | some run =>
    if base = 10 && digitLimit < run.count then .error (.tooLong run.count)
    else .ok (if negative then -(run.value : Int) else run.value)

/-- Some digits, an optional fraction and an optional exponent. -/
structure DecimalText where
  /-- The digits before and after the point as one number. -/
  coefficient : Nat
  /-- How many digits the coefficient was written with. -/
  length : Nat
  /-- How many of them stand after the point. -/
  places : Nat
  exponent : Int
deriving DecidableEq, Repr

/-- The number nearest to a decimal. Exponents far outside the range need no big powers. -/
def floatOfDecimal (negative : Bool) (d : DecimalText) : Binary64 :=
  let exponent := d.exponent - d.places
  if d.coefficient = 0 then .zero negative
  else if exponent > 400 then .infinity negative
  else if exponent + d.length < -400 then .zero negative
  else if exponent < 0 then .ofRatio negative d.coefficient (Nat.pow 10 (-exponent).toNat)
  else .ofRatio negative (d.coefficient * Nat.pow 10 exponent.toNat) 1

/-- The digits at the front of a text, grouped by single underscores, and the rest. -/
def takeDigits (run : DigitRun) : List Char → DigitRun × List Char
  | [] => (run, [])
  | [c] =>
    match digitBelow? 10 c with
    | some d => (⟨run.count + 1, run.value * 10 + d⟩, [])
    | none => (run, [c])
  | c :: next :: rest =>
    match digitBelow? 10 c with
    | some d => takeDigits ⟨run.count + 1, run.value * 10 + d⟩ (next :: rest)
    | none =>
      if c = '_' && run.count ≠ 0 && (digitBelow? 10 next).isSome then takeDigits run (next :: rest)
      else (run, c :: next :: rest)

/-- The fraction that may follow the whole digits. -/
def takeFraction (whole : DigitRun) : List Char → DecimalText × List Char
  | '.' :: rest =>
    let (fraction, rest) := takeDigits ⟨0, 0⟩ rest
    (⟨whole.value * Nat.pow 10 fraction.count + fraction.value, whole.count + fraction.count,
      fraction.count, 0⟩, rest)
  | s => (⟨whole.value, whole.count, 0, 0⟩, s)

/-- The exponent that may follow; without digits it is not part of the number. -/
def takeExponent (d : DecimalText) (s : List Char) : DecimalText × List Char :=
  match s with
  | e :: rest =>
    if e = 'e' || e = 'E' then
      let (negative, digits) := takeSign rest
      let (run, after) := takeDigits ⟨0, 0⟩ digits
      if run.count = 0 then (d, s)
      else ({ d with exponent := if negative then -(run.value : Int) else run.value }, after)
    else (d, s)
  | [] => (d, s)

/-- An unsigned decimal at the front of a text, and the rest; none if there is no digit. -/
def takeDecimal? (s : List Char) : Option (DecimalText × List Char) :=
  let (whole, rest) := takeDigits ⟨0, 0⟩ s
  let (d, rest) := takeFraction whole rest
  if d.length = 0 then none else some (takeExponent d rest)

/-- A floating-point number; the words for infinity and for no number are read in any case. -/
def readFloat (s : List Char) : Option Binary64 :=
  let (negative, body) := takeSign (trimNumber s)
  let word := String.ofList (body.map Char.toLower)
  if word = "inf" || word = "infinity" then some (.infinity negative)
  else if word = "nan" then some .nan
  else match takeDecimal? body with
    | some (d, []) => some (floatOfDecimal negative d)
    | _ => none

example : (readInt 10 " -1_000 ".toList).toOption = some (-1000) ∧
    (readInt 10 "1__0".toList).toOption = none ∧ (readInt 16 "0xFf".toList).toOption = some 255 := by
  decide +kernel

example : readFloat "1_0.5e-1".toList = some (.ofRatio false 105 100) ∧ readFloat "1.e".toList = none := by
  decide +kernel

end LayeredFiles.Number
