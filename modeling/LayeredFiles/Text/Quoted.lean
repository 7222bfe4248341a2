import LayeredFiles.Text.Printable
/-
Module: LayeredFiles.Text.Quoted
Layer: Text
Purpose: a text between quotes, as messages and printed lists show it. Single quotes are used unless
  the text holds a single quote and no double quote; backslashes, the chosen quote and characters that
  cannot be printed are escaped.
Main exports: hexDigits, quoted, quotedBytes
-/

namespace LayeredFiles.Text

/-- A digit below sixteen. -/
def hexDigit (n : Nat) : Char := "0123456789abcdef".toList.getD n '0'

/-- The last `places` hexadecimal digits of a number. -/
def hexDigits : Nat → Nat → List Char
  | 0, _ => []
  | places + 1, n => hexDigits places (n / 16) ++ [hexDigit (n % 16)]

/-- The escape of a code point that cannot be shown, as short as its value allows. -/
def escapedCode (n : Nat) : List Char :=
  if n < 0x100 then '\\' :: 'x' :: hexDigits 2 n
  else if n < 0x10000 then '\\' :: 'u' :: hexDigits 4 n
  else '\\' :: 'U' :: hexDigits 8 n

/-- One character inside quotes. -/
def quotedChar (quote c : Char) : List Char :=
  if c = quote || c = '\\' then ['\\', c]
  else if c = '\n' then ['\\', 'n']
  else if c = '\r' then ['\\', 'r']
  else if c = '\t' then ['\\', 't']
  else if isPrintable c then [c]
  else escapedCode c.toNat

/-- Double quotes are chosen only where they save an escape. -/
def quoteFor (s : List Char) : Char :=
  if s.contains '\'' && !s.contains '"' then '"' else '\''

/-- A text between quotes. -/
def quotedChars (s : List Char) : List Char :=
  let quote := quoteFor s
  quote :: s.flatMap (quotedChar quote) ++ [quote]

/-- A string between quotes. -/
def quoted (s : String) : String := String.ofList (quotedChars s.toList)

/-- A byte string between quotes, marked by a leading `b`. -/
def quotedBytes (bytes : List UInt8) : List Char :=
  let chars := bytes.map (fun b => Char.ofNat b.toNat)
  let quote := quoteFor chars
  let one (c : Char) : List Char :=
    if c.toNat < 0x7F then quotedChar quote c else escapedCode c.toNat
  'b' :: quote :: chars.flatMap one ++ [quote]

example : quoted "it's" = "\"it's\"" ∧ quoted "a\n\u0007" = "'a\\n\\x07'" := by decide +kernel

end LayeredFiles.Text
