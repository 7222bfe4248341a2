import LayeredFiles.Text.CaseTable
/-
Module: LayeredFiles.Text.Case
Layer: Text
Purpose: the full case mappings of Unicode 14 on texts. One letter may map to several; the lower-case
  form of a capital sigma depends on its neighbours, which is why the mappings work on whole texts.
Main exports: lower, upper, capitalize
-/

namespace LayeredFiles.Text

/-- The code point that a table of runs maps `n` to; a code point outside all runs maps to itself. -/
def shifted (runs : List CaseRun) (n : Nat) : Nat :=
  match runs.find? (fun r => r.covers n) with
  | some r => ((n : Int) + r.shift).toNat
  | none => n

/-- The lower-case form of a letter without regard to its neighbours. A dotted capital I keeps its
    dot as a combining mark. -/
def lowerChar (c : Char) : List Char :=
  if c.toNat < 0x80 then [c.toLower]
  else if c = '\u0130' then ['i', '\u0307']
  else [Char.ofNat (shifted lowerRuns c.toNat)]

/-- The upper-case form of a letter. -/
def upperChar (c : Char) : List Char :=
  if c.toNat < 0x80 then [c.toUpper]
  else match upperSpecial.lookup c.toNat with
    | some form => form.map Char.ofNat
    | none => [Char.ofNat (shifted upperRuns c.toNat)]

/-- The form of a letter at the head of a word. -/
def titleChar (c : Char) : List Char :=
  match titleSpecial.lookup c.toNat with
  | some form => form.map Char.ofNat
  | none => upperChar c

/-- The nearest character that is not case-ignorable has case. -/
def nextIsCased (s : List Char) : Bool :=
  match s.dropWhile (fun c => inRanges caseIgnorableRanges c.toNat) with
  | [] => false
  | c :: _ => inRanges casedRanges c.toNat

/-- The lower-case form of `c` between the reversed text `before` and the text `after`. A capital
    sigma that ends a word has a form of its own. -/
def lowerBetween (before : List Char) (c : Char) (after : List Char) : List Char :=
  if c = '\u03A3' then
    if nextIsCased before && !nextIsCased after then ['\u03C2'] else ['\u03C3']
  else lowerChar c

/-- The lower-case form of a text that follows the reversed text `before`. -/
def lowerAfter : List Char → List Char → List Char
  | _, [] => []
  | before, c :: rest => lowerBetween before c rest ++ lowerAfter (c :: before) rest

/-- The lower-case form of a text. -/
def lower (s : List Char) : List Char := lowerAfter [] s

/-- The upper-case form of a text. -/
def upper (s : List Char) : List Char := s.flatMap upperChar

/-- The first letter takes its form at the head of a word, all others their lower-case form. -/
def capitalize : List Char → List Char
  | [] => []
  | c :: rest => titleChar c ++ lowerAfter [c] rest

example : lower "ΑΣ ΣΑ İ".toList = "ας σα i̇".toList := by decide +kernel

example : upper "straße".toList = "STRASSE".toList ∧ capitalize "ßA".toList = "Ssa".toList := by
  decide +kernel

end LayeredFiles.Text
