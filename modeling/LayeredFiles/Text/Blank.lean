import LayeredFiles.Text.Ranges
/-
Module: LayeredFiles.Text.Blank
Layer: Text
Purpose: blank characters (Unicode 14) and the removal of blanks at the ends of a text.
Main exports: isBlank, stripLeft, stripRight, strip
-/

namespace LayeredFiles.Text

/-- The blank code points: the separators of Unicode and the controls that act as separators. -/
def blankRanges : List (Nat × Nat) :=
  [(0x09, 0x0D), (0x1C, 0x20), (0x85, 0x85), (0xA0, 0xA0), (0x1680, 0x1680), (0x2000, 0x200A),
   (0x2028, 0x2029), (0x202F, 0x202F), (0x205F, 0x205F), (0x3000, 0x3000)]

/-- A character that separates words. -/
def isBlank (c : Char) : Bool := inRanges blankRanges c.toNat

/-- Drops the blanks at the front. -/
def stripLeft (s : List Char) : List Char := s.dropWhile isBlank

/-- Drops the blanks at the end. -/
def stripRight (s : List Char) : List Char := (s.reverse.dropWhile isBlank).reverse

/-- Drops the blanks at both ends. -/
def strip (s : List Char) : List Char := stripRight (stripLeft s)

example : isBlank '\u00a0' = true ∧ isBlank '\u200b' = false := by decide

example : strip "  a b\n".toList = "a b".toList := by decide

end LayeredFiles.Text
