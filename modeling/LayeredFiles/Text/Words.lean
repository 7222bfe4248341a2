import LayeredFiles.Text.Blank
import LayeredFiles.Text.Case
/-
Module: LayeredFiles.Text.Words
Layer: Text
Purpose: names made of words, in two spellings. In one every word begins with a capital and nothing
  stands between the words; in the other the words are in lower case with underscores between them.
Main exports: pascalCase, snakeCase
-/

namespace LayeredFiles.Text

/-- One of the letters `A` to `Z`. -/
def isCapital (c : Char) : Bool := 'A' ≤ c && c ≤ 'Z'

/-- One of the letters `a` to `z`. -/
def isSmall (c : Char) : Bool := 'a' ≤ c && c ≤ 'z'

/-- A character that separates the words of a name. -/
def isWordGap (c : Char) : Bool := c = '-' || c = '_' || isBlank c

/-- The words of a name: the runs of characters between gaps. `word` is the reversed word that is
    being read. -/
def wordsFrom (word : List Char) : List Char → List (List Char)
  | [] => if word = [] then [] else [word.reverse]
  | c :: rest =>
    if isWordGap c then
      if word = [] then wordsFrom [] rest else word.reverse :: wordsFrom [] rest
    else wordsFrom (c :: word) rest

/-- The words of a name. -/
def words (s : List Char) : List (List Char) := wordsFrom [] s

/-- The words, each with a capital, joined. -/
def pascalCase (s : List Char) : List Char := (words s).flatMap capitalize

/-- Puts an underscore before each capital that a small letter follows and any character but a line
    feed precedes. The small letters after such a capital are copied; the character that ends them may
    again precede a capital. `isCopying` says that small letters are being copied. -/
def markWords : Bool → List Char → List Char
  | _, [] => []
  | _, [c] => [c]
  | isCopying, [c, d] => if isCopying && isSmall c then c :: markWords true [d] else [c, d]
  | isCopying, c :: capital :: small :: rest =>
    if isCopying && isSmall c then c :: markWords true (capital :: small :: rest)
    else if c ≠ '\n' && isCapital capital && isSmall small then
      c :: '_' :: capital :: markWords true (small :: rest)
    else c :: markWords false (capital :: small :: rest)

/-- Puts an underscore between a small letter or digit and a capital after it. -/
def markCapitals : List Char → List Char
  | [] => []
  | [c] => [c]
  | c :: capital :: rest =>
    if (isSmall c || c.isDigit) && isCapital capital then c :: '_' :: capital :: markCapitals rest
    else c :: markCapitals (capital :: rest)

/-- Writes each run of hyphens and blanks as one underscore. `isInRun` says that the run's underscore
    is written already. -/
def joinGaps (isInRun : Bool) : List Char → List Char
  | [] => []
  | c :: rest =>
    if c = '-' || isBlank c then
      if isInRun then joinGaps true rest else '_' :: joinGaps true rest
    else c :: joinGaps false rest

/-- The words of a name in lower case with underscores between them. -/
def snakeCase (s : List Char) : List Char :=
  lower (joinGaps false (markCapitals (markWords false s)))

example : pascalCase "blog_post-item x".toList = "BlogPostItemX".toList := by decide +kernel

example : snakeCase "parseHTMLString".toList = "parse_html_string".toList ∧
    snakeCase "a1B  -c".toList = "a1_b_c".toList := by decide +kernel

end LayeredFiles.Text
