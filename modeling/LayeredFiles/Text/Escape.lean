/-
Module: LayeredFiles.Text.Escape
Layer: Text
Purpose: texts made safe for markup documents. The characters that have a meaning in a document give
  way to references.
Main exports: escapeChar, escape
-/

namespace LayeredFiles.Text

/-- The form of a character in a markup document. -/
def escapeChar (c : Char) : List Char :=
  if c = '&' then "&amp;".toList
  else if c = '<' then "&lt;".toList
  else if c = '>' then "&gt;".toList
  else if c = '\'' then "&#39;".toList
  else if c = '"' then "&#34;".toList
  else [c]

/-- A text as it stands in a markup document. -/
def escape (s : String) : String := String.ofList (s.toList.flatMap escapeChar)

example : escape "<a href='x'>\"&" = "&lt;a href=&#39;x&#39;&gt;&#34;&amp;" := by decide +kernel

end LayeredFiles.Text
