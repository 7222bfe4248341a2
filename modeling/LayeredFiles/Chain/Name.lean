import LayeredFiles.Path
/-
Module: LayeredFiles.Chain.Name
Layer: Chain
Purpose: file names that carry a chain of templates. The file name is cut at its dots; the first
  segment that begins with an underscore starts the chain, and it and all segments after it name
  templates, the last one to be applied first. The name of an intermediate file carries the templates
  that are still pending, so that every intermediate file says how the work goes on.
Main exports: ChainName, ChainName.parse, ChainName.hasChain, isMarked, decorators, pending, stagePath
-/

namespace LayeredFiles

open LayeredFiles.Text LayeredFiles.Path

/-- The path that a chain ends in, and the templates that lead there, innermost first. -/
structure ChainName where
  base : String
  templates : List String
deriving DecidableEq, Repr

/-- A segment that may start a chain. -/
def startsChain (segment : List Char) : Bool := segment.head? = some '_'

/-- The name of the template that a segment stands for: one underscore in front is dropped. -/
def templateOf (segment : List Char) : List Char :=
  match segment with
  | '_' :: name => name
  | name => name

namespace ChainName

/-- The segments of a file name before the chain, and those of the chain. -/
def cut (name : List Char) : List (List Char) × List (List Char) :=
  (splitOn '.' name).span (fun segment => !startsChain segment)

/-- Reads a path. Without a chain the path is its own base. -/
def parse (path : String) : ChainName :=
  let chars := path.toList
  match cut (fileNameChars chars) with
  | (_, []) => ⟨path, []⟩
  | (plain, chain) =>
    ⟨String.ofList (joinChars (folderChars chars) (joinWith ['.'] plain)),
      (chain.map (fun segment => String.ofList (templateOf segment))).reverse⟩

/-- The path names at least one template. -/
def hasChain (name : ChainName) : Bool := !name.templates.isEmpty

end ChainName

/-- The mark of a chain stands somewhere in the file name. This looks at the text only. -/
def isMarked (path : String) : Bool :=
  (cutAt? ['.', '_'] (fileNameChars path.toList)).isSome

/-- The end of a file name that names some templates, given innermost first. -/
def decorators (templates : List String) : String :=
  String.join (templates.reverse.map (fun name => "._" ++ name))

/-- The templates that are still to be applied after the stage `index`. An index below minus one
    counts from the end. -/
def pending {α : Type} (templates : List α) (index : Int) : List α :=
  let start := index + 1
  templates.drop (if start < 0 then start + templates.length else start).toNat

/-- The file that the stage `index` writes; after the last stage nothing is pending and it is the
    base itself. -/
def stagePath (base : String) (templates : List String) (index : Int) : String :=
  match pending templates index with
  | [] => base
  | rest => Path.join (Path.folder base) (Path.fileName base ++ decorators rest)

example : ChainName.parse "out/File.html._styling._layout._content" =
    ⟨"out/File.html", ["content", "layout", "styling"]⟩ := by decide +kernel

example : stagePath "File.html" ["content", "layout", "styling"] 0 = "File.html._styling._layout" ∧
    stagePath "File.html" ["content", "layout", "styling"] 2 = "File.html" := by decide +kernel

example : (ChainName.parse "_a").hasChain = true ∧ isMarked "_a" = false := by decide +kernel

end LayeredFiles
