import LayeredFiles.Text.Split
/-
Module: LayeredFiles.Path
Layer: Path
Purpose: paths as texts. A path is cut at its last slash into a folder and a file name and put
  together again; apart from that, a path may be brought into a normal form, a root and the parts
  below it.
Main exports: Path.fileName, Path.folder, Path.join, NormalPath, NormalPath.ofChars, NormalPath.text,
  NormalPath.append, NormalPath.suffix, NormalPath.relativeTo?
-/

namespace LayeredFiles

namespace Path

/-- What follows the last slash. -/
def fileNameChars (s : List Char) : List Char := (s.reverse.takeWhile (· != '/')).reverse

/-- Everything up to and including the last slash. -/
def headChars (s : List Char) : List Char := (s.reverse.dropWhile (· != '/')).reverse

/-- The folder of a path: what precedes the file name, without slashes at its end unless it is
    nothing but slashes. -/
def folderChars (s : List Char) : List Char :=
  let head := headChars s
  if head.all (· == '/') then head else (head.reverse.dropWhile (· == '/')).reverse

/-- A path below a folder. A path that starts at the root stands for itself. -/
def joinChars (folder path : List Char) : List Char :=
  if path.head? = some '/' then path
  else if folder = [] || folder.getLast? = some '/' then folder ++ path
  else folder ++ '/' :: path

/-- The file name of a path, empty if the path ends in a slash. -/
def fileName (s : String) : String := String.ofList (fileNameChars s.toList)

/-- The folder of a path, empty if the path has no slash. -/
def folder (s : String) : String := String.ofList (folderChars s.toList)

/-- A path below a folder. -/
def join (folder path : String) : String := String.ofList (joinChars folder.toList path.toList)

/-- The head and the file name make up the path. -/
theorem headChars_append_fileNameChars (s : List Char) : headChars s ++ fileNameChars s = s := by
  unfold headChars fileNameChars
  rw [← List.reverse_append, List.takeWhile_append_dropWhile, List.reverse_reverse]

/-- A file name holds no slash. -/
theorem slash_notMem_fileNameChars (s : List Char) : '/' ∉ fileNameChars s := by
  intro h
  simp only [fileNameChars, List.mem_reverse] at h
  have := List.all_eq_true.1 (List.all_takeWhile (p := (· != '/')) (l := s.reverse)) _ h
  simp at this

end Path

/-- How many slashes the root of a normal path has. Two slashes are a root of their own. -/
inductive PathRoot where
  | relative
  | single
  | double
deriving DecidableEq, Repr

/-- A path in normal form: repeated slashes, slashes at the end and single dots are gone, double dots
    stay. -/
structure NormalPath where
  root : PathRoot
  parts : List (List Char)
deriving DecidableEq, Repr

namespace NormalPath

/-- The pieces between slashes that name something. -/
def partsOf (s : List Char) : List (List Char) :=
  (Text.splitOn '/' s).filter (fun part => part ≠ [] && part ≠ ['.'])

/-- The normal form of a path. -/
def ofChars (s : List Char) : NormalPath :=
  match s with
  | '/' :: '/' :: '/' :: rest => ⟨.single, partsOf rest⟩
  | '/' :: '/' :: rest => ⟨.double, partsOf rest⟩
  | '/' :: rest => ⟨.single, partsOf rest⟩
  | s => ⟨.relative, partsOf s⟩

def ofString (s : String) : NormalPath := ofChars s.toList

/-- The text of a root. -/
def rootText : PathRoot → List Char
  | .relative => []
  | .single => ['/']
  | .double => ['/', '/']

/-- The text of a normal path; the folder one is in is a single dot. -/
def chars (p : NormalPath) : List Char :=
  match rootText p.root ++ Text.joinWith ['/'] p.parts with
  | [] => ['.']
  | s => s

def text (p : NormalPath) : String := String.ofList p.chars

/-- A path below another. A path that has a root stands for itself. -/
def append (p q : NormalPath) : NormalPath :=
  if q.root = .relative then ⟨p.root, p.parts ++ q.parts⟩ else q

/-- A text as a path below another. -/
def appendText (p : NormalPath) (s : String) : NormalPath := p.append (ofString s)

/-- The last part, empty if there is none. -/
def name (p : NormalPath) : List Char := p.parts.getLast?.getD []

/-- The path without its last part. -/
def parent (p : NormalPath) : NormalPath := ⟨p.root, p.parts.dropLast⟩

/-- The last part from its last dot on, if something stands before and after that dot. -/
def suffix (p : NormalPath) : List Char :=
  let tail := p.name.reverse.takeWhile (· != '.')
  let before := (p.name.reverse.dropWhile (· != '.')).drop 1
  if tail = [] || before = [] || tail.length = p.name.length then [] else '.' :: tail.reverse

/-- The parts below another path. -/
def relativeTo? (p base : NormalPath) : Option NormalPath :=
  if p.root = base.root && base.parts.isPrefixOf p.parts then
    some ⟨.relative, p.parts.drop base.parts.length⟩
  else none

end NormalPath

example : Path.folder "a//b" = "a" ∧ Path.folder "//b" = "//" ∧ Path.fileName "a/" = "" ∧
    Path.join "a" "/b" = "/b" := by decide +kernel

example : (NormalPath.ofString "./a//b/").text = "a/b" ∧ (NormalPath.ofString "").text = "." ∧
    (NormalPath.ofString "c.json.yml").suffix = ".yml".toList ∧
    (NormalPath.ofString ".yaml").suffix = [] := by decide +kernel

end LayeredFiles
