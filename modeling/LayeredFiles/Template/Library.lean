import LayeredFiles.Disk.TextFile
import LayeredFiles.Template.Render
/-
Module: LayeredFiles.Template.Library
Layer: Template
Purpose: the templates below a root folder. A template of a chain is looked for by its identifier at
  three places, of which the first that is a file counts. A path below the root is read piece by piece;
  a piece that leads upwards is refused. What is loaded from a file prints texts as they are.
Main exports: candidates, Library, Library.find?, Library.load, Library.render, Library.renderPath,
  Library.partials, Library.generators
-/

namespace LayeredFiles.Template

/-- The ending of a template's file name. -/
def templateSuffix : String := ".j2"

/-- The folder of the templates of chains. -/
def partialsFolder : String := "partials"

/-- The places below the root where a template of a chain may be, in the order of search. -/
def candidates (id : String) : List String :=
  [partialsFolder ++ "/" ++ id ++ ".j2", partialsFolder ++ "/" ++ id ++ ".html.j2",
    id ++ "/template.j2"]

/-- The names that a path below the root goes through; none if one of them leads upwards. -/
def pieces? (path : String) : Option (List String) :=
  let parts := Text.splitOn '/' path.toList
  if parts.contains ['.', '.'] then none
  else some ((parts.filter (fun p => p ≠ [] && p ≠ ['.'])).map String.ofList)

/-- Templates below a root. -/
structure Library where
  root : NormalPath

namespace Library

/-- A path below the root. -/
def pathOf (lib : Library) (relative : String) : String := (lib.root.appendText relative).text

/-- The first of some candidates that is a file below the root. -/
def findAmong (lib : Library) (disk : Disk) : List String → Except Fault (Option String)
  | [] => .ok none
  | candidate :: rest =>
    match disk.probeFile (lib.pathOf candidate) with
    | .error problem => .error (Disk.faultOf (lib.pathOf candidate) problem)
    | .ok true => .ok (some candidate)
    | .ok false => lib.findAmong disk rest

/-- The place of the template of an identifier. -/
def find? (lib : Library) (disk : Disk) (id : String) : Except Fault (Option String) :=
  lib.findAmong disk (candidates id)

/-- The file of a path below the root. -/
def fileOf (lib : Library) (pieces : List String) : String := pieces.foldl Path.join lib.root.text

/-- The text of the template at a path below the root. -/
def source (lib : Library) (disk : Disk) (path : String) : Except Fault String :=
  match pieces? path with
  | none => .error (.template (.outsideRoot path))
  | some pieces =>
    let file := lib.fileOf pieces
    if disk.isFile file then disk.readText "utf-8" file
    else .error (.template (.notFound path lib.root.text))

/-- The template at a path below the root. -/
def load (lib : Library) (disk : Disk) (path : String) : Except Fault Parsed :=
  match lib.source disk path with
  | .error fault => .error fault
  | .ok source =>
    match Parsed.read source.toList false with
    | .error fault => .error (.template fault)
    | .ok t => .ok t

/-- The text of the template at a path below the root, in a context. -/
def renderPath (lib : Library) (disk : Disk) (path : String) (context : Value) :
    Except Fault String :=
  match lib.load disk path with
  | .error fault => .error fault
  | .ok t => (t.renderWith context).map String.ofList

/-- The text of the template of an identifier, in a context. -/
def render (lib : Library) (disk : Disk) (id : Value) (context : Value) : Except Fault String :=
  let id := id.display
  match lib.find? disk id with
  | .error fault => .error fault
  | .ok none => .error (.noTemplate id (candidates id))
  | .ok (some path) => lib.renderPath disk path context

/-! ### What there is -/

/-- A text without an ending, if it has that ending. -/
def withoutEnd (ending s : List Char) : List Char :=
  match Text.stripPrefix? ending.reverse s.reverse with
  | some rest => rest.reverse
  | none => s

/-- The order of texts by their characters. -/
def notAfter (a b : String) : Bool := !(b < a)

/-- Names in order, each once. -/
def sortedNames (names : List String) : List String := (names.mergeSort notAfter).eraseReps

/-- The identifier that a name among the templates of chains stands for. -/
def identifierOf? (name : String) : Option String :=
  match Text.stripPrefix? templateSuffix.toList.reverse name.toList.reverse with
  | some rest => some (String.ofList (withoutEnd ".html".toList rest.reverse))
  | none => none

/-- The names in a folder, none if it is no folder. -/
def namesIn (disk : Disk) (path : String) : Except Fault (List (String × Node)) :=
  if path.toList.contains '\x00' then .ok []
  else match disk.stat path with
    | .ok (place, .folder) => .ok (disk.names place)
    | .error .nameTooLong => .error (Disk.faultOf path .nameTooLong)
    | _ => .ok []

/-- The identifiers of the templates of chains. -/
def partials (lib : Library) (disk : Disk) : Except Fault (List String) :=
  (namesIn disk (lib.pathOf partialsFolder)).map (fun names =>
    sortedNames (names.filterMap (fun e => identifierOf? e.1)))

/-- A folder that holds the templates of a generator. -/
def isGenerator (name : String) (node : Node) : Bool :=
  node = .folder && name.toList.head? ≠ some '.' && name ≠ partialsFolder

/-- The names of the generators. -/
def generators (lib : Library) (disk : Disk) : Except Fault (List String) :=
  (namesIn disk lib.root.text).map (fun names =>
    ((names.filter (fun e => isGenerator e.1 e.2)).map Prod.fst).mergeSort notAfter)

end Library

example : candidates "layout" =
    ["partials/layout.j2", "partials/layout.html.j2", "layout/template.j2"] := by decide +kernel

example : pieces? "a//./b" = some ["a", "b"] ∧ pieces? "a/../b" = none := by decide +kernel

end LayeredFiles.Template
