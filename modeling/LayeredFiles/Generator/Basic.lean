import LayeredFiles.Console.Status
import LayeredFiles.Generator.Shelf
import LayeredFiles.Settings.Basic
/-
Module: LayeredFiles.Generator.Basic
Layer: Generator
Purpose: the generator of files. The name of a file alone decides how it is made: a name with the mark of
  a chain goes through its chain, any other is made from the template of a generator. Further files of
  a generator are copied, and rendered first if they are templates. What was made is told, and so is
  what could not be made.
Main exports: Generator, Generator.standard, Generator.chains, Generator.create, Generator.copy
-/

namespace LayeredFiles

open Template

/-- A generator over a state `σ`. -/
structure Generator (σ : Type) where
  settings : Settings
  site : Site σ
  /-- Renders the template of an identifier with the context of a stage. -/
  render : Value → Entries → σ → Except Fault Value × σ
  shelf : Shelf σ

namespace Generator

variable {σ : Type}

/-- The templates of the settings. -/
def libraryOf (settings : Settings) : Library := ⟨settings.templatesPath⟩

/-- Renders with a library and leaves the state as it is. -/
def renderFrom (library : Library) (site : Site σ) (id : Value) (context : Entries) (s : σ) :
    Except Fault Value × σ :=
  ((library.render (site.disk s) id (.dict context)).map .str, s)

/-- The generator that works with the templates of the settings alone. -/
def standard (settings : Settings) (site : Site σ) : Generator σ where
  settings := settings
  site := site
  render := renderFrom (libraryOf settings) site
  shelf := ⟨libraryOf settings, site.write settings.encoding⟩

/-- The templates of the settings. -/
def library (g : Generator σ) : Library := libraryOf g.settings

/-- Writes a file in the encoding of the settings. -/
def write (g : Generator σ) (path : String) (content : Value) (s : σ) : Except Fault Unit × σ :=
  g.site.write g.settings.encoding path content s

/-- Reads a file in the encoding of the settings. -/
def read (g : Generator σ) (path : String) (s : σ) : Except Fault String :=
  (g.site.disk s).readText g.settings.encoding path

/-- Tells a message behind a status word. -/
def report [Host] (g : Generator σ) (status message : String) (s : σ) : Except Fault Unit × σ :=
  match Console.statusLine status message with
  | .error fault => (.error fault, s)
  | .ok line => (.ok (), g.site.tell line s)

/-- What is told about a stage that has written its file. -/
def stageMessage (number total : Nat) (template : Value) (path : String) : String :=
  toString number ++ "/" ++ toString total ++ " " ++ template.display ++ " -> " ++ path

/-- What chains need, from this generator. Stages are told if the settings ask for it. -/
def chains [Host] (g : Generator σ) : Capabilities σ where
  render := g.render
  write := g.write
  announce number total template path s :=
    if g.settings.verbose then (g.report "stage" (stageMessage number total template path) s).2
    else s

/-- Makes a file by its chain or from the template of a generator, as its name says. -/
def make [Host] (g : Generator σ) (name destination context : Value) (s : σ) : Except Fault String × σ :=
  match pathOf destination with
  | .error fault => (.error fault, s)
  | .ok path =>
    if isMarked path then process g.chains destination context s
    else g.shelf.apply (g.site.disk s) name destination context s

/-- Makes a file, tells what was made or why nothing was, and gives the path that was written. -/
def create [Host] (g : Generator σ) (name destination context : Value) (s : σ) :
    Except Fault String × σ :=
  let context := if context.isTrue then context else .dict []
  match g.make name destination context s with
  | (.error fault, s) =>
    match g.report "error"
        ("Failed to create " ++ destination.display ++ ": " ++ fault.message) s with
    | (.error unsaid, s) => (.error unsaid, s)
    | (.ok (), s) => (.error fault, s)
  | (.ok path, s) =>
    match g.report "create" path s with
    | (.error unsaid, s) => (.error unsaid, s)
    | (.ok (), s) => (.ok path, s)

/-! ### Copies -/

/-- The file of a generator that a value names. -/
def sourceOf (g : Generator σ) (name : Value) : Value → Except Fault NormalPath
  | .str source => .ok ((g.shelf.folder name).appendText source)
  | source => .error (.type (.operands "/" "PosixPath" source.typeName))

/-- The file is a template that is rendered before it is copied. -/
def isTemplate (source : String) : Bool :=
  (Text.stripPrefix? templateSuffix.toList.reverse source.toList.reverse).isSome

/-- The text of a template that is copied; it is found by its place below the root of the settings. -/
def renderedCopy (g : Generator σ) (disk : Disk) (source : NormalPath) (context : Value) :
    Except Fault String :=
  match source.relativeTo? g.library.root with
  | none => .error (.value (.notBelow source.text g.library.root.text))
  | some relative => do
    let entries ← entriesOf context
    g.library.renderPath disk relative.text (.dict entries)

/-- The text of a file of a generator, rendered if it is a template. -/
def copiedText (g : Generator σ) (name source context : Value) (s : σ) : Except Fault String := do
  let path ← g.sourceOf name source
  if ← Shelf.isFile (g.site.disk s) path then
    if isTemplate source.display then g.renderedCopy (g.site.disk s) path context
    else g.read path.text s
  else throw (.noSourceFile path.text)

/-- Copies a file of a generator, tells it and gives the path of the copy. -/
def copy [Host] (g : Generator σ) (name source destination context : Value) (s : σ) :
    Except Fault String × σ :=
  match g.copiedText name source context s with
  | .error fault => (.error fault, s)
  | .ok text =>
    match g.write destination.display (.str text) s with
    | (.error fault, s) => (.error fault, s)
    | (.ok (), s) =>
      match g.report "create" destination.display s with
      | (.error unsaid, s) => (.error unsaid, s)
      | (.ok (), s) => (.ok destination.display, s)

end Generator

end LayeredFiles
