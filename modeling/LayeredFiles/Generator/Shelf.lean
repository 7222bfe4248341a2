import LayeredFiles.Chain.Run
import LayeredFiles.Generator.Site
import LayeredFiles.Template.Library
/-
Module: LayeredFiles.Generator.Shelf
Layer: Generator
Purpose: the templates of generators. Every generator has a folder below the root, and one template in
  it that makes a whole file. A generator without that template is a fault of its own; whatever goes
  wrong after it was found is kept as the cause of one fault.
Main exports: Shelf, Shelf.folder, Shelf.templatePath, Shelf.has, Shelf.apply
-/

namespace LayeredFiles

open Template

/-- The templates of generators, and how what they make is written, over a state `σ`. -/
structure Shelf (σ : Type) where
  library : Library
  write : String → Value → σ → Except Fault Unit × σ

/-- The template in the folder of a generator. -/
def mainTemplate : String := "template.j2"

namespace Shelf

variable {σ : Type}

/-- The folder of a generator. -/
def folder (shelf : Shelf σ) (name : Value) : NormalPath :=
  shelf.library.root.appendText name.display

/-- The template of a generator. -/
def templatePath (shelf : Shelf σ) (name : Value) : NormalPath :=
  (shelf.folder name).appendText mainTemplate

/-- The path is that of a file; a name that is too long is a fault. -/
def isFile (disk : Disk) (path : NormalPath) : Except Fault Bool :=
  match disk.probeFile path.text with
  | .error problem => .error (Disk.faultOf path.text problem)
  | .ok found => .ok found

/-- The generator has a template. -/
def has (shelf : Shelf σ) (disk : Disk) (name : Value) : Except Fault Bool :=
  isFile disk (shelf.templatePath name)

/-- The text that the template of a generator makes in a context. -/
def text (shelf : Shelf σ) (disk : Disk) (name context : Value) : Except Fault String := do
  let entries ← entriesOf context
  shelf.library.renderPath disk (name.display ++ "/" ++ mainTemplate) (.dict entries)

/-- Writes the text that the template of a generator makes. -/
def writeResult (shelf : Shelf σ) (disk : Disk) (name : Value) (path : String) (context : Value)
    (s : σ) : Except Fault Unit × σ :=
  match shelf.text disk name context with
  | .error fault => (.error fault, s)
  | .ok text => shelf.write path (.str text) s

/-- Makes a file out of the template of a generator and gives the file's path. -/
def apply (shelf : Shelf σ) (disk : Disk) (name destination context : Value) (s : σ) :
    Except Fault String × σ :=
  match shelf.has disk name with
  | .error fault => (.error fault, s)
  | .ok false => (.error (.noTemplate name.display [(shelf.templatePath name).text]), s)
  | .ok true =>
    match shelf.writeResult disk name destination.display context s with
    | (.error cause, s) => (.error (.notApplied cause), s)
    | (.ok (), s) => (.ok destination.display, s)

end Shelf

end LayeredFiles
