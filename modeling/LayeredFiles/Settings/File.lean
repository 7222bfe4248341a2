import LayeredFiles.Disk.Folder
import LayeredFiles.Json.Read
import LayeredFiles.Json.Write
import LayeredFiles.Settings.Validate
/-
Module: LayeredFiles.Settings.File
Layer: Settings
Purpose: settings kept in a file, as one JSON document. What is read back is checked like any other data.
Main exports: Settings.document, Settings.ofDocument, Settings.save, Settings.load
-/

namespace LayeredFiles

namespace Settings

/-- The settings as the text of a document. -/
def document (s : Settings) : String := Json.write s.value

/-- The settings in the text of a document. -/
def ofDocument (home : NormalPath) (text : String) : Except Fault Settings :=
  reported title
    (match Json.readDocument text.toList with
    | .ok v => checkSettings true home v
    | .error _ => .error [⟨[], .jsonInvalid, .str text⟩])

/-- Keeps the settings in a file, whose folder is made if it is missing, and gives the file's path. -/
def save (s : Settings) (path : NormalPath) (disk : Disk) : Except Fault String × Disk :=
  match disk.ensureFolder path.parent with
  | (.error fault, disk) => (.error fault, disk)
  | (.ok (), disk) =>
    match disk.writeFile "utf-8" path.text (.str s.document) with
    | (.error fault, disk) => (.error fault, disk)
    | (.ok (), disk) => (.ok path.text, disk)

/-- The settings in a file. -/
def load (home : NormalPath) (disk : Disk) (path : NormalPath) : Except Fault Settings := do
  ofDocument home (← disk.readText "utf-8" path.text)

end Settings

end LayeredFiles
