import LayeredFiles.Disk.Basic
import LayeredFiles.Fault
import LayeredFiles.Text.Newline
/-
Module: LayeredFiles.Disk.TextFile
Layer: Disk
Purpose: text files. A text is written as it is and read with one spelling of line ends. Writing makes
  the folders above the file, empties the file and only then encodes the text, so a text that cannot
  be encoded leaves an empty file.
Main exports: Disk.readText, Disk.writeText, Disk.clearFile
-/

namespace LayeredFiles

namespace Disk

/-- A disk problem as a fault. -/
def faultOf (path : String) (problem : DiskProblem) : Fault := .disk (.problem problem path)

/-- The text of a file. -/
def readText (disk : Disk) (encoding path : String) : Except Fault String :=
  if encoding.toList.contains '\x00' then .error (.codec .nulInName)
  else if path.toList.contains '\x00' then .error (.disk .nulInPath)
  else match disk.readBytes path with
    | .error problem => .error (faultOf path problem)
    | .ok bytes =>
      match Text.Encoding.find? encoding with
      | .error fault => .error (.codec fault)
      | .ok encoding =>
        match encoding.decode bytes with
        | .error fault => .error (.codec fault)
        | .ok chars => .ok (String.ofList (Text.unifyNewlines chars))

/-- Makes a file empty, creating it if it is not there. -/
def clearFile (disk : Disk) (path : String) : Except Fault (Place × Disk) :=
  if path.toList.contains '\x00' then .error (.disk .nulInPath)
  else match disk.placeForFile path with
    | .error problem => .error (faultOf path problem)
    | .ok place => .ok (place, disk.put place (.file []))

/-- The bytes of a value that is to be written; only texts can be. -/
def bytesToWrite (encoding : String) (content : Value) : Except Fault (List UInt8) :=
  match Text.Encoding.find? encoding with
  | .error fault => .error (.codec fault)
  | .ok encoding =>
    match content.text? with
    | none => .error (.type (.notWritable content.typeName))
    | some text =>
      match encoding.encode text.toList with
      | .error fault => .error (.codec fault)
      | .ok bytes => .ok bytes

/-- Writes a file whose folder is there. -/
def writeFile (disk : Disk) (encoding path : String) (content : Value) : Except Fault Unit × Disk :=
  if encoding.toList.contains '\x00' then (.error (.codec .nulInName), disk)
  else match disk.clearFile path with
    | .error fault => (.error fault, disk)
    | .ok (place, cleared) =>
      match bytesToWrite encoding content with
      | .error fault => (.error fault, cleared)
      | .ok bytes => (.ok (), cleared.put place (.file bytes))

/-- Writes a file and makes the folders above it. -/
def writeText (disk : Disk) (encoding path : String) (content : Value) : Except Fault Unit × Disk :=
  match Path.folder path with
  | "" => disk.writeFile encoding path content
  | folder =>
    match disk.makeFolders folder with
    | (disk, .error fault) => (.error (.disk fault), disk)
    | (disk, .ok ()) => disk.writeFile encoding path content

end Disk

end LayeredFiles
