import LayeredFiles.Disk.TextFile
/-
Module: LayeredFiles.Disk.Folder
Layer: Disk
Purpose: folders of paths in normal form. A folder is made at once if the one above it is there; only
  when that fails are the folders above made, outermost first. A folder that is there is kept.
Main exports: Disk.ensureFolder
-/

namespace LayeredFiles

namespace Disk

/-- Makes one folder; `missing` tells what is done if the folder above it is not there. -/
def ensureOne (disk : Disk) (path : String) (missing : Disk → Except Fault Unit × Disk) :
    Except Fault Unit × Disk :=
  if path.toList.contains '\x00' then (.error (.disk .nulInPath), disk)
  else match disk.makeFolder path with
    | .ok disk => (.ok (), disk)
    | .error .notFound => missing disk
    | .error problem =>
      if disk.isFolder path then (.ok (), disk) else (.error (faultOf path problem), disk)

/-- Makes one folder inside a folder that is there. -/
def ensureLast (disk : Disk) (path : String) : Except Fault Unit × Disk :=
  disk.ensureOne path (fun disk => (.error (faultOf path .notFound), disk))

/-- Makes the folder whose parts are given, the last one first, and the folders above it. -/
def ensureParts (root : PathRoot) : List (List Char) → Disk → Except Fault Unit × Disk
  | [], disk => disk.ensureLast (NormalPath.mk root []).text
  | part :: above, disk =>
    let path := (NormalPath.mk root (part :: above).reverse).text
    disk.ensureOne path (fun disk =>
      match ensureParts root above disk with
      | (.error fault, disk) => (.error fault, disk)
      | (.ok (), disk) => disk.ensureLast path)

/-- Makes a folder and all folders above it that are missing. -/
def ensureFolder (disk : Disk) (path : NormalPath) : Except Fault Unit × Disk :=
  ensureParts path.root path.parts.reverse disk

end Disk

end LayeredFiles
