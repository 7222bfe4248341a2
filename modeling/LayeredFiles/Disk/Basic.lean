import LayeredFiles.Disk.Fault
import LayeredFiles.Path
import LayeredFiles.Text.Codec
/-
Module: LayeredFiles.Disk.Basic
Layer: Disk
Purpose: a tree of folders and files as data. A place is the list of names that lead to it from the
  root; a disk lists the places that hold something, and one of them is the folder that relative paths
  start from. A path is walked name by name, and the first name that cannot be entered decides the
  problem. A tree carries no permissions: every folder in it can be entered and listed and every file
  read, so nothing here is refused but by a site that refuses it, and what is said about listings and
  probes is about trees that can be read.
Main exports: Place, Node, Disk, Disk.find?, Disk.put, Disk.walk, Disk.stat, Disk.readBytes,
  Disk.remove, Disk.makeFolder, Disk.makeFolders, Disk.names
-/

namespace LayeredFiles

/-- The names that lead to a place from the root. -/
abbrev Place := List String

/-- What a place holds. -/
inductive Node where
  | folder
  | file (bytes : List UInt8)
deriving DecidableEq, Repr

/-- Folders and files, and the folder that relative paths start from. -/
structure Disk where
  here : Place
  nodes : List (Place × Node)
deriving Repr

/-- The result of an operation of the disk. -/
abbrev DiskResult := Except DiskProblem

namespace Disk

/-- What a place holds, if anything. The root is a folder. -/
def find? (disk : Disk) (place : Place) : Option Node :=
  if place = [] then some .folder
  else (disk.nodes.find? (fun e => e.1 == place)).map Prod.snd

/-- Lets a place hold a node. -/
def put (disk : Disk) (place : Place) (node : Node) : Disk :=
  { disk with nodes := (place, node) :: disk.nodes.filter (fun e => e.1 != place) }

/-- Empties a place. -/
def remove (disk : Disk) (place : Place) : Disk :=
  { disk with nodes := disk.nodes.filter (fun e => e.1 != place) }

/-- After a place was given a node it holds that node. -/
theorem find?_put_self (disk : Disk) (place : Place) (node : Node) (h : place ≠ []) :
    (disk.put place node).find? place = some node := by
  simp [find?, put, h]

/-- Other places hold what they held before. -/
theorem find?_put_of_ne (disk : Disk) {place other : Place} (node : Node) (h : other ≠ place) :
    (disk.put place node).find? other = disk.find? other := by
  by_cases hr : other = []
  · simp [find?, hr]
  · simp only [find?, if_neg hr, put]
    rw [List.find?_cons_of_neg (by simpa using fun e => h e.symm), List.find?_filter]
    congr 1
    congr 1
    funext e
    by_cases he : e.1 = other
    · simp [he, h]
    · simp [he]

/-! ### Walking -/

/-- The most bytes that a name may have. -/
def nameLimit : Nat := 255

/-- A path has fewer bytes than this. -/
def pathLimit : Nat := 4096

/-- Where a path leads: to a folder that exists, or to a name inside one. -/
inductive Spot where
  | folder (place : Place)
  /-- The name may or may not exist; `isOpen` says that a slash follows it. -/
  | entry (folder : Place) (name : String) (isOpen : Bool)
deriving DecidableEq, Repr

/-- Walks names from a folder; every name but the last must be a folder. -/
def walkFrom (disk : Disk) (at_ : Place) (isOpen : Bool) : List (List Char) → DiskResult Spot
  | [] => .ok (.folder at_)
  | ['.'] :: rest => walkFrom disk at_ isOpen rest
  | ['.', '.'] :: rest => walkFrom disk at_.dropLast isOpen rest
  | name :: rest =>
    let name := String.ofList name
    if nameLimit < name.utf8ByteSize then .error .nameTooLong
    else if rest = [] then .ok (.entry at_ name isOpen)
    else match disk.find? (at_ ++ [name]) with
      | none => .error .notFound
      | some (.file _) => .error .notDirectory
      | some .folder => walkFrom disk (at_ ++ [name]) isOpen rest

/-- Where a path leads. -/
def walk (disk : Disk) (path : String) : DiskResult Spot :=
  let chars := path.toList
  if chars = [] then .error .notFound
  else if pathLimit ≤ path.utf8ByteSize then .error .nameTooLong
  else
    let start := if chars.head? = some '/' then [] else disk.here
    let names := (Text.splitOn '/' chars).filter (· ≠ [])
    walkFrom disk start (chars.getLast? = some '/') names

/-- What a path leads to. -/
def stat (disk : Disk) (path : String) : DiskResult (Place × Node) :=
  match disk.walk path with
  | .error problem => .error problem
  | .ok (.folder place) => .ok (place, .folder)
  | .ok (.entry folder name isOpen) =>
    let place := folder ++ [name]
    match disk.find? place with
    | none => .error .notFound
    | some .folder => .ok (place, .folder)
    | some (.file bytes) => if isOpen then .error .notDirectory else .ok (place, .file bytes)

/-- The path leads to something. -/
def pathExists (disk : Disk) (path : String) : Bool :=
  !path.toList.contains '\x00' && (disk.stat path).toBool

/-- The path leads to a file. -/
def isFile (disk : Disk) (path : String) : Bool :=
  !path.toList.contains '\x00' &&
    match disk.stat path with
    | .ok (_, .file _) => true
    | _ => false

/-- The path leads to a folder. -/
def isFolder (disk : Disk) (path : String) : Bool :=
  !path.toList.contains '\x00' &&
    match disk.stat path with
    | .ok (_, .folder) => true
    | _ => false

/-- Whether the path leads to a file, where a name that is too long is a problem of its own. -/
def probeFile (disk : Disk) (path : String) : DiskResult Bool :=
  if path.toList.contains '\x00' then .ok false
  else match disk.stat path with
    | .ok (_, .file _) => .ok true
    | .ok (_, .folder) => .ok false
    | .error .nameTooLong => .error .nameTooLong
    | .error _ => .ok false

/-! ### Reading and writing -/

/-- The bytes of a file. -/
def readBytes (disk : Disk) (path : String) : DiskResult (List UInt8) :=
  match disk.stat path with
  | .error problem => .error problem
  | .ok (_, .folder) => .error .isDirectory
  | .ok (_, .file bytes) => .ok bytes

/-- The place that a file at this path is kept in, be it there already or not. -/
def placeForFile (disk : Disk) (path : String) : DiskResult Place :=
  match disk.walk path with
  | .error problem => .error problem
  | .ok (.folder _) => .error .isDirectory
  | .ok (.entry folder name isOpen) =>
    if isOpen || disk.find? (folder ++ [name]) = some .folder then .error .isDirectory
    else .ok (folder ++ [name])

/-- Makes a folder in a folder that exists. -/
def makeFolder (disk : Disk) (path : String) : DiskResult Disk :=
  match disk.walk path with
  | .error problem => .error problem
  | .ok (.folder _) => .error .alreadyExists
  | .ok (.entry folder name _) =>
    match disk.find? (folder ++ [name]) with
    | some _ => .error .alreadyExists
    | none => .ok (disk.put (folder ++ [name]) .folder)

/-- A path cut into its folder and last name, slashes at the end ignored once. -/
def lastName (path : List Char) : List Char × List Char :=
  match Path.fileNameChars path with
  | [] =>
    let folder := Path.folderChars path
    (Path.folderChars folder, Path.fileNameChars folder)
  | name => (Path.folderChars path, name)

/-- Makes the last folder of a path; a folder that is there already is kept. -/
def makeLast (disk : Disk) (path : String) : Disk × Except DiskFault Unit :=
  if path.toList.contains '\x00' then (disk, .error .nulInPath)
  else match disk.makeFolder path with
    | .ok disk => (disk, .ok ())
    | .error problem =>
      if disk.isFolder path then (disk, .ok ()) else (disk, .error (.problem problem path))

/-- Makes a folder and all folders above it that are missing. What was made before a failure stays.
    `fuel` bounds the number of folders. -/
def makeFoldersUpTo (disk : Disk) : Nat → String → Disk × Except DiskFault Unit
  | 0, path => disk.makeLast path
  | fuel + 1, path =>
    let (head, tail) := lastName path.toList
    let above := String.ofList head
    if head ≠ [] && tail ≠ [] && !disk.pathExists above then
      let (disk, made) := disk.makeFoldersUpTo fuel above
      match made with
      | .ok () | .error (.problem .alreadyExists _) =>
        if tail = ['.'] then (disk, .ok ()) else disk.makeLast path
      | .error fault => (disk, .error fault)
    else disk.makeLast path

/-- Makes a folder and all folders above it that are missing. -/
def makeFolders (disk : Disk) (path : String) : Disk × Except DiskFault Unit :=
  disk.makeFoldersUpTo path.length path

/-- The names inside a folder, in the order of the disk. -/
def names (disk : Disk) (place : Place) : List (String × Node) :=
  disk.nodes.filterMap (fun e =>
    match e.1.getLast? with
    | some name => if e.1.dropLast == place then some (name, e.2) else none
    | none => none)

end Disk

end LayeredFiles
