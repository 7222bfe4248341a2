import LayeredFiles.Bundled
import LayeredFiles.CommandLine.Run
/-
Module: LayeredFiles.Main
Layer: Main
Purpose: the program. It takes a picture of what a command line may look at, runs the command line on
  that picture, and puts what has changed on the real disk.
Main exports: main
-/

namespace LayeredFiles

open CommandLine

/-- The variables that settings come from. -/
def settingVariables : List String := ["TEMPLATE_CHAIN_TEMPLATES_PATH", "TEMPLATE_CHAIN_ENCODING",
  "TEMPLATE_CHAIN_VERBOSE", "TEMPLATE_CHAIN_MAX_PARALLEL", "TEMPLATE_CHAIN_TIMEOUT"]

/-- What is shown to those who ask for help. -/
def helpText : String := "\n".intercalate [
  "usage: template-chain parse FILE...",
  "       template-chain process [OPTION...] [--parallel COUNT] [--timeout SECONDS] FILE...",
  "       template-chain generate [OPTION...] GENERATOR FILE",
  "       template-chain list [--templates FOLDER]",
  "options: --templates FOLDER, --context FILE, --set KEY=VALUE, --verbose", ""]

/-- The place that some names lead to from another place. -/
def placeFrom (start : Place) (path : NormalPath) : Place :=
  let first : Place := if path.root = .relative then start else []
  path.parts.foldl (fun place name =>
    if name = ['.', '.'] then place.dropLast else place ++ [String.ofList name]) first

/-- The path of a place. -/
def pathOfPlace (place : Place) : String := "/" ++ "/".intercalate place

/-- The paths that a word of a command line may speak of. -/
def pathsIn (word : String) : List String :=
  match Text.cutAt? ['='] word.toList with
  | some (_, text) => [word, String.ofList text]
  | none => [word]

/-- What is at a place, with everything below it if it is a folder. -/
partial def pictureBelow (place : Place) : IO (List (Place × Node)) := do
  let path := (← IO.currentDir) / pathOfPlace place
  if ← path.isDir then
    let mut nodes : List (Place × Node) := [(place, .folder)]
    for entry in ← path.readDir do
      nodes := nodes ++ (← pictureBelow (place ++ [entry.fileName]))
    pure nodes
  else if ← path.pathExists then
    pure [(place, .file (← IO.FS.readBinFile path).toList)]
  else pure []

/-- What is at a place, and which names are beside it if it is a folder. -/
def pictureAt (place : Place) : IO (List (Place × Node)) := do
  let path := (← IO.currentDir) / pathOfPlace place
  if ← path.isDir then
    let mut nodes : List (Place × Node) := [(place, .folder)]
    for entry in ← path.readDir do
      let isFolder ← entry.path.isDir
      nodes := (place ++ [entry.fileName], if isFolder then .folder else .file []) :: nodes
    pure nodes
  else pure []

/-- The picture that the words of a command line need. -/
def pictureFor (here : Place) (words : List String) : IO Disk := do
  let mut disk : Disk := ⟨here, []⟩
  for word in "." :: words.flatMap pathsIn do
    let place := placeFrom here (.ofString word)
    for count in List.range place.length do
      for node in ← pictureAt (place.take count) do
        if (disk.find? node.1).isNone then disk := disk.put node.1 node.2
    if word ≠ "." then
      for node in ← pictureBelow place do
        disk := disk.put node.1 node.2
  for node in ← pictureAt here do
    if (disk.find? node.1).isNone then disk := disk.put node.1 node.2
  pure disk

/-- Puts on the real disk what is new or has changed. -/
def putChanges (before after : Disk) : IO Unit := do
  for node in after.nodes.reverse do
    if before.find? node.1 ≠ some node.2 then
      match node.2 with
      | .folder => IO.FS.createDirAll (pathOfPlace node.1)
      | .file bytes =>
        IO.FS.createDirAll (pathOfPlace node.1.dropLast)
        IO.FS.writeBinFile (pathOfPlace node.1) ⟨bytes.toArray⟩

/-- The variables that are set. -/
def environment : IO Environment :=
  settingVariables.filterMapM (fun name => do
    match ← IO.getEnv name with
    | some text => pure (some (name, text))
    | none => pure none)

/-- The width of the console, which is eighty cells if nobody says otherwise. -/
def consoleWidth : IO Nat := do
  let said ← IO.getEnv "COLUMNS"
  pure ((said.bind String.toNat?).getD 80)

end LayeredFiles

open LayeredFiles CommandLine in
/-- Runs the command line. -/
def main (words : List String) : IO UInt32 := do
  let env ← environment
  let here := placeFrom [] (.ofString (← IO.currentDir).toString)
  let disk ← pictureFor here (words ++ env.map Prod.snd)
  let start : World := ⟨Bundled.overlay disk, ""⟩
  let columns ← consoleWidth
  let host : Host := { plainHost with columns }
  let (ended, w) := @run host Bundled.root env words start
  putChanges start.disk w.disk
  IO.print w.shown
  match ended with
  | .ok ending =>
    if ending = .refused .help then IO.print helpText
    IO.eprint ending.complaint
    pure ending.code.toUInt32
  | .error fault =>
    IO.eprintln fault.message
    pure 1
