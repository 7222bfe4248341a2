import LayeredFiles.Disk.TextFile
import LayeredFiles.Host
import LayeredFiles.Json.Read
import LayeredFiles.Text.Case
import LayeredFiles.Value.Parts
import LayeredFiles.Yaml.Document
/-
Module: LayeredFiles.Context
Layer: Context
Purpose: where contexts come from. A context file holds one mapping, written in YAML if the name of the
  file ends like that and in JSON otherwise; an empty YAML document is the empty mapping. A document that is
  nested deeper than the host can follow gives none. An assignment is a key and a text with an equals sign
  between them.
Main exports: followedValue, loadContext, assignmentOf, assign, readAssignments
-/

namespace LayeredFiles

open Text

/-! ### Files -/

/-- The endings of YAML files, in lower case. -/
def yamlSuffixes : List (List Char) := [".yaml".toList, ".yml".toList]

/-- The name of the file says that it is written in YAML. -/
def isYamlFile (path : NormalPath) : Bool := yamlSuffixes.contains (lower path.suffix)

/-- The value of a YAML document in a file; nothing at all stands for an empty mapping. -/
def yamlValue (path : NormalPath) (s : List Char) : Except Fault Value :=
  match Yaml.readYaml s with
  | .ok .null => .ok (.dict [])
  | .ok v => .ok v
  | .error (.problem what) => .error (.value (.contextYaml path.text what.message))
  | .error (.fault fault) => .error fault

/-- The value of the document in a file. -/
def documentValue (path : NormalPath) (s : List Char) : Except Fault Value :=
  if isYamlFile path then yamlValue path s else Json.readDocument s

/-- A document as a context; it has to be a mapping. -/
def mappingOf (path : NormalPath) : Value → Except Fault Entries
  | .dict entries => .ok entries
  | _ => .error (.value (.contextForm path.text))

/-- The value of the document in a file, if the host can follow it. -/
def followedValue [Host] (path : NormalPath) (s : List Char) : Except Fault Value :=
  if Host.sinks s then .error (.arithmetic .depthTooLarge) else documentValue path s

/-- The context in a file. -/
def loadContext [Host] (disk : Disk) (path : String) : Except Fault Entries := do
  let path := NormalPath.ofString path
  let text ← disk.readText "utf-8" path.text
  let v ← followedValue path text.toList
  mappingOf path v

/-! ### Assignments -/

/-- The key and the text of an assignment. Blanks around the key do not count, and a key there must be;
    the text is everything after the first equals sign. -/
def assignmentOf (item : String) : Except Fault (String × String) :=
  match cutAt? ['='] item.toList with
  | none => .error (.value (.assignment item))
  | some (key, text) =>
    match strip key with
    | [] => .error (.value (.assignment item))
    | key => .ok (String.ofList key, String.ofList text)

/-- Adds an assignment, given as a value, to a context. -/
def assign (context : Entries) : Value → Except Fault Entries
  | .str item => (assignmentOf item).map (fun e => context.set (.str e.1) (.str e.2))
  | v => .error (.attribute v.typeName "partition")

/-- The context that some assignments make up; of two for one key the later one counts, at the place
    of the first. -/
def readAssignments (items : List Value) : Except Fault Entries := items.foldlM assign []

/-- The context that the items of a value make up. -/
def assignmentsOf (items : Value) : Except Fault Entries := do readAssignments (← items.items)

example : isYamlFile (.ofString "a/b.YML") = true ∧ isYamlFile (.ofString "a/.yml") = false := by
  decide +kernel

example : (assignmentOf " lang = a=b ").toOption = some ("lang", " a=b ") := by decide +kernel

end LayeredFiles
