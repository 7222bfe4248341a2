import LayeredFiles.Context
import LayeredFiles.Proofs.Fault
/-
Module: LayeredFiles.Proofs.Context
Layer: Proofs
Purpose: what contexts fail with. Reading the file, reading JSON and reading assignments fail with faults that
  are announced. A YAML document may hold a value that cannot be made, and a document of any kind may be nested
  deeper than the host can follow; these faults may come up unannounced.
Main exports: Disk.yields_readText_utf8, BreaksContext, yields_loadContext, yields_readAssignments
-/

namespace LayeredFiles

/-! ### Texts -/

/-- Bytes that are no UTF-8 are announced as such. -/
theorem Text.isAnnounced_of_decodeUtf8 {pos : Nat} {bytes : List UInt8} {fault : CodecFault}
    (failed : decodeUtf8 pos bytes = .error fault) : (Fault.codec fault).isAnnounced = true := by
  have consFails : ∀ {c : Char} {rest : Decoded}, Decoded.cons c rest = .error fault →
      rest = .error fault := by
    intro c rest failed
    cases rest with
    | error fault => exact failed
    | ok chars => cases failed
  -- Reading ends well, ends with a fault of its own, or goes on behind a character.
  fun_induction decodeUtf8 pos bytes with
  | case1 => cases failed
  | _ =>
      first
      | cases failed; rfl
      | rename_i ih; exact ih (consFails failed)

/-- A text that cannot be read in UTF-8 is announced. -/
theorem Disk.yields_readText_utf8 (disk : Disk) (path : String) :
    Yields (fun fault => fault.isAnnounced = true) (fun _ => True) (disk.readText "utf-8" path) := by
  have isUtf8 : Text.Encoding.find? "utf-8" = .ok .utf8 := rfl
  unfold readText
  split
  · rfl
  · split
    · rfl
    · split
      · rfl
      · rename_i bytes _
        rw [isUtf8]
        simp only
        cases decoded : Text.Encoding.utf8.decode bytes with
        | error fault => exact Text.isAnnounced_of_decodeUtf8 decoded
        | ok chars => exact True.intro

/-! ### Context files -/

/-- A context file has no value, and nobody announces that. -/
inductive BreaksContext [Host] (disk : Disk) (path : String) (fault : Fault) : Prop
  /-- A value of a YAML document cannot be made. -/
  | value (text : String) (isYaml : isYamlFile (.ofString path) = true)
      (read : disk.readText "utf-8" (NormalPath.ofString path).text = .ok text)
      (fails : Yaml.readYaml text.toList = .error (.fault fault)) : BreaksContext disk path fault
  /-- The document is nested deeper than the host can follow. -/
  | depth (text : String) (read : disk.readText "utf-8" (NormalPath.ofString path).text = .ok text)
      (sinks : Host.sinks text.toList = true) (isDepth : fault = .arithmetic .depthTooLarge) :
      BreaksContext disk path fault

/-- What is announced, or keeps a context file from having a value. -/
def AnnouncedOrBreaks [Host] (disk : Disk) (path : String) (fault : Fault) : Prop :=
  fault.isAnnounced = true ∨ BreaksContext disk path fault

/-- Why a document has no value is announced, or the document breaks. -/
theorem yields_followedValue [Host] {disk : Disk} {path text : String}
    (read : disk.readText "utf-8" (NormalPath.ofString path).text = .ok text) :
    Yields (AnnouncedOrBreaks disk path) (fun _ => True)
      (followedValue (.ofString path) text.toList) := by
  unfold followedValue
  split
  · rename_i sinks
    exact Or.inr (.depth text read sinks rfl)
  · unfold documentValue
    split
    · rename_i isYaml
      unfold yamlValue
      split
      · exact True.intro
      · exact True.intro
      · exact Or.inl rfl
      · rename_i fails
        exact Or.inr (.value text isYaml read fails)
    · unfold Json.readDocument
      split
      · exact True.intro
      · rename_i stop _
        cases stop with
        | problem what left => exact Or.inl rfl
        | tooLong digits => exact Or.inl rfl

/-- Why a context file cannot be loaded is announced, or the document in it breaks. -/
theorem yields_loadContext [Host] (disk : Disk) (path : String) :
    Yields (AnnouncedOrBreaks disk path) (fun _ => True) (loadContext disk path) := by
  unfold loadContext
  dsimp only
  cases read : disk.readText "utf-8" (NormalPath.ofString path).text with
  | error fault =>
      have announced := disk.yields_readText_utf8 (NormalPath.ofString path).text
      rw [read] at announced
      exact Or.inl announced
  | ok text =>
      apply (yields_followedValue read).bind
      intro v _
      unfold mappingOf
      split
      · exact True.intro
      · exact Or.inl rfl

/-! ### Assignments -/

/-- An assignment that is none is malformed. -/
theorem yields_assign (context : Entries) (item : String) :
    Yields Fault.IsMalformed (fun _ => True) (assign context (.str item)) := by
  have read : Yields Fault.IsMalformed (fun _ => True) (assignmentOf item) := by
    unfold assignmentOf
    split
    · exact .value _
    · split
      · exact .value _
      · exact True.intro
  exact read.map (fun _ _ => True.intro)

theorem yields_readAssignments (items : List String) :
    Yields Fault.IsMalformed (fun _ => True) (readAssignments (items.map .str)) := by
  have fold : ∀ context : Entries, Yields Fault.IsMalformed (fun _ => True)
      ((items.map Value.str).foldlM assign context) := by
    induction items with
    | nil => exact fun _ => True.intro
    | cons item rest ih =>
        intro context
        rw [List.map_cons, List.foldlM_cons]
        apply (yields_assign context item).bind
        intro context' _
        exact ih context'
  exact fold []

end LayeredFiles
