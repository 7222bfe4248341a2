import LayeredFiles.Proofs.Disk.Growth
/-
Module: LayeredFiles.Proofs.Disk.Writing
Layer: Proofs
Purpose: all that a write of a text can do to a disk. Folders come up above its path; then it is refused, or
  it empties the file and fails because its content has no bytes, or it leaves the bytes. In each case
  folders stay folders, a tree stays a tree, and what was written is read back.
Main exports: Disk.isRefusal, Disk.FileWritten, Disk.exists_prepared, Disk.grows_writeText,
  Disk.IsTree.writeText, Disk.readBytes_writeText
-/

namespace LayeredFiles.Disk

/-! ### Why a write goes wrong -/

/-- A write goes wrong because of the disk or of a name with a NUL character, and not because its content
    has no bytes. -/
def isRefusal : Fault → Bool
  | .disk _ => true
  | .codec .nulInName => true
  | _ => false

theorem encodeEach_ne_nulInName {codec reason : String} {byte? : Char → Option UInt8} {start : Nat}
    {s : List Char} {fault : Text.CodecFault}
    (failed : Text.encodeEach codec reason byte? start s = .error fault) : fault ≠ .nulInName := by
  induction s generalizing start with
  | nil => cases failed
  | cons c rest ih =>
      simp only [Text.encodeEach] at failed
      split at failed
      · split at failed
        · cases failed
        · rename_i others
          cases failed
          exact ih others
      · cases failed
        simp

/-- A content without bytes is no refusal. -/
theorem isRefusal_of_bytesToWrite {encoding : String} {content : Value} {fault : Fault}
    (failed : bytesToWrite encoding content = .error fault) : isRefusal fault = false := by
  unfold bytesToWrite at failed
  split at failed
  · rename_i unknown
    cases failed
    simp only [Text.Encoding.find?] at unknown
    split at unknown
    · cases unknown
    · cases unknown
      split <;> rfl
  · rename_i encoding _
    split at failed
    · cases failed
      rfl
    · rename_i text _
      split at failed
      · rename_i fault unencoded
        cases failed
        have notNul : fault ≠ .nulInName := by
          cases encoding <;> first | exact encodeEach_ne_nulInName unencoded | cases unencoded
        cases fault with
        | nulInName => exact absurd rfl notNul
        | _ => rfl
      · cases failed

/-! ### What a write does -/

/-- What a write to a path has done, once the folders above it were made: it was refused; or it has
    emptied the file and failed, its content having no bytes; or it has left the bytes there. -/
inductive FileWritten (encoding path : String) (content : Value) (prepared : Disk) :
    Except Fault Unit → Disk → Prop
  | refused (fault : Fault) (refusal : isRefusal fault = true) :
      FileWritten encoding path content prepared (.error fault) prepared
  | emptied (fault : Fault) (place : Place) (isPlace : prepared.placeForFile path = .ok place)
      (unwritable : bytesToWrite encoding content = .error fault) :
      FileWritten encoding path content prepared (.error fault) (prepared.put place (.file []))
  | written (place : Place) (isPlace : prepared.placeForFile path = .ok place) (bytes : List UInt8)
      (isBytes : bytesToWrite encoding content = .ok bytes) :
      FileWritten encoding path content prepared (.ok ())
        ((prepared.put place (.file [])).put place (.file bytes))

theorem fileWritten_writeFile (disk : Disk) (encoding path : String) (content : Value) :
    FileWritten encoding path content disk (disk.writeFile encoding path content).1
      (disk.writeFile encoding path content).2 := by
  unfold writeFile
  split
  · exact .refused _ rfl
  · unfold clearFile
    by_cases nul : path.toList.contains '\x00' = true
    · rw [if_pos nul]
      exact .refused _ rfl
    · rw [if_neg nul]
      cases isPlace : disk.placeForFile path with
      | error problem => exact .refused _ rfl
      | ok place =>
          cases encoded : bytesToWrite encoding content with
          | error fault => exact .emptied fault place isPlace encoded
          | ok bytes => exact .written place isPlace bytes encoded

/-- All that a write can do: folders come up above its path, and then it does what a write to a file in
    them does. A path without a folder needs none. -/
theorem exists_prepared (disk : Disk) (encoding path : String) (content : Value) :
    ∃ prepared, Adds (fun place => Path.folder path ≠ "" ∧ Above disk (Path.folder path) place)
        disk prepared ∧
      FileWritten encoding path content prepared (disk.writeText encoding path content).1
        (disk.writeText encoding path content).2 := by
  unfold writeText
  split
  · exact ⟨disk, .refl, fileWritten_writeFile disk encoding path content⟩
  · rename_i hasFolder
    have adds := (adds_makeFolders disk (Path.folder path)).mono (fun place above =>
      (⟨hasFolder, above⟩ : Path.folder path ≠ "" ∧ Above disk (Path.folder path) place))
    split
    · rename_i made
      rw [made] at adds
      exact ⟨_, adds, .refused _ rfl⟩
    · rename_i made
      rw [made] at adds
      exact ⟨_, adds, fileWritten_writeFile _ encoding path content⟩

namespace FileWritten

variable {encoding path : String} {content : Value} {prepared after : Disk}
  {answer : Except Fault Unit}

/-- Folders stay folders. -/
theorem grows (wrote : FileWritten encoding path content prepared answer after) :
    Grows prepared after := by
  have once : ∀ {place : Place}, prepared.placeForFile path = .ok place → ∀ bytes,
      Grows prepared (prepared.put place (.file bytes)) :=
    fun isPlace bytes => .put (walk_of_placeForFile isPlace).1 (.file bytes)
  cases wrote with
  | refused fault refusal => exact .refl prepared
  | emptied fault place isPlace => exact once isPlace []
  | written place isPlace bytes =>
      obtain ⟨-, folder, name, rfl, -⟩ := walk_of_placeForFile isPlace
      have cleared : (prepared.put (folder ++ [name]) (.file [])).find? (folder ++ [name]) =
          some (.file []) := find?_put_self _ _ _ (by simp)
      exact (once isPlace []).trans (.put (by simp [cleared]) (.file bytes))

/-- The bytes that were left are read back. -/
theorem readBytes (wrote : FileWritten encoding path content prepared (.ok ()) after) :
    ∃ bytes, bytesToWrite encoding content = .ok bytes ∧ after.readBytes path = .ok bytes := by
  cases wrote with
  | written place isPlace bytes isBytes =>
      have cleared := Grows.put (walk_of_placeForFile isPlace).1 (.file [])
      exact ⟨bytes, isBytes, readBytes_put isPlace cleared bytes⟩

/-- A file in a tree leaves a tree. -/
theorem isTree (wrote : FileWritten encoding path content prepared answer after)
    (isTree : prepared.IsTree) : after.IsTree := by
  have twice : ∀ {place : Place}, prepared.placeForFile path = .ok place → ∀ bytes,
      (prepared.put place (.file [])).IsTree ∧
        ((prepared.put place (.file [])).put place (.file bytes)).IsTree := by
    intro place isPlace bytes
    obtain ⟨noFolder, folder, name, rfl, walked⟩ := walk_of_placeForFile isPlace
    have below : folder ++ [name] ≠ [] := by simp
    have inside : prepared.find? (folder ++ [name]).dropLast = some .folder := by
      rw [List.dropLast_concat]
      exact isTree.folder_of_walk walked
    have cleared : (prepared.put (folder ++ [name]) (.file [])).IsTree :=
      isTree.put below inside (Or.inr noFolder)
    have holds := find?_put_self prepared (folder ++ [name]) (.file []) below
    refine ⟨cleared, cleared.put below (cleared.find?_dropLast holds) (Or.inr ?_)⟩
    simp [holds]
  cases wrote with
  | refused fault refusal => exact isTree
  | emptied fault place isPlace => exact (twice isPlace []).1
  | written place isPlace bytes => exact (twice isPlace bytes).2

end FileWritten

/-! ### Laws of writing -/

/-- After a write folders are folders. -/
theorem grows_writeText (disk : Disk) (encoding path : String) (content : Value) :
    Grows disk (disk.writeText encoding path content).2 := by
  obtain ⟨prepared, adds, wrote⟩ := exists_prepared disk encoding path content
  exact adds.grows.trans wrote.grows

/-- A write to a tree leaves a tree. -/
theorem IsTree.writeText {disk : Disk} (isTree : disk.IsTree) (encoding path : String)
    (content : Value) : (disk.writeText encoding path content).2.IsTree := by
  obtain ⟨prepared, adds, wrote⟩ := exists_prepared disk encoding path content
  exact wrote.isTree (adds.isTree isTree)

/-- What was written to a path is read back from it. -/
theorem readBytes_writeText {disk : Disk} {encoding path : String} {content : Value}
    (written : (disk.writeText encoding path content).1 = .ok ()) :
    ∃ bytes, bytesToWrite encoding content = .ok bytes ∧
      (disk.writeText encoding path content).2.readBytes path = .ok bytes := by
  obtain ⟨prepared, -, wrote⟩ := exists_prepared disk encoding path content
  rw [written] at wrote
  exact wrote.readBytes

end LayeredFiles.Disk
