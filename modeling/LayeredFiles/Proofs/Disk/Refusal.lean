import LayeredFiles.Proofs.Disk.Writing
import LayeredFiles.Proofs.Generator.Shelf
/-
Module: LayeredFiles.Proofs.Disk.Refusal
Layer: Proofs
Purpose: what a failed write leaves. A write that is refused, by the disk or by a guard in front of it,
  spares all files: they are as they were, and a path that led nowhere still leads nowhere if it goes down
  to the name of a file. A write whose content has no bytes leaves an empty file behind, for the file is
  emptied first. The same holds of a stage of a chain and of the template of a generator.
Main exports: Disk.IsFilePath, Disk.Spares, Disk.Empties, Disk.AfterFailure, World.guarded,
  Generator.Guarded, Generator.afterFailure_guarded
-/

namespace LayeredFiles

namespace Disk

/-! ### Names of files -/

/-- The path goes down folders to a name that can be that of a file. -/
def IsFilePath (path : String) : Prop :=
  Path.fileName path ≠ "" ∧ Path.fileName path ≠ "." ∧ ['.', '.'] ∉ namesOf path.toList

instance (path : String) : Decidable (IsFilePath path) := inferInstanceAs (Decidable (_ ∧ _))

/-- A walk whose last name is no dots does not end at a folder. -/
theorem entry_of_walkFrom {disk : Disk} {front : List (List Char)} {name : List Char}
    (notDot : name ≠ ['.']) (notDots : name ≠ ['.', '.']) {start : Place} {isOpen : Bool} {spot : Spot}
    (walked : disk.walkFrom start isOpen (front ++ [name]) = .ok spot) :
    ∃ folder last, spot = .entry folder last isOpen := by
  obtain ⟨top, -, walkedLast⟩ := exists_passes_of_walkFrom (List.cons_ne_nil _ _) walked
  obtain ⟨dot, -⟩ | ⟨dots, -⟩ | ⟨-, rfl⟩ := cases_of_walkFrom_singleton walkedLast
  · exact absurd dot notDot
  · exact absurd dots notDots
  · exact ⟨_, _, rfl⟩

namespace IsFilePath

variable {path : String}

theorem namesOf_eq (isFilePath : IsFilePath path) :
    namesOf path.toList =
      namesOf (Path.headChars path.toList) ++ [Path.fileNameChars path.toList] := by
  have nonempty : Path.fileNameChars path.toList ≠ [] := by
    intro none
    exact isFilePath.1 (by rw [Path.fileName, none, String.ofList_nil])
  have whole := Path.headChars_append_fileNameChars path.toList
  rw [← namesOf_append (Path.isHead_headChars _) (Path.slash_notMem_fileNameChars _) nonempty, whole]

/-- It leads to a name in a folder. -/
theorem entry_of_walk (isFilePath : IsFilePath path) {disk : Disk} {spot : Spot}
    (walked : disk.walk path = .ok spot) :
    ∃ folder last isOpen, spot = .entry folder last isOpen ∧
      folder ++ [last] = disk.fileAt path := by
  obtain ⟨-, walked⟩ := walkFrom_of_walk walked
  have notDot : Path.fileNameChars path.toList ≠ ['.'] := by
    intro dot
    exact isFilePath.2.1 (by rw [Path.fileName, dot])
  have notDots : Path.fileNameChars path.toList ≠ ['.', '.'] := by
    intro dots
    exact isFilePath.2.2 (by rw [isFilePath.namesOf_eq, dots]; simp)
  rw [isFilePath.namesOf_eq] at walked
  obtain ⟨folder, last, rfl⟩ := entry_of_walkFrom notDot notDots walked
  exact ⟨folder, last, _, rfl, (descend_of_walkFrom walked).2⟩

/-- The places above its folder are other ones. -/
theorem not_above (isFilePath : IsFilePath path) (disk : Disk) (hasFolder : Path.folder path ≠ "") :
    ¬Above disk (Path.folder path) (disk.fileAt path) := by
  rintro ⟨front, isFront, same⟩
  rw [Path.folder, String.toList_ofList, namesOf_folderChars] at isFront
  obtain ⟨rest, names⟩ := isFront
  have nonempty : Path.folderChars path.toList ≠ [] := by
    intro none
    exact hasFolder (by rw [Path.folder, none, String.ofList_nil])
  have down : ['.', '.'] ∉ rest := by
    intro mem
    refine isFilePath.2.2 ?_
    rw [isFilePath.namesOf_eq, ← names]
    simp [mem]
  have further := prefix_descend down (descend (disk.startOf path) front)
  rw [Path.folder, startOf_of_isFront disk (isFront_folderChars _) nonempty] at same
  rw [← descend_append, names, ← same] at further
  have shorter := further.length_le
  rw [fileAt, List.length_append, List.length_singleton] at shorter
  omega

/-- If folders came up above a path that led nowhere, it still leads nowhere. -/
theorem stat_of_adds (isFilePath : IsFilePath path) {before after : Disk} (isTree : before.IsTree)
    (adds : Adds (fun place => Path.folder path ≠ "" ∧ Above before (Path.folder path) place)
      before after)
    {found : Place × Node} (now : after.stat path = .ok found) : before.stat path = .ok found := by
  have same : after.find? (before.fileAt path) = before.find? (before.fileAt path) := by
    apply adds.find?_of_not
    rintro ⟨hasFolder, above⟩
    exact isFilePath.not_above before hasFolder above
  cases walked : after.walk path with
  | error problem =>
      rw [stat, walked] at now
      cases now
  | ok spot =>
      obtain ⟨folder, last, isOpen, rfl, place⟩ := isFilePath.entry_of_walk walked
      rw [fileAt_of_here adds.grows.here] at place
      rw [← place] at same
      simp only [stat, walked, same] at now
      cases holds : before.find? (folder ++ [last]) with
      | none =>
          rw [holds] at now
          cases now
      | some node =>
          have isFolder := isTree.find?_dropLast holds
          rw [List.dropLast_concat] at isFolder
          have earlier : before.walk path = .ok (.entry folder last isOpen) := by
            refine walk_of_walk walked (fun walked => ?_)
            rw [startOf_of_here adds.grows.here] at walked
            exact isTree.walkFrom_of_folder isFilePath.2.2 walked isFolder
          simp only [stat, earlier]
          exact now

end IsFilePath

/-! ### After a failure -/

/-- All files are as they were, and a path to a file that was not there is still not there. -/
structure Spares (path : String) (before after : Disk) : Prop where
  contents : after.contentAt = before.contentAt
  bytes : ∀ other bytes, before.readBytes other = .ok bytes → after.readBytes other = .ok bytes
  absent : IsFilePath path → before.IsTree → before.pathExists path = false →
    after.pathExists path = false

/-- The file of the path is there and empty, and all others are as they were. -/
structure Empties (path : String) (before after : Disk) : Prop where
  target : after.readBytes path = .ok [] ∧ after.contentAt (before.fileAt path) = some []
  others : ∀ place, place ≠ before.fileAt path → after.contentAt place = before.contentAt place

/-- A refusal spares all files; any other fault comes up behind a file that was emptied. -/
structure AfterFailure (path : String) (fault : Fault) (before after : Disk) : Prop where
  spares : isRefusal fault = true → Spares path before after
  empties : isRefusal fault = false → Empties path before after

theorem Spares.refl (path : String) (disk : Disk) : Spares path disk disk where
  contents := rfl
  bytes _ _ same := same
  absent _ _ absent := absent

/-- Folders that come up above a path spare all files. -/
theorem spares_of_adds {path : String} {before after : Disk}
    (adds : Adds (fun place => Path.folder path ≠ "" ∧ Above before (Path.folder path) place)
      before after) : Spares path before after where
  contents := adds.sameFiles.contentAt
  bytes other bytes found := by
    refine adds.grows.readBytes found ?_
    rw [adds.sameFiles.contentAt]
    exact contentAt_of_readBytes found
  absent isFilePath isTree absent := by
    cases now : after.stat path with
    | error problem => simp [pathExists, now, Except.toBool]
    | ok found =>
        have earlier := isFilePath.stat_of_adds isTree adds now
        simp only [pathExists, earlier] at absent
        simp only [pathExists, now]
        exact absent

/-- A file that was emptied is read as empty, and no other file was touched. -/
theorem empties_of_put {path : String} {before prepared : Disk} {place : Place}
    (same : SameFiles before prepared) (isPlace : prepared.placeForFile path = .ok place) :
    Empties path before (prepared.put place (.file [])) where
  target := by
    have isFile := placeForFile_eq_fileAt isPlace
    rw [same.fileAt] at isFile
    subst isFile
    exact ⟨readBytes_put isPlace (.refl prepared) [],
      contentAt_put_self prepared (.file []) (fileAt_ne_nil before path)⟩
  others other differs := by
    have isFile := placeForFile_eq_fileAt isPlace
    rw [same.fileAt] at isFile
    rw [isFile, contentAt_put_of_ne prepared _ differs, same.contentAt]

/-- A write that fails is a refusal that spares all files, or it has emptied its file. -/
theorem afterFailure_writeText {disk : Disk} {encoding path : String} {content : Value}
    {fault : Fault} (failed : (disk.writeText encoding path content).1 = .error fault) :
    AfterFailure path fault disk (disk.writeText encoding path content).2 := by
  obtain ⟨prepared, adds, wrote⟩ := exists_prepared disk encoding path content
  generalize disk.writeText encoding path content = done at failed wrote
  obtain ⟨answer, after⟩ := done
  obtain rfl : answer = .error fault := failed
  cases wrote with
  | refused _ refusal =>
      refine ⟨fun _ => spares_of_adds adds, fun other => ?_⟩
      rw [refusal] at other
      cases other
  | emptied _ place isPlace unwritable =>
      have noRefusal := isRefusal_of_bytesToWrite unwritable
      refine ⟨fun refusal => ?_, fun _ => empties_of_put adds.sameFiles isPlace⟩
      rw [noRefusal] at refusal
      cases refusal

end Disk

/-! ### Generators whose writes may be refused -/

/-- A world in which writes to some paths are refused, each with a reason. -/
def World.guarded (refusal : String → Option String) : Site World :=
  { World.site with
    write := fun encoding path content w =>
      match refusal path with
      | some reason => (.error (.disk (.refused reason)), w)
      | none => w.write encoding path content }

/-- A home with a file in it. -/
def homeWithFile : Disk :=
  ⟨["home"], [(["home"], .folder), (["home", "a"], .file [0x6F, 0x6C, 0x64])]⟩

/-- The home's file is locked, and every template gives a letter that has no byte in the encoding. -/
def Generator.locked : Generator World :=
  { Generator.standard { Settings.default (.ofChars "/templates".toList) with encoding := "ascii" }
      (World.guarded (fun path => if path = "a" then some "Permission denied" else none)) with
    render := fun _ _ w => (.ok (.str "é"), w) }

namespace Generator

/-- The generator works on a guarded world, and so does its shelf, in an encoding of its own. -/
structure Guarded (g : Generator World) (refusal : String → Option String) : Prop where
  site : g.site = World.guarded refusal
  shelf : ∃ encoding, g.shelf.write = (World.guarded refusal).write encoding

open Disk (AfterFailure)

variable {g : Generator World} {refusal : String → Option String}

theorem afterFailure_guarded {encoding path : String} {content : Value} {w w' : World}
    {fault : Fault}
    (failed : (World.guarded refusal).write encoding path content w = (.error fault, w')) :
    AfterFailure path fault w.disk w'.disk := by
  simp only [World.guarded] at failed
  split at failed
  · cases failed
    exact ⟨fun _ => .refl path w.disk, fun other => by cases other⟩
  · simp only [World.write, Prod.mk.injEq] at failed
    obtain ⟨failed, rfl⟩ := failed
    exact Disk.afterFailure_writeText failed

/-- The fault of a rendering is none of writing. -/
theorem renderFault_ne_writing {stage : Stage} {cause cause' : Fault} {index : Nat} {template : Value}
    {path : String} : renderFault stage cause ≠ .stage .writing index template path cause' := by
  unfold renderFault
  split <;> simp

/-- A stage whose fault is one of writing has rendered a text and failed to write it to its path. -/
theorem write_of_runStage {can : Capabilities World} {context : Entries} {stage : Stage}
    {content template : Value} {w w' : World} {index : Nat} {path : String} {cause : Fault}
    (failed : runStage can context stage content w =
      (.error (.stage .writing index template path cause), w')) :
    path = stage.path ∧ ∃ text,
      can.write stage.path text
        (can.render stage.template (stageContext context content stage.template) w).2 =
          (.error cause, w') := by
  unfold runStage at failed
  cases rendered : can.render stage.template (stageContext context content stage.template) w with
  | mk answer w₁ =>
      rw [rendered] at failed
      cases answer with
      | error renderCause =>
          rw [Prod.mk.injEq, Except.error.injEq] at failed
          exact absurd failed.1 renderFault_ne_writing
      | ok text =>
          simp only at failed
          cases wrote : can.write stage.path text w₁ with
          | mk answer w₂ =>
              rw [wrote] at failed
              cases answer with
              | error writeCause =>
                  cases failed
                  exact ⟨rfl, text, wrote⟩
              | ok => cases failed

/-- A template that could not be applied was not rendered, or its text could not be written. -/
theorem write_of_apply {shelf : Shelf World} {disk : Disk} {name destination context : Value}
    {w w' : World} {cause : Fault}
    (failed : shelf.apply disk name destination context w = (.error (.notApplied cause), w')) :
    (shelf.text disk name context = .error cause ∧ w' = w) ∨
      ∃ text, shelf.write destination.display (.str text) w = (.error cause, w') := by
  have isEnd := shelf.applied_apply disk name destination context w
  obtain ⟨-, unmade | ⟨text, -, unwritten⟩⟩ := (isEnd.notApplied_iff cause w').1 failed
  · exact Or.inl unmade
  · exact Or.inr ⟨text, unwritten⟩

/-- A write that fails leaves all files as they were if it is refused, and else an empty file at its path.
    This holds of every write of the site, of a stage of a chain whose write fails, seen from the disk that
    its rendering left, and of a generator whose template could not be applied because of its write. -/
theorem files_after_failed_write [Host] (guarded : g.Guarded refusal) :
    (∀ encoding path content w w' fault, g.site.write encoding path content w = (.error fault, w') →
      AfterFailure path fault w.disk w'.disk) ∧
    (∀ context stage content w w' index template path cause,
      runStage g.chains context stage content w =
        (.error (.stage .writing index template path cause), w') →
      path = stage.path ∧ AfterFailure path cause
        (g.render stage.template (stageContext context content stage.template) w).2.disk w'.disk) ∧
    ∀ name destination context w w' cause,
      g.shelf.apply w.disk name destination context w = (.error (.notApplied cause), w') →
      (g.shelf.text w.disk name context = .error cause ∧ w' = w) ∨
        AfterFailure destination.display cause w.disk w'.disk := by
  refine ⟨?_, ?_, ?_⟩
  · intro encoding path content w w' fault failed
    rw [guarded.site] at failed
    exact afterFailure_guarded failed
  · intro context stage content w w' index template path cause failed
    obtain ⟨rfl, text, failed⟩ := write_of_runStage failed
    refine ⟨rfl, ?_⟩
    simp only [chains, Generator.write, guarded.site] at failed
    exact afterFailure_guarded failed
  · intro name destination context w w' cause failed
    rcases write_of_apply failed with unrendered | ⟨text, failed⟩
    · exact Or.inl unrendered
    · obtain ⟨encoding, shelf_write⟩ := guarded.shelf
      rw [shelf_write] at failed
      exact Or.inr (afterFailure_guarded failed)

/-- The locked file keeps its bytes; a stage that writes elsewhere leaves an empty file and all others. -/
theorem files_after_failed_write_of_locked :
    let w : World := ⟨homeWithFile, ""⟩
    (∃ fault w', locked.site.write "ascii" "a" (.str "new") w = (.error fault, w') ∧
      w'.disk.readBytes "a" = .ok [0x6F, 0x6C, 0x64]) ∧
    ∃ cause w', runStage locked.chains [] ⟨0, .str "y", "b"⟩ (.str "") w =
        (.error (.stage .writing 0 (.str "y") "b" cause), w') ∧
      w'.disk.readBytes "b" = .ok [] ∧
      w'.disk.contentAt ["home", "a"] = some [0x6F, 0x6C, 0x64] := by
  intro w
  have guarded : locked.Guarded (fun path => if path = "a" then some "Permission denied" else none) :=
    ⟨rfl, "ascii", rfl⟩
  obtain ⟨writes, stages, -⟩ := files_after_failed_write guarded
  refine ⟨⟨_, _, rfl, ?_⟩, _, _, rfl, ?_, ?_⟩
  · have spares := (writes "ascii" "a" (.str "new") w _ _ rfl).spares rfl
    exact spares.bytes "a" _ rfl
  · have empties := (stages [] ⟨0, .str "y", "b"⟩ (.str "") w _ _ _ _ _ rfl).2.empties rfl
    exact empties.target.1
  · have empties := (stages [] ⟨0, .str "y", "b"⟩ (.str "") w _ _ _ _ _ rfl).2.empties rfl
    exact empties.others ["home", "a"] (by decide)

end Generator

/-! ### Harm done -/

/-- The path leads to the same content, and if it led nowhere it still leads nowhere. -/
def Disk.Unharmed (path : String) (before after : Disk) : Prop :=
  after.contentAt (before.fileAt path) = before.contentAt (before.fileAt path) ∧
    (before.pathExists path = false → after.pathExists path = false)

/-- Not every write that fails is harmless: a character without a byte empties the file, or makes it come
    up, and a path through double dots is refused when it leads to the folder that was made for it. -/
theorem failed_write_harms :
    (∃ fault, (homeWithFile.writeText "ascii" "a" (.str "é")).1 = .error fault ∧
      ¬Disk.Unharmed "a" homeWithFile (homeWithFile.writeText "ascii" "a" (.str "é")).2) ∧
    (∃ fault, (homeWithFile.writeText "ascii" "b" (.str "é")).1 = .error fault ∧
      ¬Disk.Unharmed "b" homeWithFile (homeWithFile.writeText "ascii" "b" (.str "é")).2) ∧
    ∃ fault, Disk.isRefusal fault = true ∧
      (homeWithFile.writeText "utf-8" "x/../x" (.str "t")).1 = .error fault ∧
      ¬Disk.Unharmed "x/../x" homeWithFile
        (homeWithFile.writeText "utf-8" "x/../x" (.str "t")).2 := by
  refine ⟨⟨_, rfl, ?_⟩, ⟨_, rfl, ?_⟩, ⟨_, rfl, rfl, ?_⟩⟩
  · rintro ⟨same, -⟩
    exact absurd same (by decide)
  · rintro ⟨-, absent⟩
    exact absurd (absent (by decide)) (by decide)
  · rintro ⟨-, absent⟩
    exact absurd (absent (by decide)) (by decide)

end LayeredFiles
