import LayeredFiles.Proofs.Disk.Writing
/-
Module: LayeredFiles.Proofs.Disk.Rewriting
Layer: Proofs
Purpose: writing what is already there. A path that leads to a file goes through folders only, so the
  folders above the file are found and none is made; and a file that gets the bytes that it holds leaves
  every place as it was.
Main exports: Disk.Same, Disk.EndsInFolder, Disk.isFolder_of_stat, Disk.makeFolders_of_isFolder,
  Disk.HoldsText, Disk.holdsText_writeText, Disk.writeText_again
-/

namespace LayeredFiles.Disk

/-! ### Disks that cannot be told apart -/

/-- Every place holds the same, and paths start from the same folder. -/
structure Same (disk disk' : Disk) : Prop where
  here : disk'.here = disk.here
  find? : disk'.find? = disk.find?

namespace Same

variable {a b c : Disk}

theorem refl (disk : Disk) : Same disk disk := ⟨rfl, rfl⟩

theorem trans (ab : Same a b) (bc : Same b c) : Same a c :=
  ⟨bc.here.trans ab.here, bc.find?.trans ab.find?⟩

theorem grows (same : Same a b) : Grows a b := by
  refine ⟨same.here, ?_⟩
  intro place isFolder
  rw [same.find?]
  exact isFolder

theorem contentAt (same : Same a b) : b.contentAt = a.contentAt := by
  funext place
  simp only [Disk.contentAt, same.find?]

/-- A path leads to a file with the same bytes. -/
theorem readBytes (same : Same a b) {path : String} {bytes : List UInt8}
    (read : a.readBytes path = .ok bytes) : b.readBytes path = .ok bytes := by
  apply same.grows.readBytes read
  rw [same.contentAt]
  exact contentAt_of_readBytes read

end Same

/-- A file that is emptied and gets back the bytes that it holds is as it was. -/
theorem same_put_put {disk : Disk} {place : Place} {bytes : List UInt8}
    (holds : disk.find? place = some (.file bytes)) (below : place ≠ []) :
    Same disk ((disk.put place (.file [])).put place (.file bytes)) := by
  refine ⟨rfl, ?_⟩
  funext other
  by_cases isPlace : other = place
  · rw [isPlace, find?_put_self _ _ _ below, holds]
  · rw [find?_put_of_ne _ _ isPlace, find?_put_of_ne _ _ isPlace]

/-! ### Paths to folders -/

/-- A walk has ended in a folder. -/
def EndsInFolder (disk : Disk) : DiskResult Spot → Prop
  | .ok (.folder _) => True
  | .ok (.entry folder name _) => disk.find? (folder ++ [name]) = some .folder
  | .error _ => False

section Walks

variable {disk : Disk}

/-- A walk ends in a folder if its names lead to one, whether a slash is behind them or not. -/
theorem endsInFolder_walkFrom_iff {names : List (List Char)} {start : Place} {isOpen : Bool} :
    disk.EndsInFolder (disk.walkFrom start isOpen names) ↔ ∃ top, Passes disk start names top := by
  constructor
  · intro ends
    rcases List.eq_nil_or_concat names with rfl | ⟨front, name, rfl⟩
    · exact ⟨start, .done start⟩
    · rw [List.concat_eq_append] at ends ⊢
      cases walked : disk.walkFrom start isOpen (front ++ [name]) with
      | error problem =>
          rw [walked] at ends
          cases ends
      | ok spot =>
          obtain ⟨top, passes, walkedLast⟩ := exists_passes_of_walkFrom (List.cons_ne_nil _ _) walked
          rw [walked] at ends
          obtain ⟨rfl, -⟩ | ⟨rfl, -⟩ | ⟨isName, rfl⟩ := cases_of_walkFrom_singleton walkedLast
          · exact ⟨_, passes.append (.stay (.done _))⟩
          · exact ⟨_, passes.append (.back (.done _))⟩
          · exact ⟨_, passes.append (.enter isName ends (.done _))⟩
  · rintro ⟨top, passes⟩
    obtain walked | ⟨folder, last, rfl, isFolder, walked⟩ := passes.walkFrom isOpen
    · rw [walked]
      trivial
    · rw [walked]
      exact isFolder

/-- A walk that goes on behind some names goes through folders. -/
theorem endsInFolder_of_walkFrom_append {front rest : List (List Char)} {start : Place} {isOpen : Bool}
    {spot : Spot} (more : rest ≠ [])
    (walked : disk.walkFrom start isOpen (front ++ rest) = .ok spot) (isOpen' : Bool) :
    disk.EndsInFolder (disk.walkFrom start isOpen' front) := by
  obtain ⟨top, passes, -⟩ := exists_passes_of_walkFrom more walked
  exact endsInFolder_walkFrom_iff.2 ⟨top, passes⟩

/-- The front of a walk to a folder ends in a folder. -/
theorem endsInFolder_of_isFront {front names : List (List Char)} {start : Place} {isOpen : Bool}
    (ends : disk.EndsInFolder (disk.walkFrom start isOpen names)) (isFront : front <+: names)
    (isOpen' : Bool) : disk.EndsInFolder (disk.walkFrom start isOpen' front) := by
  obtain ⟨rest, rfl⟩ := isFront
  obtain ⟨top, passes⟩ := endsInFolder_walkFrom_iff.1 ends
  exact endsInFolder_walkFrom_iff.2 passes.exists_front

/-- A path that ends in a folder is that of a folder. -/
theorem stat_of_endsInFolder {path : String} (ends : disk.EndsInFolder (disk.walk path)) :
    ∃ place, disk.stat path = .ok (place, .folder) := by
  unfold stat
  cases walked : disk.walk path with
  | error problem =>
      rw [walked] at ends
      cases ends
  | ok spot =>
      rw [walked] at ends
      cases spot with
      | folder place => exact ⟨place, rfl⟩
      | entry folder name isOpen =>
          have isFolder : disk.find? (folder ++ [name]) = some .folder := ends
          exact ⟨folder ++ [name], by simp only [isFolder]⟩

theorem endsInFolder_of_stat {path : String} {place : Place}
    (found : disk.stat path = .ok (place, .folder)) : disk.EndsInFolder (disk.walk path) := by
  unfold stat at found
  split at found
  · cases found
  · rename_i walked
    rw [walked]
    trivial
  · rename_i walked
    rw [walked]
    simp only at found
    split at found
    · cases found
    · rename_i isFolder
      exact isFolder
    · split at found
      · cases found
      · cases found

/-- The front of a path that leads somewhere is walked like the path. -/
theorem walk_of_isFront {path : String} {spot : Spot} (walked : disk.walk path = .ok spot)
    {front : List Char} (isFront : front <+: path.toList) (nonempty : front ≠ []) :
    disk.walk (String.ofList front) =
      disk.walkFrom (disk.startOf path) (front.getLast? = some '/') (namesOf front) := by
  have start := startOf_of_isFront disk isFront nonempty
  obtain ⟨rest, whole⟩ := isFront
  have isPath : path = String.ofList front ++ String.ofList rest := by
    rw [← String.ofList_append, whole, String.ofList_toList]
  have size : (String.ofList front).utf8ByteSize ≤ path.utf8ByteSize := by
    rw [isPath, String.utf8ByteSize_append]
    exact Nat.le_add_right _ _
  have fits : ¬pathLimit ≤ path.utf8ByteSize := by
    intro tooLong
    simp only [walk, if_pos tooLong] at walked
    split at walked
    · cases walked
    · cases walked
  have fits' : ¬pathLimit ≤ (String.ofList front).utf8ByteSize := by omega
  rw [← start]
  simp only [walk, startOf, namesOf, String.toList_ofList, if_neg nonempty, if_neg fits']

end Walks

/-! ### Folders that are there -/

theorem contains_of_isFront {front s : List Char} {c : Char} (isFront : front <+: s)
    (free : s.contains c = false) : front.contains c = false := by
  rw [List.contains_eq_mem, decide_eq_false_iff_not] at free ⊢
  exact fun mem => free (isFront.subset mem)

theorem isFolder_of_endsInFolder {disk : Disk} {path : String}
    (free : path.toList.contains '\x00' = false) (ends : disk.EndsInFolder (disk.walk path)) :
    disk.isFolder path = true := by
  obtain ⟨place, found⟩ := stat_of_endsInFolder ends
  rw [isFolder, free, found]
  rfl

theorem of_isFolder {disk : Disk} {path : String} (isFolder : disk.isFolder path = true) :
    path.toList.contains '\x00' = false ∧ disk.EndsInFolder (disk.walk path) := by
  rw [Disk.isFolder, Bool.and_eq_true, Bool.not_eq_true'] at isFolder
  refine ⟨isFolder.1, ?_⟩
  cases found : disk.stat path with
  | error problem =>
      rw [found] at isFolder
      cases isFolder.2
  | ok result =>
      obtain ⟨place, node⟩ := result
      cases node with
      | folder => exact endsInFolder_of_stat found
      | file bytes =>
          rw [found] at isFolder
          cases isFolder.2

/-- The folder of a path to a file is there. -/
theorem isFolder_of_stat {disk : Disk} {path : String} {place : Place} {bytes : List UInt8}
    (free : path.toList.contains '\x00' = false) (found : disk.stat path = .ok (place, .file bytes))
    (inFolder : Path.folder path ≠ "") : disk.isFolder (Path.folder path) = true := by
  obtain ⟨folder, name, walked, -⟩ := walk_of_stat found
  have named := fileNameChars_ne_nil_of_walk walked
  have isFront := isFront_folderChars path.toList
  have nonempty : Path.folderChars path.toList ≠ [] := by
    intro none
    exact inFolder (congrArg String.ofList none)
  have names : namesOf path.toList =
      namesOf (Path.folderChars path.toList) ++ [Path.fileNameChars path.toList] := by
    rw [namesOf_folderChars, ← namesOf_append (Path.isHead_headChars _)
      (Path.slash_notMem_fileNameChars _) named, Path.headChars_append_fileNameChars]
  apply isFolder_of_endsInFolder
  · rw [Path.folder, String.toList_ofList]
    exact contains_of_isFront isFront free
  · rw [Path.folder, walk_of_isFront walked isFront nonempty]
    have walkedFrom := (walkFrom_of_walk walked).2
    rw [names] at walkedFrom
    exact endsInFolder_of_walkFrom_append (by simp) walkedFrom _

/-- A folder that is there is made by doing nothing. -/
theorem makeLast_of_isFolder {disk : Disk} {path : String} (isFolder : disk.isFolder path = true) :
    disk.makeLast path = (disk, .ok ()) := by
  obtain ⟨free, ends⟩ := of_isFolder isFolder
  obtain ⟨problem, refused⟩ : ∃ problem, disk.makeFolder path = .error problem := by
    unfold makeFolder
    cases walked : disk.walk path with
    | error problem => exact ⟨problem, rfl⟩
    | ok spot =>
        rw [walked] at ends
        cases spot with
        | folder place => exact ⟨_, rfl⟩
        | entry folder name isOpen =>
            have there : disk.find? (folder ++ [name]) = some .folder := ends
            simp only [there]
            exact ⟨_, rfl⟩
  simp only [makeLast, free, refused, isFolder]
  rfl

/-- The folders above a folder that is there are there. -/
theorem pathExists_lastName {disk : Disk} {path : String} (isFolder : disk.isFolder path = true)
    (nonempty : (lastName path.toList).1 ≠ []) :
    disk.pathExists (String.ofList (lastName path.toList).1) = true := by
  obtain ⟨free, ends⟩ := of_isFolder isFolder
  obtain ⟨isFront, names⟩ := isFront_lastName path.toList
  cases walked : disk.walk path with
  | error problem =>
      rw [walked] at ends
      cases ends
  | ok spot =>
      have walkedFrom := (walkFrom_of_walk walked).2
      rw [walked, ← walkedFrom] at ends
      have above := endsInFolder_of_isFront ends names
        ((lastName path.toList).1.getLast? = some '/')
      rw [← walk_of_isFront walked isFront nonempty] at above
      obtain ⟨place, found⟩ := stat_of_endsInFolder above
      rw [pathExists, found, String.toList_ofList, contains_of_isFront isFront free]
      rfl

theorem makeFolders_of_isFolder {disk : Disk} {path : String} (isFolder : disk.isFolder path = true) :
    disk.makeFolders path = (disk, .ok ()) := by
  unfold makeFolders
  cases path.length with
  | zero => exact makeLast_of_isFolder isFolder
  | succ fuel =>
      simp only [makeFoldersUpTo]
      by_cases nonempty : (lastName path.toList).1 = []
      · simp only [nonempty, ne_eq, not_true, decide_false, Bool.false_and, Bool.false_eq_true,
          if_false]
        exact makeLast_of_isFolder isFolder
      · simp only [pathExists_lastName isFolder nonempty, Bool.not_true, Bool.and_false,
          Bool.false_eq_true, if_false]
        exact makeLast_of_isFolder isFolder

/-! ### Writing again -/

/-- A file whose folder is there gets back the bytes that it holds. -/
theorem writeFile_again {disk : Disk} {encoding path : String} {content : Value} {place : Place}
    {bytes : List UInt8} (named : encoding.toList.contains '\x00' = false)
    (free : path.toList.contains '\x00' = false) (found : disk.stat path = .ok (place, .file bytes))
    (encoded : bytesToWrite encoding content = .ok bytes) :
    (disk.writeFile encoding path content).1 = .ok () ∧
      Same disk (disk.writeFile encoding path content).2 := by
  obtain ⟨folder, name, -, rfl, holds⟩ := walk_of_stat found
  have cleared : disk.clearFile path =
      .ok (folder ++ [name], disk.put (folder ++ [name]) (.file [])) := by
    rw [clearFile, free, placeForFile_of_stat found]
    rfl
  have wrote : disk.writeFile encoding path content = (.ok (),
      (disk.put (folder ++ [name]) (.file [])).put (folder ++ [name]) (.file bytes)) := by
    rw [writeFile, named, cleared, encoded]
    rfl
  rw [wrote]
  exact ⟨rfl, same_put_put holds (by simp)⟩

/-- A path that can be written to leads to a file with the bytes of a text. -/
structure HoldsText (disk : Disk) (encoding path : String) (content : Value) : Prop where
  named : encoding.toList.contains '\x00' = false
  free : path.toList.contains '\x00' = false
  read : ∃ bytes, bytesToWrite encoding content = .ok bytes ∧ disk.readBytes path = .ok bytes

/-- What was written to a path is held there. -/
theorem holdsText_writeText {disk : Disk} {encoding path : String} {content : Value}
    (written : (disk.writeText encoding path content).1 = .ok ()) :
    (disk.writeText encoding path content).2.HoldsText encoding path content := by
  have usable : encoding.toList.contains '\x00' = false ∧ path.toList.contains '\x00' = false := by
    obtain ⟨prepared, -, ⟨fault, failed⟩ | wrote⟩ := writeText_cases disk encoding path content
    · rw [failed] at written
      cases written
    · rw [wrote, writeFile] at written
      split at written
      · cases written
      · rename_i named
        refine ⟨Bool.eq_false_iff.2 named, ?_⟩
        by_cases free : path.toList.contains '\x00' = true
        · rw [clearFile, if_pos free] at written
          cases written
        · exact Bool.eq_false_iff.2 free
  exact ⟨usable.1, usable.2, readBytes_writeText written⟩

namespace HoldsText

variable {disk disk' : Disk} {encoding path : String} {content : Value}

/-- A text is held as long as the disk grows and the file keeps the bytes of the text. -/
theorem of_grows (holds : disk.HoldsText encoding path content) (grows : Grows disk disk')
    (kept : disk'.contentAt (disk'.fileAt path) = (bytesToWrite encoding content).toOption) :
    disk'.HoldsText encoding path content := by
  obtain ⟨bytes, encoded, read⟩ := holds.read
  rw [encoded, fileAt_of_here grows.here] at kept
  exact ⟨holds.named, holds.free, bytes, encoded, grows.readBytes read kept⟩

theorem of_same (holds : disk.HoldsText encoding path content) (same : Same disk disk') :
    disk'.HoldsText encoding path content := by
  obtain ⟨bytes, encoded, read⟩ := holds.read
  exact ⟨holds.named, holds.free, bytes, encoded, same.readBytes read⟩

end HoldsText

/-- Writing to a path the text that it holds changes nothing. -/
theorem writeText_again {disk : Disk} {encoding path : String} {content : Value}
    (holds : disk.HoldsText encoding path content) :
    (disk.writeText encoding path content).1 = .ok () ∧
      Same disk (disk.writeText encoding path content).2 := by
  obtain ⟨bytes, encoded, read⟩ := holds.read
  obtain ⟨place, found⟩ := exists_stat_of_readBytes read
  have again := writeFile_again holds.named holds.free found encoded
  unfold writeText
  split
  · exact again
  · rename_i inFolder
    rw [makeFolders_of_isFolder (isFolder_of_stat holds.free found inFolder)]
    exact again

end LayeredFiles.Disk
