import LayeredFiles.Proofs.Disk.Tree
/-
Module: LayeredFiles.Proofs.Disk.Growth
Layer: Proofs
Purpose: a disk only grows. Folders stay folders, so a path that led somewhere leads there again, and what
  was put at the end of a path is read back from it. When folders are made, they come up at the places that
  their path names from the front, and nowhere else.
Main exports: Disk.Grows, Disk.Grows.walk, Disk.Grows.readBytes, Disk.readBytes_put, Disk.Adds,
  Disk.Above, Disk.adds_makeFolders
-/

namespace LayeredFiles.Disk

open Text (splitOn)

/-! ### Paths on a disk that has grown -/

theorem startOf_of_here {disk disk' : Disk} (same : disk'.here = disk.here) (path : String) :
    disk'.startOf path = disk.startOf path := by
  simp only [startOf, same]

/-- A path leads to the same on two disks, if its names do. -/
theorem walk_of_walk {disk disk' : Disk} {path : String} {spot : Spot}
    (walked : disk.walk path = .ok spot)
    (same : disk.walkFrom (disk.startOf path) (path.toList.getLast? = some '/')
        (namesOf path.toList) = .ok spot →
      disk'.walkFrom (disk'.startOf path) (path.toList.getLast? = some '/')
        (namesOf path.toList) = .ok spot) : disk'.walk path = .ok spot := by
  have walkedFrom := (walkFrom_of_walk walked).2
  simp only [walk] at walked ⊢
  split at walked
  · cases walked
  · rename_i nonempty
    rw [if_neg nonempty]
    split at walked
    · cases walked
    · rename_i fits
      rw [if_neg fits]
      exact same walkedFrom

/-- Folders have stayed folders, and paths start from the same one. -/
structure Grows (disk disk' : Disk) : Prop where
  here : disk'.here = disk.here
  folder : ∀ place, disk.find? place = some .folder → disk'.find? place = some .folder

namespace Grows

variable {disk disk' : Disk}

theorem refl (disk : Disk) : Grows disk disk := ⟨rfl, fun _ isFolder => isFolder⟩

theorem trans {a b c : Disk} (ab : Grows a b) (bc : Grows b c) : Grows a c :=
  ⟨bc.here.trans ab.here, fun place isFolder => bc.folder place (ab.folder place isFolder)⟩

/-- A place that is no folder may get any node. -/
theorem put {place : Place} (noFolder : disk.find? place ≠ some .folder) (node : Node) :
    Grows disk (disk.put place node) := by
  refine ⟨rfl, fun other isFolder => ?_⟩
  have differs : other ≠ place := by
    rintro rfl
    exact noFolder isFolder
  rw [find?_put_of_ne disk node differs]
  exact isFolder

theorem walkFrom (grows : Grows disk disk') {names : List (List Char)} {start : Place}
    {isOpen : Bool} {spot : Spot} (walked : disk.walkFrom start isOpen names = .ok spot) :
    disk'.walkFrom start isOpen names = .ok spot := by
  rcases List.eq_nil_or_concat names with rfl | ⟨front, name, rfl⟩
  · exact walked
  · rw [List.concat_eq_append] at walked ⊢
    obtain ⟨top, passes, walkedLast⟩ := exists_passes_of_walkFrom (List.cons_ne_nil _ _) walked
    rw [(passes.mono grows.folder).walkFrom_append (List.cons_ne_nil _ _)]
    -- What the last name alone leads to does not depend on the disk.
    obtain ⟨rfl, rfl⟩ | ⟨rfl, rfl⟩ | ⟨isName, rfl⟩ := cases_of_walkFrom_singleton walkedLast
    · rfl
    · rfl
    · exact walkFrom_singleton isName

/-- A path that led somewhere leads there again. -/
theorem walk (grows : Grows disk disk') {path : String} {spot : Spot}
    (walked : disk.walk path = .ok spot) : disk'.walk path = .ok spot := by
  refine walk_of_walk walked (fun walked => ?_)
  rw [startOf_of_here grows.here]
  exact grows.walkFrom walked

/-- A path leads to the same file, if its place still holds it. -/
theorem stat_file (grows : Grows disk disk') {path : String} {place : Place} {bytes bytes' : List UInt8}
    (found : disk.stat path = .ok (place, .file bytes))
    (holds : disk'.find? place = some (.file bytes')) :
    disk'.stat path = .ok (place, .file bytes') := by
  unfold stat at found ⊢
  split at found
  · cases found
  · cases found
  · rename_i folder name isOpen walked
    rw [grows.walk walked]
    simp only at found ⊢
    split at found
    · cases found
    · cases found
    · split at found
      · cases found
      · rename_i closed
        cases found
        rw [holds]
        simp only [closed, Bool.false_eq_true, if_false]

end Grows

/-! ### Reading back -/

/-- A path that leads to a file was walked to its name, and no slash comes behind it. -/
theorem walk_of_stat {disk : Disk} {path : String} {place : Place} {bytes : List UInt8}
    (found : disk.stat path = .ok (place, .file bytes)) :
    ∃ folder last, disk.walk path = .ok (.entry folder last false) ∧ place = folder ++ [last] ∧
      disk.find? place = some (.file bytes) := by
  unfold stat at found
  split at found
  · cases found
  · cases found
  · rename_i folder last isOpen walked
    simp only at found
    split at found
    · cases found
    · cases found
    · rename_i holds
      split at found
      · cases found
      · rename_i closed
        rw [Bool.not_eq_true] at closed
        cases found
        exact ⟨folder, last, by rw [walked, closed], rfl, holds⟩

/-- Bytes are read where a path leads to a file. -/
theorem exists_stat_of_readBytes {disk : Disk} {path : String} {bytes : List UInt8}
    (read : disk.readBytes path = .ok bytes) : ∃ place, disk.stat path = .ok (place, .file bytes) := by
  unfold readBytes at read
  split at read
  · cases read
  · cases read
  · rename_i place _ found
    cases read
    exact ⟨place, found⟩

theorem placeForFile_of_stat {disk : Disk} {path : String} {place : Place} {bytes : List UInt8}
    (found : disk.stat path = .ok (place, .file bytes)) : disk.placeForFile path = .ok place := by
  obtain ⟨folder, last, walked, rfl, holds⟩ := walk_of_stat found
  simp [placeForFile, walked, holds]

/-- A path leads to the file that it names. -/
theorem fileAt_of_stat {disk : Disk} {path : String} {place : Place} {bytes : List UInt8}
    (found : disk.stat path = .ok (place, .file bytes)) :
    place = disk.fileAt path ∧ disk.contentAt place = some bytes := by
  obtain ⟨_, _, -, -, holds⟩ := walk_of_stat found
  refine ⟨placeForFile_eq_fileAt (placeForFile_of_stat found), ?_⟩
  rw [contentAt, holds]

/-- What is read from a path is the content of its file. -/
theorem contentAt_of_readBytes {disk : Disk} {path : String} {bytes : List UInt8}
    (read : disk.readBytes path = .ok bytes) : disk.contentAt (disk.fileAt path) = some bytes := by
  obtain ⟨place, found⟩ := exists_stat_of_readBytes read
  obtain ⟨rfl, holds⟩ := fileAt_of_stat found
  exact holds

/-- A file keeps its bytes under its path, if its place does. -/
theorem Grows.readBytes {disk disk' : Disk} (grows : Grows disk disk') {path : String}
    {bytes bytes' : List UInt8} (before : disk.readBytes path = .ok bytes)
    (holds : disk'.contentAt (disk.fileAt path) = some bytes') : disk'.readBytes path = .ok bytes' := by
  obtain ⟨place, found⟩ := exists_stat_of_readBytes before
  obtain ⟨rfl, -⟩ := fileAt_of_stat found
  have isFile : disk'.find? (disk.fileAt path) = some (.file bytes') := by
    unfold contentAt at holds
    split at holds
    · rename_i isFile
      cases holds
      exact isFile
    · cases holds
  rw [Disk.readBytes, grows.stat_file found isFile]

/-- A file can be written where its path leads to a name that is no folder. -/
theorem walk_of_placeForFile {disk : Disk} {path : String} {place : Place}
    (found : disk.placeForFile path = .ok place) :
    disk.find? place ≠ some .folder ∧
      ∃ folder name, place = folder ++ [name] ∧ disk.walk path = .ok (.entry folder name false) := by
  unfold placeForFile at found
  split at found
  · cases found
  · cases found
  · rename_i folder name isOpen walked
    split at found
    · cases found
    · rename_i free
      cases found
      simp only [Bool.or_eq_true, decide_eq_true_eq, not_or, Bool.not_eq_true] at free
      exact ⟨free.2, folder, name, rfl, by rw [walked, free.1]⟩

/-- The bytes that a file gets are read back from its path, also if the disk has grown meanwhile. -/
theorem readBytes_put {disk disk' : Disk} {path : String} {place : Place}
    (found : disk.placeForFile path = .ok place) (grows : Grows disk disk') (bytes : List UInt8) :
    (disk'.put place (.file bytes)).readBytes path = .ok bytes := by
  obtain ⟨noFolder, folder, name, rfl, walked⟩ := walk_of_placeForFile found
  have grown : Grows disk (disk'.put (folder ++ [name]) (.file bytes)) := by
    refine ⟨grows.here, fun other isFolder => ?_⟩
    have differs : other ≠ folder ++ [name] := by
      rintro rfl
      exact noFolder isFolder
    rw [find?_put_of_ne disk' _ differs]
    exact grows.folder other isFolder
  have holds : (disk'.put (folder ++ [name]) (.file bytes)).find? (folder ++ [name]) =
      some (.file bytes) := find?_put_self _ _ _ (by simp)
  simp [readBytes, stat, grown.walk walked, holds]

/-! ### Folders that are made -/

/-- Folders came up where nothing was, all of them at places of one kind. On a tree they came up inside
    other folders. -/
inductive Adds (Allowed : Place → Prop) (disk : Disk) : Disk → Prop
  | refl : Adds Allowed disk disk
  | folder {disk' : Disk} {place : Place} (earlier : Adds Allowed disk disk')
      (allowed : Allowed place) (vacant : disk'.find? place = none)
      (inside : disk'.IsTree → disk'.find? place.dropLast = some .folder) :
      Adds Allowed disk (disk'.put place .folder)

namespace Adds

variable {Allowed Allowed' : Place → Prop} {a b c : Disk}

theorem mono (adds : Adds Allowed a b) (weaker : ∀ place, Allowed place → Allowed' place) :
    Adds Allowed' a b := by
  induction adds with
  | refl => exact .refl
  | folder _ allowed vacant inside ih => exact .folder ih (weaker _ allowed) vacant inside

theorem trans (ab : Adds Allowed a b) (bc : Adds Allowed b c) : Adds Allowed a c := by
  induction bc with
  | refl => exact ab
  | folder _ allowed vacant inside ih => exact .folder ih allowed vacant inside

theorem grows (adds : Adds Allowed a b) : Grows a b := by
  induction adds with
  | refl => exact .refl a
  | folder _ _ vacant _ ih => exact ih.trans (.put (by simp [vacant]) .folder)

theorem isTree (adds : Adds Allowed a b) (isTree : a.IsTree) : b.IsTree := by
  induction adds with
  | refl => exact isTree
  | @folder disk' place _ _ vacant inside ih =>
      have below : place ≠ [] := by
        rintro rfl
        simp at vacant
      exact ih.put below (inside ih) (Or.inl rfl)

/-- All files are as they were. -/
theorem sameFiles (adds : Adds Allowed a b) : SameFiles a b := by
  induction adds with
  | refl => exact .refl a
  | @folder disk' place _ _ vacant _ ih =>
      refine ih.trans ⟨rfl, funext fun other => ?_⟩
      by_cases here : other = place
      · subst here
        have below : other ≠ [] := by
          rintro rfl
          simp at vacant
        rw [contentAt_put_self disk' .folder below]
        simp [contentAt, vacant]
      · exact contentAt_put_of_ne disk' .folder here

/-- At places of another kind everything is as it was. -/
theorem find?_of_not (adds : Adds Allowed a b) {place : Place} (other : ¬Allowed place) :
    b.find? place = a.find? place := by
  induction adds with
  | refl => rfl
  | folder _ allowed _ _ ih =>
      have differs : place ≠ _ := fun same => other (same ▸ allowed)
      rw [find?_put_of_ne _ _ differs, ih]

end Adds

/-- The names of a path are those in front of its file name, and that one if it is not empty. -/
theorem namesOf_eq (s : List Char) :
    namesOf s = namesOf (Path.headChars s) ++ namesOf (Path.fileNameChars s) := by
  have whole := Path.headChars_append_fileNameChars s
  rcases Path.isHead_headChars s with none | ⟨front, ends⟩
  · rw [none, List.nil_append] at whole
    rw [none, whole]
    rfl
  · have cut : s = front ++ '/' :: Path.fileNameChars s := by
      rw [ends, List.append_assoc] at whole
      exact whole.symm
    calc namesOf s = namesOf (front ++ '/' :: Path.fileNameChars s) := congrArg namesOf cut
      _ = namesOf (front ++ ['/']) ++ namesOf (Path.fileNameChars s) := by
          simp [namesOf, Text.splitOn_append_cons, splitOn]
      _ = namesOf (Path.headChars s) ++ namesOf (Path.fileNameChars s) := by rw [ends]

theorem namesOf_dropWhile_slash (s : List Char) :
    namesOf (s.dropWhile (· == '/')).reverse = namesOf s.reverse := by
  induction s with
  | nil => rfl
  | cons c rest ih =>
      by_cases slash : c = '/'
      · subst slash
        have cut : namesOf (rest.reverse ++ ['/']) = namesOf rest.reverse := by
          simp [namesOf, Text.splitOn_append_cons, splitOn]
        rw [List.dropWhile_cons_of_pos (by simp), List.reverse_cons, cut, ih]
      · rw [List.dropWhile_cons_of_neg (by simpa using slash)]

/-- The folder of a path has the names in front of its file name. -/
theorem namesOf_folderChars (s : List Char) :
    namesOf (Path.folderChars s) = namesOf (Path.headChars s) := by
  simp only [Path.folderChars]
  split
  · rfl
  · rw [namesOf_dropWhile_slash, List.reverse_reverse]

/-- The folder of a path stands in front of it. -/
theorem isFront_folderChars (s : List Char) : Path.folderChars s <+: s := by
  have head : Path.headChars s <+: s :=
    ⟨Path.fileNameChars s, Path.headChars_append_fileNameChars s⟩
  refine List.IsPrefix.trans ?_ head
  simp only [Path.folderChars]
  split
  · exact List.prefix_rfl
  · rw [← List.reverse_suffix, List.reverse_reverse]
    exact List.dropWhile_suffix _

/-- A path that is put in front of another one starts from the same folder. -/
theorem startOf_of_isFront (disk : Disk) {front : List Char} {path : String}
    (isFront : front <+: path.toList) (nonempty : front ≠ []) :
    disk.startOf (String.ofList front) = disk.startOf path := by
  obtain ⟨rest, whole⟩ := isFront
  cases front with
  | nil => exact absurd rfl nonempty
  | cons c front => simp [startOf, ← whole]

/-- The place is named by the first names of the path. -/
def Above (disk : Disk) (path : String) (place : Place) : Prop :=
  ∃ front, front <+: namesOf path.toList ∧ place = descend (disk.startOf path) front

theorem above_of_here {disk disk' : Disk} (same : disk'.here = disk.here) (path : String) :
    Above disk' path = Above disk path := by
  funext place
  simp only [Above, startOf, same]

/-- What lies above the front of a path lies above the path. -/
theorem above_of_isFront {disk : Disk} {front : List Char} {path : String} {place : Place}
    (isFront : front <+: path.toList) (nonempty : front ≠ [])
    (names : namesOf front <+: namesOf path.toList)
    (above : Above disk (String.ofList front) place) : Above disk path place := by
  obtain ⟨first, isFirst, rfl⟩ := above
  rw [String.toList_ofList] at isFirst
  exact ⟨first, isFirst.trans names, by rw [startOf_of_isFront disk isFront nonempty]⟩

theorem isFront_lastName (s : List Char) :
    (lastName s).1 <+: s ∧ namesOf (lastName s).1 <+: namesOf s := by
  have folder : ∀ t, Path.folderChars t <+: t ∧ namesOf (Path.folderChars t) <+: namesOf t := by
    intro t
    refine ⟨isFront_folderChars t, ?_⟩
    rw [namesOf_folderChars, namesOf_eq t]
    exact List.prefix_append _ _
  unfold lastName
  split
  · obtain ⟨text, names⟩ := folder (Path.folderChars s)
    exact ⟨text.trans (folder s).1, names.trans (folder s).2⟩
  · exact folder s

/-- A folder is made at the place that the whole path names. -/
theorem adds_makeFolder {disk disk' : Disk} {path : String}
    (made : disk.makeFolder path = .ok disk') : Adds (Above disk path) disk disk' := by
  unfold makeFolder at made
  split at made
  · cases made
  · cases made
  · rename_i folder name isOpen walked
    split at made
    · cases made
    · rename_i vacant
      cases made
      refine .folder .refl ⟨_, List.prefix_rfl, ?_⟩ vacant (fun isTree => ?_)
      · exact place_of_walkFrom (walkFrom_of_walk walked).2
      · rw [List.dropLast_concat]
        exact isTree.folder_of_walk walked

theorem adds_makeLast (disk : Disk) (path : String) :
    Adds (Above disk path) disk (disk.makeLast path).1 := by
  unfold makeLast
  split
  · exact .refl
  · split
    · rename_i made
      exact adds_makeFolder made
    · split
      · exact .refl
      · exact .refl

theorem adds_makeFoldersUpTo (fuel : Nat) (disk : Disk) (path : String) :
    Adds (Above disk path) disk (disk.makeFoldersUpTo fuel path).1 := by
  -- On the folders above, which are made first; paths start from the same folder all the time.
  induction fuel generalizing path with
  | zero => exact adds_makeLast disk path
  | succ fuel ih =>
      simp only [makeFoldersUpTo]
      split
      · rename_i missing
        simp only [Bool.and_eq_true, decide_eq_true_eq] at missing
        obtain ⟨text, names⟩ := isFront_lastName path.toList
        have above := (ih (String.ofList (lastName path.toList).1)).mono
          (fun place => above_of_isFront text missing.1.1 names)
        have last := adds_makeLast
          (disk.makeFoldersUpTo fuel (String.ofList (lastName path.toList).1)).1 path
        rw [above_of_here above.grows.here] at last
        split
        · split
          · exact above
          · exact above.trans last
        · split
          · exact above
          · exact above.trans last
        · exact above
      · exact adds_makeLast disk path

/-- Whether all folders could be made or not, those that were lie above the path. -/
theorem adds_makeFolders (disk : Disk) (path : String) :
    Adds (Above disk path) disk (disk.makeFolders path).1 :=
  adds_makeFoldersUpTo path.length disk path

end LayeredFiles.Disk
