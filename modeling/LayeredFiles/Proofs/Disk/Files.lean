import LayeredFiles.Disk.TextFile
import LayeredFiles.Proofs.Disk.Walk
import LayeredFiles.Proofs.Path
import LayeredFiles.Proofs.Text.Split
/-
Module: LayeredFiles.Proofs.Disk.Files
Layer: Proofs
Purpose: what writing a text does to the files of a disk. The place of a file can be read off its path: the
  names in front of the last one are entered or left one by one, whatever the disk holds. A write touches
  that place and no other file, although it may make folders above it and although it may fail halfway;
  when it goes well the place holds the bytes of the text.
Main exports: Disk.fileAt, Disk.contentAt, Disk.placeForFile_eq_fileAt, Disk.SameFiles,
  Disk.sameFiles_makeFolders, Disk.writeText_content, Disk.writeText_content_of_ne
-/

namespace LayeredFiles.Disk

open Text (splitOn)

/-! ### Places of files -/

/-- The place that names lead to from a folder, if all of them are folders. -/
def descend (start : Place) : List (List Char) → Place
  | [] => start
  | ['.'] :: rest => descend start rest
  | ['.', '.'] :: rest => descend start.dropLast rest
  | name :: rest => descend (start ++ [String.ofList name]) rest

/-- The names that a path consists of. -/
def namesOf (path : List Char) : List (List Char) := (splitOn '/' path).filter (· ≠ [])

/-- The folder that a path starts from. -/
def startOf (disk : Disk) (path : String) : Place :=
  if path.toList.head? = some '/' then [] else disk.here

/-- The place of the file that a path names. -/
def fileAt (disk : Disk) (path : String) : Place :=
  descend (disk.startOf path) (namesOf (Path.headChars path.toList)) ++ [Path.fileName path]

/-- Where paths lead depends on the folder that they start from alone. -/
theorem fileAt_of_here {disk disk' : Disk} (same : disk'.here = disk.here) :
    disk'.fileAt = disk.fileAt := by
  funext path
  simp only [fileAt, startOf, same]

/-- Paths to one place end in the same file name. -/
theorem fileName_eq_of_fileAt_eq {disk : Disk} {path other : String}
    (same : disk.fileAt path = disk.fileAt other) : Path.fileName path = Path.fileName other := by
  have last := congrArg List.getLast? same
  simpa [fileAt] using last

/-- A file name without slashes comes last among the names. -/
theorem namesOf_append {head name : List Char} (isHead : Path.IsHead head) (free : '/' ∉ name)
    (nonempty : name ≠ []) : namesOf (head ++ name) = namesOf head ++ [name] := by
  rcases isHead with rfl | ⟨front, rfl⟩
  · simp [namesOf, Text.splitOn_of_notMem free, splitOn, nonempty]
  · have whole : front ++ ['/'] ++ name = front ++ '/' :: name := by simp
    simp [namesOf, Text.splitOn_append_cons, Text.splitOn_of_notMem free, splitOn, nonempty]

theorem descend_name (start : Place) {name : List Char} (rest : List (List Char))
    (notDot : name ≠ ['.']) (notDots : name ≠ ['.', '.']) :
    descend start (name :: rest) = descend (start ++ [String.ofList name]) rest :=
  descend.eq_4 start name rest notDot notDots

theorem descend_append (start : Place) (front rest : List (List Char)) :
    descend start (front ++ rest) = descend (descend start front) rest := by
  induction front generalizing start with
  | nil => rfl
  | cons name front ih =>
      by_cases dot : name = ['.']
      · subst dot
        exact ih start
      · by_cases dots : name = ['.', '.']
        · subst dots
          exact ih start.dropLast
        · rw [List.cons_append, descend_name start _ dot dots, descend_name start _ dot dots]
          exact ih (start ++ [String.ofList name])

/-- Without double dots every name leads further down. -/
theorem prefix_descend {names : List (List Char)} (down : ['.', '.'] ∉ names) (start : Place) :
    start <+: descend start names := by
  induction names generalizing start with
  | nil => exact List.prefix_rfl
  | cons name rest ih =>
      have downRest : ['.', '.'] ∉ rest := fun mem => down (List.mem_cons_of_mem _ mem)
      by_cases dot : name = ['.']
      · subst dot
        exact ih downRest start
      · have dots : name ≠ ['.', '.'] := fun same => down (same ▸ List.mem_cons_self)
        rw [descend_name start rest dot dots]
        exact (List.prefix_append _ _).trans (ih downRest (start ++ [String.ofList name]))

theorem Passes.eq_descend {disk : Disk} {start top : Place} {names : List (List Char)}
    (passes : Passes disk start names top) : top = descend start names := by
  induction passes with
  | done start => rfl
  | stay _ ih => exact ih
  | back _ ih => exact ih
  | enter isName _ _ ih =>
      rw [descend_name _ _ isName.notDot isName.notDots]
      exact ih

/-- A walk that ends at a name went down all its names. -/
theorem place_of_walkFrom {disk : Disk} {names : List (List Char)} {start folder : Place}
    {last : String} {isOpen isOpen' : Bool}
    (walked : disk.walkFrom start isOpen names = .ok (.entry folder last isOpen')) :
    folder ++ [last] = descend start names := by
  obtain ⟨front, name, rfl, isName, rfl, -, passes⟩ := walkFrom_eq_entry_iff.1 walked
  rw [descend_append, descend_name _ [] isName.notDot isName.notDots, ← passes.eq_descend]
  rfl

/-- A walk that ends at a name went down the folders in front of it. -/
theorem descend_of_walkFrom {disk : Disk} {front : List (List Char)} {name : List Char}
    {start folder : Place} {last : String} {isOpen isOpen' : Bool}
    (walked : disk.walkFrom start isOpen (front ++ [name]) = .ok (.entry folder last isOpen')) :
    isOpen' = isOpen ∧ folder ++ [last] = descend start front ++ [String.ofList name] := by
  obtain ⟨front', name', names, -, rfl, rfl, passes⟩ := walkFrom_eq_entry_iff.1 walked
  obtain ⟨rfl, same⟩ := List.append_inj' names rfl
  cases same
  rw [passes.eq_descend]
  exact ⟨rfl, rfl⟩

/-- A path that leads somewhere is not empty and was walked name by name. -/
theorem walkFrom_of_walk {disk : Disk} {path : String} {spot : Spot}
    (walked : disk.walk path = .ok spot) :
    path.toList ≠ [] ∧ disk.walkFrom (disk.startOf path) (path.toList.getLast? = some '/')
      (namesOf path.toList) = .ok spot := by
  simp only [walk] at walked
  split at walked
  · cases walked
  · split at walked
    · cases walked
    · rename_i nonempty _
      exact ⟨nonempty, walked⟩

/-- A path that leads to a name without a slash behind it ends in that name. -/
theorem fileNameChars_ne_nil_of_walk {disk : Disk} {path : String} {folder : Place} {last : String}
    (walked : disk.walk path = .ok (.entry folder last false)) :
    Path.fileNameChars path.toList ≠ [] := by
  intro nameless
  have whole := Path.headChars_append_fileNameChars path.toList
  have isHead := Path.isHead_headChars path.toList
  obtain ⟨notEmpty, walked⟩ := walkFrom_of_walk walked
  rw [nameless, List.append_nil] at whole
  rw [whole] at isHead
  obtain ⟨front, ends⟩ := isHead.resolve_left notEmpty
  rcases List.eq_nil_or_concat (namesOf path.toList) with none | ⟨front, name, some⟩
  · rw [none] at walked
    simp [walkFrom] at walked
  · rw [some, List.concat_eq_append] at walked
    obtain ⟨isOpen, -⟩ := descend_of_walkFrom walked
    simp [ends] at isOpen

/-- A file can only be kept at the place that its path names. -/
theorem placeForFile_eq_fileAt {disk : Disk} {path : String} {place : Place}
    (found : disk.placeForFile path = .ok place) : place = disk.fileAt path := by
  have whole := Path.headChars_append_fileNameChars path.toList
  have isHead := Path.isHead_headChars path.toList
  have free := Path.slash_notMem_fileNameChars path.toList
  unfold placeForFile at found
  split at found
  · cases found
  · cases found
  · rename_i folder last isOpen walked
    split at found
    · cases found
    · rename_i closed
      cases found
      simp only [Bool.or_eq_true, decide_eq_true_eq, not_or, Bool.not_eq_true] at closed
      rw [closed.1] at walked
      have named := fileNameChars_ne_nil_of_walk walked
      obtain ⟨-, walked⟩ := walkFrom_of_walk walked
      rw [← whole, namesOf_append isHead free named] at walked
      exact (descend_of_walkFrom walked).2

/-! ### Contents of files -/

/-- The bytes of the file at a place. -/
def contentAt (disk : Disk) (place : Place) : Option (List UInt8) :=
  match disk.find? place with
  | some (.file bytes) => some bytes
  | _ => none

/-- The same files, seen from the same folder. Other folders may have come up. -/
structure SameFiles (disk disk' : Disk) : Prop where
  here : disk'.here = disk.here
  contentAt : disk'.contentAt = disk.contentAt

namespace SameFiles

theorem refl (disk : Disk) : SameFiles disk disk := ⟨rfl, rfl⟩

theorem trans {a b c : Disk} (ab : SameFiles a b) (bc : SameFiles b c) : SameFiles a c :=
  ⟨bc.here.trans ab.here, bc.contentAt.trans ab.contentAt⟩

/-- Paths name the same places. -/
theorem fileAt {disk disk' : Disk} (same : SameFiles disk disk') (path : String) :
    disk'.fileAt path = disk.fileAt path := by
  rw [fileAt_of_here same.here]

end SameFiles

/-- A place that gets a node holds it, and no file of another place changes. -/
theorem contentAt_put_self (disk : Disk) {place : Place} (node : Node) (below : place ≠ []) :
    (disk.put place node).contentAt place =
      match node with
      | .file bytes => some bytes
      | .folder => none := by
  simp only [contentAt, find?_put_self disk place node below]
  cases node with
  | folder => rfl
  | file bytes => rfl

theorem contentAt_put_of_ne (disk : Disk) {place other : Place} (node : Node)
    (differs : other ≠ place) : (disk.put place node).contentAt other = disk.contentAt other := by
  simp only [contentAt, find?_put_of_ne disk node differs]

/-- A folder is made where nothing is. -/
theorem sameFiles_makeFolder {disk disk' : Disk} {path : String}
    (made : disk.makeFolder path = .ok disk') : SameFiles disk disk' := by
  unfold makeFolder at made
  split at made
  · cases made
  · cases made
  · split at made
    · cases made
    · rename_i folder name _ _ _ vacant
      cases made
      refine ⟨rfl, funext fun place => ?_⟩
      by_cases here : place = folder ++ [name]
      · rw [here, contentAt_put_self disk _ (by simp)]
        simp [contentAt, vacant]
      · exact contentAt_put_of_ne disk _ here

theorem sameFiles_makeLast (disk : Disk) (path : String) :
    SameFiles disk (disk.makeLast path).1 := by
  unfold makeLast
  split
  · exact .refl disk
  · split
    · rename_i made
      exact sameFiles_makeFolder made
    · split
      · exact .refl disk
      · exact .refl disk

theorem sameFiles_makeFoldersUpTo (fuel : Nat) (disk : Disk) (path : String) :
    SameFiles disk (disk.makeFoldersUpTo fuel path).1 := by
  -- On the folders above, which are made first; whatever fails, only folders have come up.
  induction fuel generalizing path with
  | zero => exact sameFiles_makeLast disk path
  | succ fuel ih =>
      simp only [makeFoldersUpTo]
      split
      · have above := ih (String.ofList (lastName path.toList).1)
        split
        · split
          · exact above
          · exact above.trans (sameFiles_makeLast _ path)
        · split
          · exact above
          · exact above.trans (sameFiles_makeLast _ path)
        · exact above
      · exact sameFiles_makeLast disk path

theorem sameFiles_makeFolders (disk : Disk) (path : String) :
    SameFiles disk (disk.makeFolders path).1 :=
  sameFiles_makeFoldersUpTo path.length disk path

/-! ### Writing -/

theorem fileAt_ne_nil (disk : Disk) (path : String) : disk.fileAt path ≠ [] := by
  simp [fileAt]

/-- A write to a file whose folder is there leaves the disk as it is, or empties the file and fails, or
    leaves the bytes of the text in it. -/
theorem writeFile_cases (disk : Disk) (encoding path : String) (content : Value) :
    (∃ fault, disk.writeFile encoding path content = (.error fault, disk)) ∨
    (∃ fault, disk.writeFile encoding path content =
      (.error fault, disk.put (disk.fileAt path) (.file []))) ∨
    ∃ bytes, bytesToWrite encoding content = .ok bytes ∧
      disk.writeFile encoding path content =
        (.ok (), (disk.put (disk.fileAt path) (.file [])).put (disk.fileAt path) (.file bytes)) := by
  unfold writeFile
  split
  · exact Or.inl ⟨_, rfl⟩
  · cases cleared : disk.clearFile path with
    | error fault => exact Or.inl ⟨fault, rfl⟩
    | ok found =>
        obtain ⟨place, empty⟩ := found
        obtain ⟨rfl, rfl⟩ : place = disk.fileAt path ∧ empty = disk.put place (.file []) := by
          unfold clearFile at cleared
          split at cleared
          · cases cleared
          · split at cleared
            · cases cleared
            · rename_i isPlace
              cases cleared
              exact ⟨placeForFile_eq_fileAt isPlace, rfl⟩
        cases encoded : bytesToWrite encoding content with
        | error fault => exact Or.inr (Or.inl ⟨fault, rfl⟩)
        | ok bytes => exact Or.inr (Or.inr ⟨bytes, rfl, rfl⟩)

/-- A write makes folders, and unless this fails it writes the file. -/
theorem writeText_cases (disk : Disk) (encoding path : String) (content : Value) :
    ∃ prepared, SameFiles disk prepared ∧
      ((∃ fault, disk.writeText encoding path content = (.error fault, prepared)) ∨
        disk.writeText encoding path content = prepared.writeFile encoding path content) := by
  unfold writeText
  split
  · exact ⟨disk, .refl disk, Or.inr rfl⟩
  · have same := sameFiles_makeFolders disk (Path.folder path)
    split
    · rename_i made
      rw [made] at same
      exact ⟨_, same, Or.inl ⟨_, rfl⟩⟩
    · rename_i made
      rw [made] at same
      exact ⟨_, same, Or.inr rfl⟩

/-- Paths name the same places after a write. -/
theorem here_writeText (disk : Disk) (encoding path : String) (content : Value) :
    (disk.writeText encoding path content).2.here = disk.here := by
  obtain ⟨prepared, same, ⟨fault, failed⟩ | wrote⟩ := writeText_cases disk encoding path content
  · rw [failed]
    exact same.here
  · rw [wrote, ← same.here]
    rcases writeFile_cases prepared encoding path content with
      ⟨fault, done⟩ | ⟨fault, done⟩ | ⟨bytes, -, done⟩
    · rw [done]
    · rw [done, put]
    · rw [done, put, put]

/-- A write that goes well leaves the bytes of the text at the place of the file. -/
theorem writeText_content {disk : Disk} {encoding path : String} {content : Value}
    (written : (disk.writeText encoding path content).1 = .ok ()) :
    ∃ bytes, bytesToWrite encoding content = .ok bytes ∧
      (disk.writeText encoding path content).2.contentAt (disk.fileAt path) = some bytes := by
  obtain ⟨prepared, same, ⟨fault, failed⟩ | wrote⟩ := writeText_cases disk encoding path content
  · rw [failed] at written
    cases written
  · rw [wrote] at written ⊢
    rw [← same.fileAt]
    rcases writeFile_cases prepared encoding path content with
      ⟨fault, done⟩ | ⟨fault, done⟩ | ⟨bytes, encoded, done⟩
    · rw [done] at written
      cases written
    · rw [done] at written
      cases written
    · refine ⟨bytes, encoded, ?_⟩
      rw [done]
      exact contentAt_put_self _ _ (fileAt_ne_nil prepared path)

/-- A write, whether it goes well or fails, changes no file but the one that its path names. -/
theorem writeText_content_of_ne (disk : Disk) (encoding path : String) (content : Value)
    {place : Place} (other : place ≠ disk.fileAt path) :
    (disk.writeText encoding path content).2.contentAt place = disk.contentAt place := by
  obtain ⟨prepared, same, ⟨fault, failed⟩ | wrote⟩ := writeText_cases disk encoding path content
  · rw [failed, same.contentAt]
  · rw [← same.fileAt] at other
    rw [wrote, ← same.contentAt]
    rcases writeFile_cases prepared encoding path content with
      ⟨fault, done⟩ | ⟨fault, done⟩ | ⟨bytes, -, done⟩
    · rw [done]
    · rw [done, contentAt_put_of_ne _ _ other]
    · rw [done, contentAt_put_of_ne _ _ other, contentAt_put_of_ne _ _ other]

end LayeredFiles.Disk
