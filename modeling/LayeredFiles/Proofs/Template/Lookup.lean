import LayeredFiles.Proofs.Disk.Reading
import LayeredFiles.Proofs.NormalPath
import LayeredFiles.Template.Library
/-
Module: LayeredFiles.Proofs.Template.Lookup
Layer: Proofs
Purpose: a place below the root of a library that is a file in a folder. The search looks at the place as a
  path, loading puts it together piece by piece; if a file is there, both come to the same file. The first
  place where the template of an identifier is looked for is such a place.
Main exports: Template.IsName, Template.placeOf, Template.Library.toList_pathOf_placeOf,
  Template.Library.source_placeOf, Template.ownPlace, Template.Library.source_of_readText
-/

namespace LayeredFiles.Template

open Text (splitOn)
open NormalPath (IsNormal)

/-! ### Files in folders -/

/-- A name of a file or a folder that stands for something inside the folder that it is in. -/
structure IsName (name : List Char) : Prop where
  nonempty : name ≠ []
  notDot : name ≠ ['.']
  notDots : name ≠ ['.', '.']
  slashless : '/' ∉ name

theorem IsName.isPart {name : List Char} (isName : IsName name) :
    name ≠ [] ∧ name ≠ ['.'] ∧ '/' ∉ name :=
  ⟨isName.nonempty, isName.notDot, isName.slashless⟩

/-- A name that is longer than two characters. -/
theorem IsName.of_length {name : List Char} (long : 2 < name.length) (slashless : '/' ∉ name) :
    IsName name where
  nonempty := by
    rintro rfl
    exact absurd long (by decide)
  notDot := by
    rintro rfl
    exact absurd long (by decide)
  notDots := by
    rintro rfl
    exact absurd long (by decide)
  slashless := slashless

/-- The path of a file in a folder. -/
def placeOf (folder file : List Char) : String := String.ofList (folder ++ '/' :: file)

/-- A text that is cut into parts keeps those that name something. -/
theorem filter_parts {parts : List (List Char)} (named : ∀ part ∈ parts, IsName part) :
    parts.filter (fun part => part ≠ [] && part ≠ ['.']) = parts := by
  apply List.filter_eq_self.2
  intro part mem
  rw [Bool.and_eq_true, decide_eq_true_eq, decide_eq_true_eq]
  exact ⟨(named part mem).nonempty, (named part mem).notDot⟩

section Place

variable {folder file : List Char} (isFolder : IsName folder) (isFile : IsName file)
include isFolder

theorem head?_placeOf : (placeOf folder file).toList.head? ≠ some '/' := by
  obtain ⟨c, rest, rfl⟩ := List.exists_cons_of_ne_nil isFolder.nonempty
  have noSlash := isFolder.slashless
  rw [placeOf, String.toList_ofList, List.cons_append, List.head?_cons]
  rintro ⟨⟩
  exact noSlash List.mem_cons_self

include isFile

theorem splitOn_placeOf : splitOn '/' (placeOf folder file).toList = [folder, file] := by
  rw [placeOf, String.toList_ofList, Text.splitOn_append_cons,
    Text.splitOn_of_notMem isFolder.slashless, Text.splitOn_of_notMem isFile.slashless]
  rfl

theorem isName_of_mem : ∀ part ∈ [folder, file], IsName part := by
  intro part mem
  rcases List.mem_cons.1 mem with rfl | mem
  · exact isFolder
  · rw [List.mem_singleton.1 mem]
    exact isFile

theorem ofString_placeOf :
    NormalPath.ofString (placeOf folder file) = ⟨.relative, [folder, file]⟩ := by
  rw [NormalPath.ofString, NormalPath.ofChars_of_relative (head?_placeOf isFolder),
    NormalPath.partsOf, splitOn_placeOf isFolder isFile, filter_parts (isName_of_mem isFolder isFile)]

/-- The pieces of the place, none of which leads upwards. -/
theorem pieces?_placeOf :
    pieces? (placeOf folder file) = some [String.ofList folder, String.ofList file] := by
  have down : ¬[folder, file].contains ['.', '.'] = true := by
    intro up
    exact (isName_of_mem isFolder isFile _ (List.contains_iff_mem.1 up)).notDots rfl
  simp only [pieces?, splitOn_placeOf isFolder isFile, if_neg down,
    filter_parts (isName_of_mem isFolder isFile)]
  rfl

/-- A place where something is is short, since its names are. -/
theorem fits_placeOf {disk : Disk} {found : Place × Node}
    (isThere : disk.stat (placeOf folder file) = .ok found) :
    (placeOf folder file).utf8ByteSize + 2 < Disk.pathLimit := by
  have names : Disk.namesOf (placeOf folder file).toList = [folder, file] := by
    rw [Disk.namesOf, splitOn_placeOf isFolder isFile]
    apply List.filter_eq_self.2
    intro name mem
    simpa using (isName_of_mem isFolder isFile name mem).nonempty
  have fit : (String.ofList folder).utf8ByteSize ≤ Disk.nameLimit ∧
      (String.ofList file).utf8ByteSize ≤ Disk.nameLimit := by
    unfold Disk.stat at isThere
    cases walked : disk.walk (placeOf folder file) with
    | error problem =>
        rw [walked] at isThere
        cases isThere
    | ok spot =>
        obtain ⟨-, walkedFrom⟩ := Disk.walkFrom_of_walk walked
        rw [names] at walkedFrom
        exact ⟨Disk.fits_of_walkFrom walkedFrom (by simp), Disk.fits_of_walkFrom walkedFrom (by simp)⟩
  have whole : placeOf folder file = String.ofList folder ++ "/" ++ String.ofList file := by
    rw [← String.toList_inj]
    simp [placeOf]
  have size : (placeOf folder file).utf8ByteSize =
      (String.ofList folder).utf8ByteSize + 1 + (String.ofList file).utf8ByteSize := by
    rw [whole, String.utf8ByteSize_append, String.utf8ByteSize_append]
    rfl
  have limits : Disk.nameLimit = 255 ∧ Disk.pathLimit = 4096 := ⟨rfl, rfl⟩
  omega

end Place

namespace Library

variable {lib : Library}

/-! ### Two spellings of a place -/

/-- A folder below the root. -/
def folderPath (lib : Library) (folder : List Char) : NormalPath :=
  ⟨lib.root.root, lib.root.parts ++ [folder]⟩

theorem folderPath_ne_here (folder : List Char) : lib.folderPath folder ≠ NormalPath.here := by
  intro same
  have noParts := congrArg NormalPath.parts same
  simp [folderPath, NormalPath.here] at noParts

/-- The path of a place is that of the folder with a part more. -/
theorem pathOf_placeOf {folder file : List Char} (isFolder : IsName folder) (isFile : IsName file) :
    lib.pathOf (placeOf folder file) =
      (⟨(lib.folderPath folder).root, (lib.folderPath folder).parts ++ [file]⟩ : NormalPath).text := by
  rw [pathOf, NormalPath.appendText, ofString_placeOf isFolder isFile]
  simp [NormalPath.append, folderPath]

section Place

variable {folder file : List Char} (normal : lib.root.IsNormal) (isFolder : IsName folder)
  (isFile : IsName file)
include normal isFolder isFile

/-- The place is a file name behind the folder. -/
theorem toList_pathOf_placeOf :
    (lib.pathOf (placeOf folder file)).toList =
      Path.headOf (lib.folderPath folder).chars ++ file := by
  have isNormal : (lib.folderPath folder).IsNormal := normal.concat isFolder.isPart
  rw [← NormalPath.chars_concat isNormal (folderPath_ne_here folder), pathOf_placeOf isFolder isFile,
    NormalPath.text, String.toList_ofList]

/-- The file name of the place is that of the file. -/
theorem fileName_pathOf_placeOf :
    Path.fileName (lib.pathOf (placeOf folder file)) = String.ofList file := by
  rw [Path.fileName, toList_pathOf_placeOf normal isFolder isFile,
    Path.fileNameChars_append (Path.isHead_headOf _) isFile.slashless]

/-- Put together piece by piece, the place is spelled as before, unless the root is the folder that one is
    in: then a dot comes in front. -/
theorem fileOf_placeOf :
    lib.fileOf [String.ofList folder, String.ofList file] = lib.pathOf (placeOf folder file) ∨
      lib.pathOf (placeOf folder file) = placeOf folder file ∧
        lib.fileOf [String.ofList folder, String.ofList file] =
          "./" ++ lib.pathOf (placeOf folder file) := by
  have isPath := toList_pathOf_placeOf normal isFolder isFile
  have joined : (lib.fileOf [String.ofList folder, String.ofList file]).toList =
      Path.headOf (Path.headOf lib.root.chars ++ folder) ++ file := by
    simp only [fileOf, List.foldl_cons, List.foldl_nil, Path.join, String.toList_ofList,
      NormalPath.text, Path.joinChars_eq isFolder.slashless, Path.joinChars_eq isFile.slashless]
  by_cases here : lib.root = NormalPath.here
  · right
    have isRoot : (lib.folderPath folder).chars = folder := by
      rw [folderPath, here]
      exact NormalPath.chars_here_concat isFolder.nonempty
    have isHead : Path.headOf folder = folder ++ ['/'] := by
      rw [Path.headOf, if_neg]
      rw [Bool.or_eq_true, decide_eq_true_eq, decide_eq_true_eq, not_or]
      exact ⟨isFolder.nonempty, fun slash => isFolder.slashless (List.mem_of_getLast? slash)⟩
    have isHead' : Path.headOf ('.' :: '/' :: folder) = '.' :: '/' :: folder ++ ['/'] := by
      rw [Path.headOf, if_neg]
      rw [Bool.or_eq_true, decide_eq_true_eq, decide_eq_true_eq, not_or]
      refine ⟨by simp, fun slash => ?_⟩
      rw [List.getLast?_cons_cons, List.getLast?_cons,
        List.getLast?_eq_some_getLast isFolder.nonempty] at slash
      exact isFolder.slashless (List.mem_of_getLast? (List.getLast?_eq_some_getLast
        isFolder.nonempty ▸ slash))
    rw [isRoot, isHead] at isPath
    rw [here] at joined
    have isPlace : lib.pathOf (placeOf folder file) = placeOf folder file := by
      rw [← String.toList_inj, isPath, placeOf, String.toList_ofList, List.append_assoc]
      rfl
    refine ⟨isPlace, ?_⟩
    rw [← String.toList_inj, joined, String.toList_append, isPath]
    exact congrArg (· ++ file) isHead'
  · left
    rw [← String.toList_inj, isPath, joined, folderPath, NormalPath.chars_concat normal here folder]

/-! ### Finding and loading -/

/-- Both spellings lead to the same. -/
theorem stat_fileOf {disk : Disk} {found : Place × Node}
    (isThere : disk.stat (lib.pathOf (placeOf folder file)) = .ok found) :
    disk.stat (lib.fileOf [String.ofList folder, String.ofList file]) =
      disk.stat (lib.pathOf (placeOf folder file)) := by
  rcases fileOf_placeOf normal isFolder isFile with same | ⟨isPath, dotted⟩
  · rw [same]
  · rw [dotted]
    rw [isPath] at isThere ⊢
    apply Disk.stat_dot
    · simp [placeOf]
    · exact head?_placeOf isFolder
    · exact fits_placeOf isFolder isFile isThere

/-- A file that is found at a place is the file that is loaded from there. -/
theorem source_placeOf {disk : Disk} (isThere : disk.isFile (lib.pathOf (placeOf folder file)) = true) :
    lib.source disk (placeOf folder file) = disk.readText "utf-8" (lib.pathOf (placeOf folder file)) := by
  obtain ⟨free, bytes, isBytes⟩ := Disk.isFile_iff.1 isThere
  obtain ⟨found, isFound⟩ := Disk.exists_stat_of_readBytes isBytes
  have isBytes' : disk.readBytes (lib.fileOf [String.ofList folder, String.ofList file]) =
      .ok bytes := by
    rw [Disk.readBytes, stat_fileOf normal isFolder isFile isFound, ← isBytes, Disk.readBytes]
  have free' : (lib.fileOf [String.ofList folder, String.ofList file]).toList.contains '\x00' =
      false := by
    rcases fileOf_placeOf normal isFolder isFile with same | ⟨-, dotted⟩
    · rw [same, free]
    · rw [dotted, String.toList_append, List.contains_append, free]
      rfl
  have isThere' := Disk.isFile_iff.2 ⟨free', bytes, isBytes'⟩
  rw [source, pieces?_placeOf isFolder isFile]
  simp only [isThere', if_true]
  exact Disk.readText_congr free' free isBytes' isBytes "utf-8"

end Place

end Library

/-! ### The first place -/

/-- The first place where the template of an identifier may be. -/
def ownPlace (id : String) : String := partialsFolder ++ "/" ++ id ++ ".j2"

/-- The file name of that place. -/
def ownName (id : String) : List Char := id.toList ++ ['.', 'j', '2']

/-- The name of the folder of that place. -/
def partialsName : List Char := ['p', 'a', 'r', 't', 'i', 'a', 'l', 's']

theorem isName_partialsName : IsName partialsName := .of_length (by decide) (by decide)

theorem isName_ownName {id : String} (slashless : '/' ∉ id.toList) : IsName (ownName id) := by
  apply IsName.of_length
  · simp only [ownName, List.length_append, List.length_cons]
    omega
  · simp [ownName, slashless]

theorem ownPlace_eq (id : String) : ownPlace id = placeOf partialsName (ownName id) := by
  rw [← String.toList_inj]
  simp [ownPlace, placeOf, ownName, partialsFolder, partialsName]

namespace Library

variable {lib : Library}

/-- The file name of the place is that of the template. -/
theorem fileName_pathOf_ownPlace (normal : lib.root.IsNormal) {id : String}
    (free : '/' ∉ id.toList) :
    Path.fileName (lib.pathOf (ownPlace id)) = String.ofList (ownName id) := by
  rw [ownPlace_eq]
  exact fileName_pathOf_placeOf normal isName_partialsName (isName_ownName free)

/-- If a text can be read at the first place, the search ends there and that text is loaded. -/
theorem source_of_readText {disk : Disk} (normal : lib.root.IsNormal) {id text : String}
    (slashless : '/' ∉ id.toList)
    (read : disk.readText "utf-8" (lib.pathOf (ownPlace id)) = .ok text) :
    lib.find? disk id = .ok (some (ownPlace id)) ∧ lib.source disk (ownPlace id) = .ok text := by
  have isThere : disk.isFile (lib.pathOf (ownPlace id)) = true :=
    Disk.isFile_iff.2 (Disk.readBytes_of_readText read)
  constructor
  · have first : candidates id = ownPlace id :: (candidates id).tail := rfl
    rw [find?, first, findAmong]
    rcases Disk.probeFile_cases disk (lib.pathOf (ownPlace id)) with probed | ⟨-, isNone⟩
    · rw [probed, isThere]
    · rw [isThere] at isNone
      cases isNone
  · rw [← read]
    rw [ownPlace_eq] at isThere ⊢
    exact source_placeOf normal isName_partialsName (isName_ownName slashless) isThere

/-- What was found is rendered. -/
theorem render_of_find? {disk : Disk} {id context : Value} {place text : String}
    (found : lib.find? disk id.display = .ok (some place))
    (rendered : lib.renderPath disk place context = .ok text) :
    lib.render disk id context = .ok text := by
  unfold render
  simp only [found]
  exact rendered

end Library

end LayeredFiles.Template
