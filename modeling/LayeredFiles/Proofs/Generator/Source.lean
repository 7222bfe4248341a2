import LayeredFiles.Proofs.Disk.Below
import LayeredFiles.Proofs.Generator.Copy
import LayeredFiles.Proofs.Template.Search
/-
Module: LayeredFiles.Proofs.Generator.Source
Layer: Proofs
Purpose: where the files that are copied come from. A template is found through the library, piece by piece
  and never upwards, so one that is named by a relative path lies below the folder of its generator. Any
  other file is read from wherever its path leads; it lies below the folder if the path goes on from the
  folder by names.
Main exports: NormalPath.IsBelow, Template.Library.renderFile_of_renderPath,
  Template.Library.readText_fileOf, Generator.textOf, Generator.copied_source
-/

namespace LayeredFiles

open Template (IsName Library pieces?)
open Text (splitOn joinWith)

namespace NormalPath

/-- The path goes on from a folder by names alone. -/
def IsBelow (p folder : NormalPath) : Prop :=
  ∃ names, names ≠ [] ∧ (∀ name ∈ names, IsName name) ∧ p = ⟨folder.root, folder.parts ++ names⟩

theorem IsNormal.appendText {folder : NormalPath} (normal : folder.IsNormal) (source : String) :
    (folder.appendText source).IsNormal := by
  have normalSource := isNormal_ofString source
  unfold NormalPath.appendText append
  split
  · intro part mem
    rcases List.mem_append.1 mem with mem | mem
    · exact normal part mem
    · exact normalSource part mem
  · exact normalSource

/-- A path below another goes on from it by what is left. -/
theorem relativeTo?_eq_some {p base relative : NormalPath} (isLeft : p.relativeTo? base = some relative) :
    ∃ names, relative = ⟨.relative, names⟩ ∧ p = ⟨base.root, base.parts ++ names⟩ := by
  unfold relativeTo? at isLeft
  split at isLeft
  · rename_i isFront
    rw [Bool.and_eq_true, decide_eq_true_eq, List.isPrefixOf_iff_prefix] at isFront
    obtain ⟨sameRoot, names, isWhole⟩ := isFront
    cases isLeft
    obtain ⟨root, parts⟩ := p
    simp only at sameRoot isWhole
    subst sameRoot
    refine ⟨names, ?_, ?_⟩
    · simp only [← isWhole, List.drop_left]
    · rw [isWhole]
  · cases isLeft

end NormalPath

theorem Path.head?_headOf_append {front : List Char} (nonempty : front ≠ []) (last : List Char) :
    (Path.headOf front ++ last).head? = front.head? := by
  obtain ⟨c, rest, rfl⟩ := List.exists_cons_of_ne_nil nonempty
  unfold headOf
  split <;> rfl

/-- A slash at the end adds no name. -/
theorem Disk.namesOf_headOf (front : List Char) : namesOf (Path.headOf front) = namesOf front := by
  unfold Path.headOf
  split
  · rfl
  · rw [namesOf, Text.splitOn_append_cons, List.filter_append]
    exact List.append_nil _

namespace Template

/-- The names that are left of a path lead downwards, or the path is refused. -/
theorem pieces?_text {names : List (List Char)} (normal : NormalPath.IsNormal ⟨.relative, names⟩) :
    pieces? (⟨.relative, names⟩ : NormalPath).text =
      if ['.', '.'] ∈ names then none else some (names.map String.ofList) := by
  by_cases empty : names = []
  · subst empty
    decide
  · have isText : (⟨.relative, names⟩ : NormalPath).chars = joinWith ['/'] names :=
      NormalPath.chars_of_ne_nil (normal.joinWith_ne_nil empty)
    have cut : splitOn '/' (joinWith ['/'] names) = names :=
      Text.splitOn_joinWith empty (fun name mem => (normal name mem).2.2)
    have kept : names.filter (fun name => name ≠ [] && name ≠ ['.']) = names := by
      apply List.filter_eq_self.2
      intro name mem
      rw [Bool.and_eq_true, decide_eq_true_eq, decide_eq_true_eq]
      exact ⟨(normal name mem).1, (normal name mem).2.1⟩
    simp only [pieces?, NormalPath.text, String.toList_ofList, isText, cut, kept, List.contains_iff_mem]

namespace Library

variable {lib : Library} {disk : Disk}

/-- A path below the root that is rendered goes down by names, and its file is what is rendered. -/
theorem renderFile_of_renderPath {names : List (List Char)} {context : Value} {text : String}
    (normal : NormalPath.IsNormal ⟨.relative, names⟩)
    (rendered : lib.renderPath disk (⟨.relative, names⟩ : NormalPath).text context = .ok text) :
    (∀ name ∈ names, IsName name) ∧ disk.isFile (lib.fileOf (names.map String.ofList)) = true ∧
      renderFile disk (lib.fileOf (names.map String.ofList)) context = .ok text := by
  have cut := pieces?_text normal
  generalize (⟨.relative, names⟩ : NormalPath).text = path at rendered cut
  by_cases up : ['.', '.'] ∈ names
  · rw [if_pos up] at cut
    simp only [renderPath, load, source, cut] at rendered
    cases rendered
  · rw [if_neg up] at cut
    have isSource : lib.source disk path =
        if disk.isFile (lib.fileOf (names.map String.ofList)) then
          disk.readText "utf-8" (lib.fileOf (names.map String.ofList))
        else .error (.template (.notFound path lib.root.text)) := by
      rw [source, cut]
    by_cases isFile : disk.isFile (lib.fileOf (names.map String.ofList)) = true
    · rw [if_pos isFile] at isSource
      refine ⟨fun name mem => ?_, isFile, ?_⟩
      · obtain ⟨nonempty, notDot, slashless⟩ := normal name mem
        exact ⟨nonempty, notDot, fun dots => up (dots ▸ mem), slashless⟩
      · rw [← renderPath_of_source isSource, rendered]
    · rw [if_neg isFile] at isSource
      simp only [renderPath, load, isSource] at rendered
      cases rendered

/-- The file that is put together piece by piece starts as the root does, and its names are those of the root
    and the pieces. -/
theorem namesOf_fileOf {names : List (List Char)} (isNames : ∀ name ∈ names, IsName name) :
    (lib.fileOf (names.map String.ofList)).toList.head? = lib.root.chars.head? ∧
      Disk.namesOf (lib.fileOf (names.map String.ofList)).toList =
        Disk.namesOf lib.root.chars ++ names := by
  induction names using List.reverseRecOn with
  | nil =>
      rw [List.append_nil]
      exact ⟨congrArg List.head? String.toList_ofList, congrArg Disk.namesOf String.toList_ofList⟩
  | append_singleton names last ih =>
      have isLast := isNames last (by simp)
      obtain ⟨sameStart, sameNames⟩ := ih (fun name mem => isNames name (List.mem_append_left _ mem))
      have joined : (lib.fileOf ((names ++ [last]).map String.ofList)).toList =
          Path.headOf (lib.fileOf (names.map String.ofList)).toList ++ last := by
        rw [fileOf, List.map_append, List.foldl_append, List.map_singleton, List.foldl_cons,
          List.foldl_nil, Path.join, String.toList_ofList, String.toList_ofList,
          Path.joinChars_eq isLast.slashless]
        rfl
      generalize (lib.fileOf (names.map String.ofList)).toList = front at joined sameStart sameNames
      have nonempty : front ≠ [] := by
        rintro rfl
        exact lib.root.chars_ne_nil (List.head?_eq_none_iff.1 sameStart.symm)
      constructor
      · rw [joined, Path.head?_headOf_append nonempty, sameStart]
      · rw [joined, Disk.namesOf_append (Path.isHead_headOf front) isLast.slashless isLast.nonempty,
          Disk.namesOf_headOf, sameNames, List.append_assoc]

/-- The file that is put together piece by piece is the file of the path, if both are files. -/
theorem readText_fileOf {names : List (List Char)} (normal : lib.root.IsNormal)
    (isNames : ∀ name ∈ names, IsName name)
    (isFile : disk.isFile (⟨lib.root.root, lib.root.parts ++ names⟩ : NormalPath).text = true)
    (isFile' : disk.isFile (lib.fileOf (names.map String.ofList)) = true) (encoding : String) :
    disk.readText encoding (lib.fileOf (names.map String.ofList)) =
      disk.readText encoding (⟨lib.root.root, lib.root.parts ++ names⟩ : NormalPath).text := by
  have normalFile : NormalPath.IsNormal ⟨lib.root.root, lib.root.parts ++ names⟩ := by
    intro part mem
    rcases List.mem_append.1 mem with mem | mem
    · exact normal part mem
    · exact (isNames part mem).isPart
  obtain ⟨free, bytes, read⟩ := Disk.isFile_iff.1 isFile
  obtain ⟨free', bytes', read'⟩ := Disk.isFile_iff.1 isFile'
  obtain ⟨place, found⟩ := Disk.exists_stat_of_readBytes read
  obtain ⟨place', found'⟩ := Disk.exists_stat_of_readBytes read'
  obtain ⟨sameStart, sameNames⟩ := lib.namesOf_fileOf isNames
  have same : disk.stat (lib.fileOf (names.map String.ofList)) =
      disk.stat (⟨lib.root.root, lib.root.parts ++ names⟩ : NormalPath).text := by
    refine Disk.stat_eq_of_walkFrom found' found (fun spot walked => ?_)
      (fun spot => normalFile.walkFrom_of_walk)
    obtain ⟨-, walked⟩ := Disk.walkFrom_of_walk walked
    have start : disk.startOf (lib.fileOf (names.map String.ofList)) = lib.root.start disk := by
      rw [← NormalPath.startOf_text normal, Disk.startOf, Disk.startOf, sameStart, NormalPath.text,
        String.toList_ofList]
    rw [sameNames, NormalPath.walkFrom_chars normal, start] at walked
    exact ⟨_, walked⟩
  rw [Disk.readBytes, same, ← Disk.readBytes, read] at read'
  cases read'
  exact Disk.readText_congr free' free (by rw [Disk.readBytes, same, ← Disk.readBytes, read]) read encoding

end Library

end Template

namespace Generator

/-! ### The file of a copy -/

/-- The text that is copied from a file: it is rendered if it is a template, and else read. -/
def textOf (encoding : String) (disk : Disk) (file source : String) (context : Value) :
    Except Fault String :=
  if isTemplate source then do
    let entries ← entriesOf context
    Library.renderFile disk file (.dict entries)
  else disk.readText encoding file

section Source

variable {settings : Settings} {name source : String} {context : Value} {w : World}

/-- The folder of a generator is in the root. -/
theorem folder_eq (isName : IsName name.toList) :
    (standard settings World.site).shelf.folder (.str name) =
      ⟨settings.templatesPath.root, settings.templatesPath.parts ++ [name.toList]⟩ := by
  have relative : name.toList.head? ≠ some '/' :=
    fun slash => isName.slashless (List.mem_of_mem_head? slash)
  have parts : NormalPath.partsOf name.toList = [name.toList] := by
    rw [NormalPath.partsOf, Text.splitOn_of_notMem isName.slashless]
    exact Template.filter_parts (by simpa using isName)
  rw [Shelf.folder, Value.display, NormalPath.appendText, NormalPath.ofString,
    NormalPath.ofChars_of_relative relative, parts]
  rfl

/-- A relative source is a path that goes on from the folder. -/
theorem appendText_of_relative (folder : NormalPath) (relative : source.toList.head? ≠ some '/') :
    folder.appendText source = ⟨folder.root, folder.parts ++ NormalPath.partsOf source.toList⟩ := by
  rw [NormalPath.appendText, NormalPath.ofString, NormalPath.ofChars_of_relative relative]
  rfl

/-- The source of a template names something. -/
theorem partsOf_ne_nil (template : isTemplate source = true) : NormalPath.partsOf source.toList ≠ [] := by
  intro none
  have ends : Template.templateSuffix.toList <:+ source.toList := by
    rw [isTemplate, Text.stripPrefix?_isSome_iff, List.reverse_prefix] at template
    exact template
  have letter : 'j' ∈ joinWith ['/'] (splitOn '/' source.toList) := by
    rw [Text.joinWith_splitOn]
    exact ends.subset (by decide)
  rcases Text.mem_joinWith letter with isSlash | ⟨piece, isPiece, mem⟩
  · cases List.mem_singleton.1 isSlash
  · have unnamed := List.filter_eq_nil_iff.1 none piece isPiece
    rw [Bool.and_eq_true, decide_eq_true_eq, decide_eq_true_eq] at unnamed
    apply unnamed
    constructor
    · rintro rfl
      cases mem
    · rintro rfl
      cases List.mem_singleton.1 mem

/-- A template that is rendered is the root or below it. -/
theorem renderedCopy_source {disk : Disk} {file : NormalPath} {text : String}
    (normal : settings.templatesPath.IsNormal) (normalFile : file.IsNormal)
    (isFile : disk.isFile file.text = true)
    (rendered : (standard settings World.site).renderedCopy disk file context = .ok text) :
    (∃ names, (∀ name ∈ names, IsName name) ∧
      file = ⟨settings.templatesPath.root, settings.templatesPath.parts ++ names⟩) ∧
      ∃ entries, entriesOf context = .ok entries ∧
        Library.renderFile disk file.text (.dict entries) = .ok text := by
  unfold renderedCopy at rendered
  cases isLeft : file.relativeTo? (standard settings World.site).library.root with
  | none =>
      rw [isLeft] at rendered
      cases rendered
  | some relative =>
      rw [isLeft] at rendered
      obtain ⟨names, rfl, rfl⟩ := NormalPath.relativeTo?_eq_some isLeft
      cases taken : entriesOf context with
      | error fault =>
          rw [taken] at rendered
          cases rendered
      | ok entries =>
          rw [taken] at rendered
          have normalNames : NormalPath.IsNormal ⟨.relative, names⟩ :=
            fun part mem => normalFile part (List.mem_append_right _ mem)
          obtain ⟨isNames, isFile', rendered⟩ := Library.renderFile_of_renderPath normalNames rendered
          refine ⟨⟨names, isNames, rfl⟩, entries, rfl, ?_⟩
          have same := Library.readText_fileOf normal isNames isFile isFile' "utf-8"
          rw [Library.renderFile, same] at rendered
          exact rendered

/-- A text that is copied is that of a file. -/
theorem textOf_of_copiedText {file : NormalPath} {text : String}
    (normal : settings.templatesPath.IsNormal) (normalFile : file.IsNormal)
    (isSource : (standard settings World.site).sourceOf (.str name) (.str source) = .ok file)
    (isText : (standard settings World.site).copiedText (.str name) (.str source) context w = .ok text) :
    w.disk.isFile file.text = true ∧
      textOf settings.encoding w.disk file.text source context = .ok text ∧
      (isTemplate source = true → ∃ names, (∀ name ∈ names, IsName name) ∧
        file = ⟨settings.templatesPath.root, settings.templatesPath.parts ++ names⟩) := by
  unfold copiedText at isText
  simp only [isSource, bind, Except.bind] at isText
  split at isText
  · cases isText
  · rename_i found probed
    have isFound : w.disk.isFile file.text = found := Shelf.isFile_of_ok probed
    split at isText
    · rename_i isThere
      by_cases template : isTemplate (Value.str source).display = true
      · rw [if_pos template] at isText
        obtain ⟨below, entries, taken, rendered⟩ :=
          renderedCopy_source normal normalFile (isFound.trans isThere) isText
        refine ⟨isFound.trans isThere, ?_, fun _ => below⟩
        have isTemplate : isTemplate source = true := template
        rw [textOf, if_pos isTemplate, taken]
        exact rendered
      · rw [if_neg template] at isText
        have plain : ¬isTemplate source = true := template
        refine ⟨isFound.trans isThere, ?_, fun isTemplate => absurd isTemplate plain⟩
        rw [textOf, if_neg plain]
        exact isText
    · cases isText

/-- A relative source stays below the folder just if it has a part and none leads upwards. -/
theorem isBelow_appendText_iff (folder : NormalPath) (relative : source.toList.head? ≠ some '/') :
    (folder.appendText source).IsBelow folder ↔ NormalPath.partsOf source.toList ≠ [] ∧
      ['.', '.'] ∉ NormalPath.partsOf source.toList := by
  rw [appendText_of_relative folder relative]
  constructor
  · rintro ⟨names, nonempty, isNames, same⟩
    have isWhole : NormalPath.partsOf source.toList = names :=
      List.append_cancel_left (congrArg NormalPath.parts same)
    rw [isWhole]
    exact ⟨nonempty, fun up => (isNames _ up).notDots rfl⟩
  · rintro ⟨nonempty, down⟩
    refine ⟨_, nonempty, fun part mem => ?_, rfl⟩
    obtain ⟨notEmpty, notDot, slashless⟩ := NormalPath.isNormal_partsOf .relative source.toList part mem
    exact ⟨notEmpty, notDot, fun dots => down (dots ▸ mem), slashless⟩

/-- A template that stays below the root is below its folder, if it is named by a relative source. -/
theorem isBelow_of_template {root folder : NormalPath} {name : List Char} {names : List (List Char)}
    (isFolder : folder = ⟨root.root, root.parts ++ [name]⟩) (isNames : ∀ name ∈ names, IsName name)
    (isFile : folder.appendText source = ⟨root.root, root.parts ++ names⟩)
    (template : isTemplate source = true) (relative : source.toList.head? ≠ some '/') :
    (folder.appendText source).IsBelow folder := by
  rw [isBelow_appendText_iff folder relative]
  refine ⟨partsOf_ne_nil template, fun up => ?_⟩
  rw [appendText_of_relative folder relative, isFolder] at isFile
  have parts := congrArg NormalPath.parts isFile
  simp only [List.append_assoc] at parts
  have isWhole := List.append_cancel_left parts
  exact (isNames ['.', '.'] (isWhole ▸ List.mem_append_right _ up)).notDots rfl

/-- A copy holds what is made of the file that its path leads to. That file lies below every folder from
    which the path goes on by names; a relative source goes on so from the folder of the generator just if it
    has a part and none leads upwards. A template is copied only if its relative source goes on so, and only
    from the root or below it. A source that is no file, and a template from elsewhere, are refused and leave
    the world as it is. -/
theorem copied_source [Host] (normal : settings.templatesPath.IsNormal) (isName : IsName name.toList)
    (source : String) (destination context : Value) (w : World) :
    let g := standard settings World.site
    let folder := g.shelf.folder (.str name)
    let file := folder.appendText source
    (∀ path w', g.copy (.str name) (.str source) destination context w = (.ok path, w') →
      ∃ place bytes text, w.disk.stat file.text = .ok (place, .file bytes) ∧
        textOf settings.encoding w.disk file.text source context = .ok text ∧
        w'.disk = (w.disk.writeText settings.encoding path (.str text)).2 ∧
        (∀ top, file.IsBelow top → w.disk.LiesBelow place top) ∧
        (isTemplate source = true →
          (source.toList.head? ≠ some '/' → file.IsBelow folder) ∧
          (file = settings.templatesPath ∨ file.IsBelow settings.templatesPath))) ∧
    (source.toList.head? ≠ some '/' →
      (file.IsBelow folder ↔ NormalPath.partsOf source.toList ≠ [] ∧
        ['.', '.'] ∉ NormalPath.partsOf source.toList)) ∧
    (w.disk.isFile file.text = false ∨ isTemplate source = true ∧
        (source.toList.head? ≠ some '/' ∧ ¬file.IsBelow folder ∨
          file ≠ settings.templatesPath ∧ ¬file.IsBelow settings.templatesPath) →
      ∃ fault, g.copy (.str name) (.str source) destination context w = (.error fault, w)) := by
  intro g folder file
  have isFolder : folder = ⟨settings.templatesPath.root, settings.templatesPath.parts ++ [name.toList]⟩ :=
    folder_eq isName
  have normalFile : file.IsNormal := by
    apply NormalPath.IsNormal.appendText
    rw [isFolder]
    exact normal.concat isName.isPart
  have limits : isTemplate source = true → (∃ names, (∀ name ∈ names, IsName name) ∧
        file = ⟨settings.templatesPath.root, settings.templatesPath.parts ++ names⟩) →
      (source.toList.head? ≠ some '/' → file.IsBelow folder) ∧
        (file = settings.templatesPath ∨ file.IsBelow settings.templatesPath) := by
    rintro template ⟨names, isNames, isFile⟩
    refine ⟨isBelow_of_template isFolder isNames isFile template, ?_⟩
    by_cases none : names = []
    · left
      rw [isFile, none, List.append_nil]
    · exact Or.inr ⟨names, none, isNames, isFile⟩
  refine ⟨?_, isBelow_appendText_iff folder, ?_⟩
  · intro path w' copied
    rw [copy_eq] at copied
    obtain ⟨rfl, text, w₁, isText, wrote, told⟩ := text_of_finishCopy copied
    obtain ⟨line, rfl⟩ := tell_of_report told
    obtain ⟨isThere, isTextOf, below⟩ := textOf_of_copiedText normal normalFile rfl isText
    obtain ⟨-, bytes, read⟩ := Disk.isFile_iff.1 isThere
    obtain ⟨place, found⟩ := Disk.exists_stat_of_readBytes read
    refine ⟨place, bytes, text, found, isTextOf, (writeText_of_write wrote).2, ?_,
      fun template => limits template (below template)⟩
    rintro top ⟨names, nonempty, isNames, isFile⟩
    rw [isFile] at found normalFile
    exact Disk.liesBelow_of_stat normalFile nonempty (fun up => (isNames _ up).notDots rfl) found
  · intro refused
    rw [copy_eq]
    cases isText : g.copiedText (.str name) (.str source) context w with
    | error fault => exact ⟨fault, rfl⟩
    | ok text =>
        obtain ⟨isThere, -, below⟩ := textOf_of_copiedText normal normalFile rfl isText
        rcases refused with noFile | ⟨template, outside⟩
        · exact absurd (isThere.symm.trans noFile) (by decide)
        · obtain ⟨inFolder, inRoot⟩ := limits template (below template)
          rcases outside with ⟨relative, outside⟩ | ⟨elsewhere, outside⟩
          · exact absurd (inFolder relative) outside
          · exact absurd (inRoot.resolve_left elsewhere) outside

end Source

/-- A template in the folder of a generator, and a file that no generator has. -/
def worldWithSecret : World :=
  ⟨⟨["home"], [(["home"], .folder), (["secret.txt"], .file [0x53]), (["templates"], .folder),
    (["templates", "view"], .folder), (["templates", "view", "page.j2"], .file [0x54])]⟩, ""⟩

/-- The template is rendered out of the folder, and a template above the folder is refused. -/
theorem copied_source_of_page :
    (∃ w' place, fileGenerator.copy (.str "view") (.str "page.j2") (.str "o.txt") .null worldWithSecret =
        (.ok "o.txt", w') ∧ worldWithSecret.disk.LiesBelow place (.ofString "/templates/view") ∧
      w'.disk.readBytes "o.txt" = .ok [0x54]) ∧
    ∃ fault, fileGenerator.copy (.str "view") (.str "../../page.j2") (.str "o.txt") .null worldWithSecret =
      (.error fault, worldWithSecret) := by
  have normal : (Settings.default (.ofString "/templates")).templatesPath.IsNormal :=
    NormalPath.isNormal_ofString "/templates"
  have isName : IsName "view".toList := by constructor <;> decide
  have isFolder : fileGenerator.shelf.folder (.str "view") = .ofString "/templates/view" := by
    decide
  constructor
  · obtain ⟨w', copied, isDisk⟩ := exists_copy worldWithSecret "page.j2" "T" (by decide +kernel)
      (by decide)
    obtain ⟨uses, -, -⟩ := copied_source normal isName "page.j2" (.str "o.txt") .null worldWithSecret
    obtain ⟨place, bytes, text, -, -, -, below, inside⟩ := uses _ _ copied
    have inFolder := below _ ((inside (by decide)).1 (by decide))
    refine ⟨w', place, copied, isFolder ▸ inFolder, ?_⟩
    rw [isDisk]
    decide
  · obtain ⟨-, staysBelow, refuses⟩ :=
      copied_source normal isName "../../page.j2" (.str "o.txt") .null worldWithSecret
    have relative : "../../page.j2".toList.head? ≠ some '/' := by decide
    refine refuses (Or.inr ⟨by decide, Or.inl ⟨relative, fun below => ?_⟩⟩)
    exact ((staysBelow relative).1 below).2 (by decide)

/-- A file that is no template is copied from wherever its source leads. -/
theorem copy_leaves_folder :
    ¬∀ (settings : Settings) (name source : String) (destination context : Value) (w w' : World)
      (path : String) (place : Place) (node : Node),
      settings.templatesPath.IsNormal → IsName name.toList →
      w.disk.stat (((standard settings World.site).shelf.folder (.str name)).appendText source).text =
        .ok (place, node) →
      (standard settings World.site).copy (.str name) (.str source) destination context w =
        (.ok path, w') →
      w.disk.LiesBelow place ((standard settings World.site).shelf.folder (.str name)) := by
  intro staysBelow
  obtain ⟨w', copied, -⟩ := exists_copy worldWithSecret "../../secret.txt" "S" (by decide)
    (by decide)
  have found : (worldWithSecret.disk.stat
      ((fileGenerator.shelf.folder (.str "view")).appendText "../../secret.txt").text).toOption =
        some (["secret.txt"], .file [0x53]) := by decide
  have isFolder : (worldWithSecret.disk.stat (fileGenerator.shelf.folder (.str "view")).text).toOption =
      some (["templates", "view"], .folder) := by decide
  have isName : IsName "view".toList := by constructor <;> decide
  obtain ⟨top, names, isTop, -, isPlace⟩ := staysBelow _ _ _ _ _ _ _ _ _ _
    (NormalPath.isNormal_ofString "/templates") isName (eq_ok_of_toOption found) copied
  have same : some (top, Node.folder) = some (["templates", "view"], .folder) := by
    rw [← isFolder]
    exact (congrArg Except.toOption isTop).symm
  cases same
  exact absurd (List.cons.inj isPlace).1 (by decide)

end Generator

end LayeredFiles
