import LayeredFiles.Chain.Name
import LayeredFiles.Proofs.Path
import LayeredFiles.Proofs.Text.Split
import Mathlib.Data.List.TakeDrop
import Mathlib.Data.List.TakeWhile
/-
Module: LayeredFiles.Proofs.Chain.Name
Layer: Proofs
Purpose: reading a chain out of a path and naming the files of its stages never drift apart. What was read
  out of a path is well formed: the base has no chain of its own and is its folder joined with its file
  name, and no template holds a dot or a slash. Of a well-formed name every stage's path reads back as the
  same base with the templates still pending; so the paths of the stages differ from one another and from
  the path that the chain was read from.
Main exports: ChainName.WellFormed, ChainName.wellFormed_parse, ChainName.WellFormed.parse_stagePath,
  ChainName.stagePath_decodes_to_pending, ChainName.WellFormed.fileName_stagePath_inj,
  ChainName.stagePath_ne_of_hasChain
-/

namespace LayeredFiles

open Text LayeredFiles.Path

/-! ### Pending templates -/

/-- Behind the stage `index` all templates from the next one on are pending. -/
theorem pending_eq_drop {α : Type} (templates : List α) {index : Int} (inRange : -1 ≤ index) :
    pending templates index = templates.drop (index + 1).toNat := by
  have notNegative : ¬ index + 1 < 0 := by omega
  simp [pending, notNegative]

theorem pending_subset {α : Type} {templates : List α} {index : Int} {template : α}
    (mem : template ∈ pending templates index) : template ∈ templates :=
  List.mem_of_mem_drop mem

@[simp] theorem pending_nil {α : Type} (index : Int) : pending ([] : List α) index = [] := by
  simp [pending]

/-- Without pending templates the base itself is written. -/
theorem stagePath_of_pending_nil {base : String} {templates : List String} {index : Int}
    (done : pending templates index = []) : stagePath base templates index = base := by
  simp [stagePath, done]

/-- With pending templates the file name of the base carries them. -/
theorem stagePath_of_pending_ne_nil {base : String} {templates : List String} {index : Int}
    (more : pending templates index ≠ []) : stagePath base templates index =
      Path.join (Path.folder base) (Path.fileName base ++ decorators (pending templates index)) := by
  cases rest : pending templates index with
  | nil => exact absurd rest more
  | cons template rest' => simp [stagePath, rest]

/-! ### The chain in a file name -/

/-- The characters that carry some templates, given innermost first. -/
def chainChars (templates : List String) : List Char :=
  templates.reverse.flatMap (fun template => '.' :: '_' :: template.toList)

theorem toList_decorators (templates : List String) :
    (decorators templates).toList = chainChars templates := by
  have decorated : ∀ template : String,
      ("._" ++ template).toList = '.' :: '_' :: template.toList := by
    intro template
    simp
  rw [decorators, chainChars, String.toList_join, List.flatMap_map]
  simp only [decorated]

/-- A template name that stands for one segment of a file name. -/
def IsSegment (template : String) : Prop := '.' ∉ template.toList ∧ '/' ∉ template.toList

theorem slash_notMem_chainChars {templates : List String}
    (segments : ∀ template ∈ templates, IsSegment template) : '/' ∉ chainChars templates := by
  intro mem
  obtain ⟨template, isTemplate, mem⟩ := List.mem_flatMap.1 mem
  have free : '/' ∉ template.toList := (segments template (List.mem_reverse.1 isTemplate)).2
  simp [free] at mem

/-- Every decorator is a segment of its own, behind the segments of the name in front. -/
theorem splitOn_append_decorators (templates : List String) (name : List Char)
    (segments : ∀ template ∈ templates, IsSegment template) :
    splitOn '.' (name ++ templates.flatMap (fun template => '.' :: '_' :: template.toList)) =
      splitOn '.' name ++ templates.map (fun template => '_' :: template.toList) := by
  induction templates generalizing name with
  | nil => simp
  | cons template rest ih =>
      have free : '.' ∉ '_' :: template.toList := by
        simpa using (segments template (by simp)).1
      have rest' := ih ('_' :: template.toList)
        (fun other mem => segments other (List.mem_cons_of_mem _ mem))
      rw [splitOn_of_notMem free] at rest'
      rw [List.flatMap_cons, List.cons_append, splitOn_append_cons, rest', List.map_cons,
        List.singleton_append]

@[simp] theorem templateOf_underscore (name : List Char) : templateOf ('_' :: name) = name := rfl

/-- The name of a template is its segment or a part of it. -/
theorem mem_of_mem_templateOf {segment : List Char} {c : Char} (mem : c ∈ templateOf segment) :
    c ∈ segment := by
  unfold templateOf at mem
  split at mem
  · exact List.mem_cons_of_mem _ mem
  · exact mem

namespace ChainName

/-- No segment of a file name starts a chain. -/
def IsPlain (name : List Char) : Prop := ∀ segment ∈ splitOn '.' name, startsChain segment = false

theorem cut_eq (name : List Char) :
    cut name = ((splitOn '.' name).takeWhile (fun segment => !startsChain segment),
      (splitOn '.' name).dropWhile (fun segment => !startsChain segment)) :=
  List.span_eq_takeWhile_dropWhile _ _

/-- Cutting loses no segment. -/
theorem splitOn_eq_of_cut {name : List Char} {plain chain : List (List Char)}
    (found : cut name = (plain, chain)) : splitOn '.' name = plain ++ chain := by
  rw [cut_eq, Prod.mk.injEq] at found
  rw [← found.1, ← found.2, List.takeWhile_append_dropWhile]

/-- No segment in front of the chain starts one. -/
theorem not_startsChain_of_cut {name : List Char} {plain chain : List (List Char)}
    (found : cut name = (plain, chain)) : ∀ segment ∈ plain, startsChain segment = false := by
  rw [cut_eq, Prod.mk.injEq] at found
  intro segment mem
  rw [← found.1] at mem
  simpa using List.mem_takeWhile_imp mem

/-- A path with a chain has a first segment that starts it. -/
theorem exists_cut_of_hasChain {path : String} (chained : (parse path).hasChain = true) :
    ∃ plain first rest, cut (fileNameChars path.toList) = (plain, first :: rest) := by
  cases found : cut (fileNameChars path.toList) with
  | mk plain chain =>
      cases chain with
      | nil => simp [parse, found, hasChain] at chained
      | cons first rest => exact ⟨plain, first, rest, rfl⟩

/-- Without a segment that starts a chain nothing is cut off. -/
theorem cut_of_isPlain {name : List Char} (isPlain : IsPlain name) :
    cut name = (splitOn '.' name, []) := by
  have passes : ∀ segment ∈ splitOn '.' name, (!startsChain segment) = true := by
    intro segment mem
    simp [isPlain segment mem]
  rw [cut_eq, List.takeWhile_eq_self_iff.2 passes,
    List.dropWhile_eq_nil_iff.2 passes]

/-- The segments in front of a chain, and the segments of the chain from its start on. -/
theorem cut_append_chainChars {name : List Char} {templates : List String} (isPlain : IsPlain name)
    (segments : ∀ template ∈ templates, IsSegment template) :
    cut (name ++ chainChars templates) =
      (splitOn '.' name, templates.reverse.map (fun template => '_' :: template.toList)) := by
  have passes : ∀ segment ∈ splitOn '.' name, (!startsChain segment) = true := by
    intro segment mem
    simp [isPlain segment mem]
  have pieces := splitOn_append_decorators templates.reverse name
    (fun template mem => segments template (List.mem_reverse.1 mem))
  rw [cut_eq, chainChars, pieces, List.takeWhile_append_of_pos passes,
    List.dropWhile_append_of_pos passes]
  cases templates.reverse with
  | nil => simp
  | cons template rest => simp [startsChain]

/-- A path whose file name is plain is its own base. -/
theorem parse_of_isPlain {path : String} (isPlain : IsPlain (fileNameChars path.toList)) :
    parse path = ⟨path, []⟩ := by
  simp [parse, cut_of_isPlain isPlain]

/-- A chain behind a plain name is read back, and so are folder and name as the base. -/
theorem parse_joinChars {folder name : List Char} {templates : List String}
    (isFolder : IsFolder folder) (free : '/' ∉ name) (isPlain : IsPlain name)
    (nonempty : templates ≠ []) (segments : ∀ template ∈ templates, IsSegment template) :
    parse (String.ofList (joinChars folder (name ++ chainChars templates))) =
      ⟨String.ofList (joinChars folder name), templates⟩ := by
  have freeAll : '/' ∉ name ++ chainChars templates := by
    simp [free, slash_notMem_chainChars segments]
  have readBack : (templates.map (fun template => String.ofList template.toList)) = templates := by
    simp
  simp only [parse, String.toList_ofList, fileNameChars_joinChars freeAll,
    folderChars_joinChars isFolder freeAll, cut_append_chainChars isPlain segments]
  cases chain : templates.reverse with
  | nil => exact absurd (List.reverse_eq_nil_iff.1 chain) nonempty
  | cons template rest =>
      have whole : (template :: rest).reverse = templates := by rw [← chain, List.reverse_reverse]
      rw [← whole]
      simp [joinWith_splitOn, Function.comp_def]

/-! ### Well-formed names -/

/-- What reading a chain out of a path guarantees. -/
structure WellFormed (name : ChainName) : Prop where
  /-- The base carries no chain. -/
  plain : IsPlain (fileNameChars name.base.toList)
  /-- The base is its folder joined with its file name. -/
  whole : joinChars (folderChars name.base.toList) (fileNameChars name.base.toList) =
    name.base.toList
  /-- Every template is a segment. -/
  segments : ∀ template ∈ name.templates, IsSegment template

/-- The file name of the segments in front of the chain is plain: it has the same segments, or is empty
    if there are none. -/
theorem isPlain_joinWith {segments : List (List Char)} (free : ∀ segment ∈ segments, '.' ∉ segment)
    (plain : ∀ segment ∈ segments, startsChain segment = false) :
    IsPlain (joinWith ['.'] segments) := by
  cases segments with
  | nil => simp [IsPlain, joinWith, splitOn, startsChain]
  | cons segment rest =>
      intro other mem
      rw [splitOn_joinWith (by simp) free] at mem
      exact plain other mem

/-- What is read out of a path with a chain is well formed. -/
theorem wellFormed_parse {path : String} (chained : (parse path).hasChain = true) :
    (parse path).WellFormed := by
  obtain ⟨plain, first, rest, found⟩ := exists_cut_of_hasChain chained
  have split := splitOn_eq_of_cut found
  -- Every segment lies in a file name between two dots, so it has neither a dot nor a slash.
  have noDot : ∀ segment ∈ plain ++ first :: rest, '.' ∉ segment := by
    intro segment mem
    exact separator_notMem_of_mem_splitOn (split ▸ mem)
  have noSlash : ∀ segment ∈ plain ++ first :: rest, '/' ∉ segment := by
    intro segment mem inSegment
    exact slash_notMem_fileNameChars path.toList (mem_of_mem_splitOn (split ▸ mem) inSegment)
  have nameFree : '/' ∉ joinWith ['.'] plain := by
    intro mem
    rcases mem_joinWith mem with mem | ⟨segment, isSegment, mem⟩
    · simp at mem
    · exact noSlash segment (List.mem_append_left _ isSegment) mem
  have base : (parse path).base.toList =
      joinChars (folderChars path.toList) (joinWith ['.'] plain) := by
    simp [parse, found]
  have name : fileNameChars (parse path).base.toList = joinWith ['.'] plain := by
    rw [base, fileNameChars_joinChars nameFree]
  refine ⟨?_, ?_, ?_⟩
  · rw [name]
    exact isPlain_joinWith (fun segment mem => noDot segment (List.mem_append_left _ mem))
      (not_startsChain_of_cut found)
  · rw [name, base, folderChars_joinChars (isFolder_folderChars _) nameFree]
  · intro template mem
    simp only [parse, found, List.mem_reverse, List.mem_map] at mem
    obtain ⟨segment, isSegment, rfl⟩ := mem
    have inName : segment ∈ plain ++ first :: rest := List.mem_append_right _ isSegment
    simp only [IsSegment, String.toList_ofList]
    exact ⟨fun dot => noDot segment inName (mem_of_mem_templateOf dot),
      fun slash => noSlash segment inName (mem_of_mem_templateOf slash)⟩

/-- A path without a chain is its own base. -/
theorem parse_of_not_hasChain {path : String} (unchained : (parse path).hasChain = false) :
    parse path = ⟨path, []⟩ := by
  cases found : cut (fileNameChars path.toList) with
  | mk plain chain =>
      cases chain with
      | nil => simp [parse, found]
      | cons first rest => simp [parse, found, hasChain] at unchained

namespace WellFormed

variable {name : ChainName}

theorem base_eq_join (wellFormed : name.WellFormed) :
    Path.join (Path.folder name.base) (Path.fileName name.base) = name.base := by
  simp [Path.join, Path.folder, Path.fileName, wellFormed.whole]

/-- The path of a stage reads back as the same base with the templates that are pending behind it. -/
theorem parse_stagePath (wellFormed : name.WellFormed) (index : Int) :
    parse (stagePath name.base name.templates index) =
      ⟨name.base, pending name.templates index⟩ := by
  by_cases done : pending name.templates index = []
  · rw [stagePath_of_pending_nil done, done]
    exact parse_of_isPlain wellFormed.plain
  · rw [stagePath_of_pending_ne_nil done]
    simp only [Path.join, Path.folder, Path.fileName, String.toList_append, String.toList_ofList,
      toList_decorators]
    rw [parse_joinChars (isFolder_folderChars _) (slash_notMem_fileNameChars _) wellFormed.plain done
      (fun template mem => wellFormed.segments template (pending_subset mem)), wellFormed.whole,
      String.ofList_toList]

/-- A stage writes into the folder of the base. -/
theorem stagePath_eq_join (wellFormed : name.WellFormed) (index : Int) :
    stagePath name.base name.templates index = Path.join (Path.folder name.base)
      (Path.fileName (stagePath name.base name.templates index)) := by
  by_cases done : pending name.templates index = []
  · rw [stagePath_of_pending_nil done, wellFormed.base_eq_join]
  · have segments : ∀ template ∈ pending name.templates index, IsSegment template :=
      fun template mem => wellFormed.segments template (pending_subset mem)
    have free : '/' ∉ fileNameChars name.base.toList ++
        chainChars (pending name.templates index) := by
      simp [slash_notMem_fileNameChars, slash_notMem_chainChars segments]
    rw [stagePath_of_pending_ne_nil done]
    simp only [Path.join, Path.folder, Path.fileName, String.toList_append, String.toList_ofList,
      toList_decorators, fileNameChars_joinChars free]

/-- The stages of a chain write files of different names. -/
theorem fileName_stagePath_inj (wellFormed : name.WellFormed) {i j : Nat}
    (iInRange : i < name.templates.length) (jInRange : j < name.templates.length)
    (same : Path.fileName (stagePath name.base name.templates i) =
      Path.fileName (stagePath name.base name.templates j)) : i = j := by
  -- The folder is the same for all stages, and what is read back tells how many are pending.
  have samePath : stagePath name.base name.templates i = stagePath name.base name.templates j := by
    rw [wellFormed.stagePath_eq_join i, same, ← wellFormed.stagePath_eq_join j]
  have samePending : pending name.templates (i : Int) = pending name.templates (j : Int) := by
    have := congrArg ChainName.templates (congrArg parse samePath)
    simpa [wellFormed.parse_stagePath] using this
  have sameLength := congrArg List.length samePending
  rw [pending_eq_drop _ (by omega), pending_eq_drop _ (by omega), List.length_drop,
    List.length_drop] at sameLength
  omega

end WellFormed

/-- No stage writes the path that its chain was read from: fewer templates are pending there. -/
theorem stagePath_ne_of_hasChain {path : String} (chained : (parse path).hasChain = true) (i : Nat) :
    stagePath (parse path).base (parse path).templates i ≠ path := by
  intro same
  have readBack := (wellFormed_parse chained).parse_stagePath i
  rw [same, pending_eq_drop _ (by omega)] at readBack
  have sameLength := congrArg List.length (congrArg ChainName.templates readBack)
  have nonempty : (parse path).templates ≠ [] := by
    simpa [hasChain] using chained
  have positive := List.length_pos_iff.2 nonempty
  simp only [List.length_drop] at sameLength
  omega

theorem hasChain_of_parse {path base : String} {templates : List String}
    (parsed : parse path = ⟨base, templates⟩) (nonempty : templates ≠ []) :
    (parse path).hasChain = true := by
  simpa [parsed, hasChain] using nonempty

theorem wellFormed_of_parse {path base : String} {templates : List String}
    (parsed : parse path = ⟨base, templates⟩) (nonempty : templates ≠ []) :
    WellFormed ⟨base, templates⟩ :=
  parsed ▸ wellFormed_parse (hasChain_of_parse parsed nonempty)

/-- The file of a stage has the chain that is left behind it. -/
theorem parse_stagePath_of_parse {path base : String} {templates : List String}
    (parsed : parse path = ⟨base, templates⟩) (nonempty : templates ≠ []) (k : Nat) :
    parse (stagePath base templates k) = ⟨base, templates.drop (k + 1)⟩ := by
  rw [(wellFormed_of_parse parsed nonempty).parse_stagePath k, pending_eq_drop _ (by omega)]
  rfl

/-- For every path, the path of the stage `index` of its chain reads back as the same base with the
    templates behind that stage. It has a chain of its own just if the stage is not the last. -/
theorem stagePath_decodes_to_pending (path : String) (index : Int) (inRange : -1 ≤ index) :
    parse (stagePath (parse path).base (parse path).templates index) =
        ⟨(parse path).base, (parse path).templates.drop (index + 1).toNat⟩ ∧
      ((parse (stagePath (parse path).base (parse path).templates index)).hasChain = true ↔
        index + 1 < (parse path).templates.length) := by
  have readBack : parse (stagePath (parse path).base (parse path).templates index) =
      ⟨(parse path).base, (parse path).templates.drop (index + 1).toNat⟩ := by
    rw [← pending_eq_drop _ inRange]
    cases chained : (parse path).hasChain with
    | true => exact (wellFormed_parse chained).parse_stagePath index
    | false =>
        rw [parse_of_not_hasChain chained, pending_nil, stagePath_of_pending_nil (pending_nil index),
          parse_of_not_hasChain chained]
  refine ⟨readBack, ?_⟩
  rw [readBack]
  simp only [hasChain, Bool.not_eq_true', List.isEmpty_eq_false_iff, ne_eq, List.drop_eq_nil_iff]
  omega

/-- A name that is empty in front of its chain, with an empty template, one that starts with an
    underscore and one without a mark. -/
theorem stagePath_of_nameless_base :
    parse (stagePath "out/" ["", "_r", "q", "p"] 1) = ⟨"out/", ["q", "p"]⟩ := by
  have parsed : parse "out//._p.q.__r._" = ⟨"out/", ["", "_r", "q", "p"]⟩ := by decide
  have readBack := (stagePath_decodes_to_pending "out//._p.q.__r._" 1 (by decide)).1
  rw [parsed] at readBack
  exact readBack

end ChainName

end LayeredFiles
