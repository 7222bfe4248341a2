import LayeredFiles.Proofs.Disk.Below
import LayeredFiles.Proofs.Template.Search
/-
Module: LayeredFiles.Proofs.Template.Listing
Layer: Proofs
Purpose: the list of the templates of chains. It is made from the names in one folder: the endings are taken
  off, and what is left is put in order, each once. Taking the endings off undoes their being put on, so the
  list tells of every identifier whether the folder has a file name for it. What the search finds in that
  folder lies in it, so it is on the list. Only a path that is too long keeps the list from being made.
Main exports: Template.Library.mem_sortedNames, Template.Library.pairwise_sortedNames,
  Template.Library.identifierOf?_eq_some_iff, Template.Library.HasPartial, Template.Library.partials_cases,
  Template.Library.hasPartial_of_find?, Template.Library.partials_agree
-/

namespace LayeredFiles.Template.Library

/-! ### Names in order -/

section Repetitions

variable {a b : String} {names : List String}

theorem eraseReps_loop (a : String) (names found : List String) :
    List.eraseRepsBy.loop (· == ·) a names found = found.reverse ++ (a :: names).eraseReps := by
  induction names generalizing a found with
  | nil => exact List.reverse_cons
  | cons b names ih =>
      rw [List.eraseReps, List.eraseRepsBy, List.eraseRepsBy.loop, List.eraseRepsBy.loop]
      cases a == b with
      | true =>
          simp only
          rw [ih a found, ih a []]
          rfl
      | false =>
          simp only
          rw [ih b (a :: found), ih b [a], List.reverse_cons, List.append_assoc]
          rfl

/-- A name is dropped if the next one is the same. -/
theorem eraseReps_cons_cons (a b : String) (names : List String) :
    (a :: b :: names).eraseReps =
      if a = b then (b :: names).eraseReps else a :: (b :: names).eraseReps := by
  rw [List.eraseReps, List.eraseRepsBy, List.eraseRepsBy.loop]
  by_cases same : a = b
  · rw [if_pos same, same, beq_self_eq_true]
    exact eraseReps_loop b names []
  · rw [if_neg same, beq_false_of_ne same]
    exact eraseReps_loop b names [a]

theorem mem_eraseReps : a ∈ names.eraseReps ↔ a ∈ names := by
  induction names with
  | nil => rfl
  | cons b names ih =>
      cases names with
      | nil => rfl
      | cons c names =>
          rw [eraseReps_cons_cons]
          split
          · rename_i same
            rw [ih, same, List.mem_cons, List.mem_cons]
            simp
          · rw [List.mem_cons, ih, ← List.mem_cons]

/-- Names in order that are listed once each are in strict order. -/
theorem pairwise_eraseReps (inOrder : names.Pairwise (· ≤ ·)) :
    names.eraseReps.Pairwise (· < ·) := by
  induction names with
  | nil => exact .nil
  | cons b names ih =>
      obtain ⟨least, inOrder⟩ := List.pairwise_cons.1 inOrder
      cases names with
      | nil => exact List.pairwise_singleton _ _
      | cons c names =>
          rw [eraseReps_cons_cons]
          split
          · exact ih inOrder
          · rename_i differs
            refine List.pairwise_cons.2 ⟨fun d mem => ?_, ih inOrder⟩
            have above : c ≤ d := by
              rcases List.mem_cons.1 (mem_eraseReps.1 mem) with rfl | mem
              · exact String.le_refl _
              · exact (List.pairwise_cons.1 inOrder).1 d mem
            by_contra notBelow
            have noLess : c ≤ b := String.le_trans above (String.not_lt.1 notBelow)
            exact differs (String.le_antisymm (least c List.mem_cons_self) noLess)

end Repetitions

theorem notAfter_iff {a b : String} : notAfter a b = true ↔ a ≤ b := by
  rw [notAfter, Bool.not_eq_true', decide_eq_false_iff_not, String.not_lt]

theorem mem_sortedNames {name : String} {names : List String} :
    name ∈ sortedNames names ↔ name ∈ names := by
  rw [sortedNames, mem_eraseReps, List.mem_mergeSort]

/-- The names are in strict order, so none is listed twice. -/
theorem pairwise_sortedNames (names : List String) : (sortedNames names).Pairwise (· < ·) := by
  have inOrder : (names.mergeSort notAfter).Pairwise (fun a b => notAfter a b = true) := by
    apply List.pairwise_mergeSort
    · intro a b c first second
      rw [notAfter_iff] at first second ⊢
      exact String.le_trans first second
    · intro a b
      rw [Bool.or_eq_true, notAfter_iff, notAfter_iff]
      exact String.le_total a b
  exact pairwise_eraseReps (inOrder.imp notAfter_iff.1)

/-! ### Endings of file names -/

/-- The identifier ends in `.html`. -/
def EndsAsPage (id : String) : Prop := ".html".toList <:+ id.toList

/-- An ending is taken off a text that has it. -/
theorem withoutEnd_append (ending s : List Char) : withoutEnd ending (s ++ ending) = s := by
  have stripped : Text.stripPrefix? ending.reverse (ending.reverse ++ s.reverse) = some s.reverse :=
    Text.stripPrefix?_eq_some_iff.2 rfl
  rw [withoutEnd, List.reverse_append, stripped]
  exact List.reverse_reverse s

theorem withoutEnd_of_not_suffix {ending s : List Char} (other : ¬ending <:+ s) :
    withoutEnd ending s = s := by
  unfold withoutEnd
  split
  · rename_i rest stripped
    have reversed := Text.stripPrefix?_eq_some_iff.1 stripped
    exact absurd (List.reverse_prefix.1 ⟨rest, reversed.symm⟩) other
  · rfl

theorem identifierOf?_append (stem : String) :
    identifierOf? (stem ++ ".j2") = some (String.ofList (withoutEnd ".html".toList stem.toList)) := by
  have stripped : Text.stripPrefix? templateSuffix.toList.reverse (stem ++ ".j2").toList.reverse =
      some stem.toList.reverse := by
    rw [Text.stripPrefix?_eq_some_iff, String.toList_append, List.reverse_append]
    rfl
  rw [identifierOf?, stripped]
  simp only [List.reverse_reverse]

theorem exists_of_identifierOf? {name id : String} (isId : identifierOf? name = some id) :
    ∃ stem, name = stem ++ ".j2" := by
  unfold identifierOf? at isId
  split at isId
  · rename_i rest stripped
    have reversed := congrArg List.reverse (Text.stripPrefix?_eq_some_iff.1 stripped)
    refine ⟨String.ofList rest.reverse, ?_⟩
    rw [← String.toList_inj, String.toList_append, String.toList_ofList]
    rw [List.reverse_reverse, List.reverse_append, List.reverse_reverse] at reversed
    exact reversed
  · cases isId

/-- A name stands for an identifier just if it is that identifier with one of the two endings; the shorter
    one counts only if the identifier does not look like a part of the longer one. -/
theorem identifierOf?_eq_some_iff {name id : String} :
    identifierOf? name = some id ↔
      name = id ++ ".html.j2" ∨ ¬EndsAsPage id ∧ name = id ++ ".j2" := by
  have page : id ++ ".html.j2" = id ++ ".html" ++ ".j2" := by
    rw [← String.toList_inj]
    simp
  constructor
  · intro isId
    obtain ⟨stem, rfl⟩ := exists_of_identifierOf? isId
    rw [identifierOf?_append, Option.some.injEq] at isId
    by_cases isPage : ".html".toList <:+ stem.toList
    · obtain ⟨body, isStem⟩ := isPage
      rw [← isStem, withoutEnd_append] at isId
      left
      rw [page, ← isId, ← String.toList_inj]
      simp [← isStem]
    · rw [withoutEnd_of_not_suffix isPage, String.ofList_toList] at isId
      subst isId
      exact Or.inr ⟨isPage, rfl⟩
  · rintro (rfl | ⟨noPage, rfl⟩)
    · rw [page, identifierOf?_append, String.toList_append, withoutEnd_append, String.ofList_toList]
    · rw [identifierOf?_append, withoutEnd_of_not_suffix noPage, String.ofList_toList]

/-! ### The list -/

/-- The names in a folder are told, unless its path is too long, and then nothing is in it. -/
theorem namesIn_cases (disk : Disk) (path : String) :
    (∃ entries, namesIn disk path = .ok entries ∧
        ∀ name, (∃ node, (name, node) ∈ entries) ↔ disk.HasEntry path name) ∨
      Disk.IsTooLong path ∧ (∀ name, ¬disk.HasEntry path name) ∧
        namesIn disk path = .error (Disk.faultOf path .nameTooLong) := by
  have nothing (noEntry : ∀ name, ¬disk.HasEntry path name) (name : String) :
      (∃ node, (name, node) ∈ ([] : List (String × Node))) ↔ disk.HasEntry path name :=
    iff_of_false (by simp) (noEntry name)
  fun_cases namesIn disk path with
  | case1 nul =>
      refine Or.inl ⟨[], rfl, nothing ?_⟩
      rintro name ⟨free, -⟩
      exact Bool.eq_false_iff.1 free nul
  | case2 free place isFolder =>
      refine Or.inl ⟨disk.names place, rfl, fun name => ?_⟩
      rw [Disk.exists_mem_names_iff]
      constructor
      · rintro ⟨node, found⟩
        exact ⟨Bool.eq_false_iff.2 free, place, node, isFolder, found⟩
      · rintro ⟨-, place', node, isFolder', found⟩
        rw [isFolder] at isFolder'
        cases isFolder'
        exact ⟨node, found⟩
  | case3 free stopped =>
      refine Or.inr ⟨Disk.isTooLong_of_stat stopped, ?_, rfl⟩
      rintro name ⟨-, place, node, isFolder, -⟩
      rw [stopped] at isFolder
      cases isFolder
  | case4 free noFolder =>
      refine Or.inl ⟨[], rfl, nothing ?_⟩
      rintro name ⟨-, place, node, isFolder, -⟩
      exact noFolder place isFolder

/-- The folder of the templates of chains has a file name for the identifier. Behind an identifier that ends
    in `.html` the shorter ending does not count: that name stands for what is in front of `.html`. -/
def HasPartial (lib : Library) (disk : Disk) (id : String) : Prop :=
  disk.HasEntry (lib.pathOf partialsFolder) (id ++ ".html.j2") ∨
    ¬EndsAsPage id ∧ disk.HasEntry (lib.pathOf partialsFolder) (id ++ ".j2")

theorem exists_identifierOf?_iff (lib : Library) (disk : Disk) (id : String) :
    (∃ name, disk.HasEntry (lib.pathOf partialsFolder) name ∧ identifierOf? name = some id) ↔
      lib.HasPartial disk id := by
  constructor
  · rintro ⟨name, isEntry, isId⟩
    rcases identifierOf?_eq_some_iff.1 isId with rfl | ⟨noPage, rfl⟩
    · exact Or.inl isEntry
    · exact Or.inr ⟨noPage, isEntry⟩
  · rintro (isEntry | ⟨noPage, isEntry⟩)
    · exact ⟨_, isEntry, identifierOf?_eq_some_iff.2 (Or.inl rfl)⟩
    · exact ⟨_, isEntry, identifierOf?_eq_some_iff.2 (Or.inr ⟨noPage, rfl⟩)⟩

/-- The list tells of every identifier whether the folder has a file name for it. -/
theorem partials_cases (lib : Library) (disk : Disk) :
    (∃ ids, lib.partials disk = .ok ids ∧ ids.Pairwise (· < ·) ∧
        ∀ id, id ∈ ids ↔ lib.HasPartial disk id) ∨
      Disk.IsTooLong (lib.pathOf partialsFolder) ∧ (∀ id, ¬lib.HasPartial disk id) ∧
        lib.partials disk = .error (Disk.faultOf (lib.pathOf partialsFolder) .nameTooLong) := by
  simp only [← exists_identifierOf?_iff]
  rcases namesIn_cases disk (lib.pathOf partialsFolder) with
    ⟨entries, told, holds⟩ | ⟨long, noEntry, failed⟩
  · left
    refine ⟨_, by rw [partials, told]; rfl, pairwise_sortedNames _, fun id => ?_⟩
    simp only [mem_sortedNames, List.mem_filterMap, ← holds]
    constructor
    · rintro ⟨⟨name, node⟩, mem, isId⟩
      exact ⟨name, ⟨node, mem⟩, isId⟩
    · rintro ⟨name, ⟨node, mem⟩, isId⟩
      exact ⟨⟨name, node⟩, mem, isId⟩
  · right
    refine ⟨long, ?_, by rw [partials, failed]; rfl⟩
    rintro id ⟨name, isEntry, -⟩
    exact noEntry name isEntry

/-! ### The list and the search -/

theorem pathOf_partialsFolder (lib : Library) :
    lib.pathOf partialsFolder = (lib.folderPath partialsName).text := by
  have isPath : NormalPath.ofString partialsFolder = ⟨.relative, [partialsName]⟩ := by decide
  rw [pathOf, NormalPath.appendText, isPath]
  rfl

variable {lib : Library} {disk : Disk}

/-- A file that is found in the folder is an entry of the folder. -/
theorem hasEntry_of_isFile (normal : lib.root.IsNormal) {file : List Char} (isName : IsName file)
    (isThere : disk.isFile (lib.pathOf (placeOf partialsName file)) = true) :
    disk.HasEntry (lib.pathOf partialsFolder) (String.ofList file) := by
  have isNormal : (lib.folderPath partialsName).IsNormal :=
    normal.concat isName_partialsName.isPart
  rw [pathOf_placeOf isName_partialsName isName] at isThere
  rw [pathOf_partialsFolder]
  exact Disk.hasEntry_of_isFile (folderPath_ne_here partialsName) (isNormal.concat isName.isPart)
    isName.notDots isThere

/-- What the search finds in the folder is one of its file names for the identifier. A segment of a file name
    has no dot, so it does not end like a page. -/
theorem hasPartial_of_find? (normal : lib.root.IsNormal) {id place : String} (segment : IsSegment id)
    (found : lib.find? disk id = .ok (some place))
    (isPartial : place = "partials/" ++ id ++ ".j2" ∨ place = "partials/" ++ id ++ ".html.j2") :
    lib.HasPartial disk id := by
  obtain ⟨-, isThere⟩ := isFile_of_findAmong found
  rcases isPartial with isPlace | isPlace
  · have isName := isName_ownName segment.2
    have isEntry : String.ofList (ownName id) = id ++ ".j2" := by
      rw [← String.toList_inj]
      simp [ownName]
    rw [isPlace.trans (ownPlace_eq id)] at isThere
    refine Or.inr ⟨fun page => segment.1 (page.subset List.mem_cons_self), ?_⟩
    rw [← isEntry]
    exact hasEntry_of_isFile normal isName isThere
  · have isName := isName_pageName segment.2
    have isEntry : String.ofList (pageName id) = id ++ ".html.j2" := by
      rw [← String.toList_inj]
      simp [pageName]
    rw [isPlace.trans (pagePlace_eq id)] at isThere
    left
    rw [← isEntry]
    exact hasEntry_of_isFile normal isName isThere

/-- The list of the templates of chains, and its agreement with the search. The list is in strict order, and
    an identifier is on it just if the folder has a file name for it; only a path of the folder that is too
    long keeps the list from being made, and then nothing is in the folder. A template of a chain that the
    search finds in the folder is on the list. -/
theorem partials_agree (root : String) (disk : Disk) :
    let lib : Library := ⟨.ofString root⟩
    ((∃ ids, lib.partials disk = .ok ids ∧ ids.Pairwise (· < ·) ∧
          ∀ id, id ∈ ids ↔ lib.HasPartial disk id) ∨
        Disk.IsTooLong (lib.pathOf partialsFolder) ∧ (∀ id, ¬lib.HasPartial disk id) ∧
          lib.partials disk = .error (Disk.faultOf (lib.pathOf partialsFolder) .nameTooLong)) ∧
      ∀ path id place, id ∈ (ChainName.parse path).templates →
        lib.find? disk id = .ok (some place) →
        place = "partials/" ++ id ++ ".j2" ∨ place = "partials/" ++ id ++ ".html.j2" →
        ∃ ids, lib.partials disk = .ok ids ∧ id ∈ ids := by
  intro lib
  have normal : lib.root.IsNormal := NormalPath.isNormal_ofString root
  have made := partials_cases lib disk
  refine ⟨made, fun path id place isTemplate found isPartial => ?_⟩
  have has := hasPartial_of_find? normal (isSegment_of_mem isTemplate) found isPartial
  rcases made with ⟨ids, listed, -, mem_iff⟩ | ⟨-, hasNone, -⟩
  · exact ⟨ids, listed, (mem_iff id).2 has⟩
  · exact absurd has (hasNone id)

/-- A template that is found at its second place is listed. -/
theorem partials_agree_page :
    (Library.partials ⟨.ofString "/shelf"⟩ shelfDisk).toOption = some ["page"] ∧
      ∃ ids, Library.partials ⟨.ofString "/shelf"⟩ shelfDisk = .ok ids ∧ "page" ∈ ids := by
  have isTemplate : "page" ∈ (ChainName.parse "x._page").templates := by decide
  have found : (Library.find? ⟨.ofString "/shelf"⟩ shelfDisk "page").toOption =
      some (some "partials/page.html.j2") := by decide
  have agrees := partials_agree "/shelf" shelfDisk
  exact ⟨by decide +kernel,
    agrees.2 "x._page" "page" _ isTemplate (eq_ok_of_toOption found) (Or.inr (by decide))⟩

/-! ### A folder that is too far away -/

/-- The names that a path goes through that enters a folder and leaves it some times before it stays. -/
def windingNames : Nat → List (List Char)
  | 0 => [['h']]
  | n + 1 => ['h'] :: ['.', '.'] :: windingNames n

/-- The text of such a path. -/
def winding : Nat → String
  | 0 => "h"
  | n + 1 => "h/../" ++ winding n

theorem windingNames_ne_nil (n : Nat) : windingNames n ≠ [] := by
  cases n <;> exact List.cons_ne_nil _ _

theorem isNormal_windingNames (n : Nat) : NormalPath.IsNormal ⟨.relative, windingNames n⟩ := by
  induction n with
  | zero => exact List.forall_mem_singleton.2 (by decide)
  | succ n ih => exact List.forall_mem_cons.2 ⟨by decide, List.forall_mem_cons.2 ⟨by decide, ih⟩⟩

theorem joinWith_windingNames (n : Nat) :
    Text.joinWith ['/'] (windingNames n) = (winding n).toList := by
  induction n with
  | zero => rfl
  | succ n ih =>
      rw [windingNames, Text.joinWith_cons_of_ne_nil _ (List.cons_ne_nil _ _),
        Text.joinWith_cons_of_ne_nil _ (windingNames_ne_nil n), ih, winding, String.toList_append]
      rfl

theorem utf8ByteSize_winding (n : Nat) : (winding n).utf8ByteSize = 5 * n + 1 := by
  induction n with
  | zero => rfl
  | succ n ih =>
      have start : "h/../".utf8ByteSize = 5 := rfl
      rw [winding, String.utf8ByteSize_append, ih, start]
      omega

theorem nul_notMem_winding (n : Nat) : '\x00' ∉ (winding n).toList := by
  induction n with
  | zero => decide
  | succ n ih =>
      rw [winding, String.toList_append, List.mem_append, not_or]
      exact ⟨by decide, ih⟩

theorem text_winding (n : Nat) : (⟨.relative, windingNames n⟩ : NormalPath).text = winding n := by
  have nonempty : (winding n).toList ≠ [] := by
    rw [← joinWith_windingNames]
    exact (isNormal_windingNames n).joinWith_ne_nil (windingNames_ne_nil n)
  rw [← String.toList_inj, NormalPath.text, String.toList_ofList, NormalPath.chars_of_ne_nil,
    joinWith_windingNames]
  · rfl
  · rw [joinWith_windingNames]
    exact nonempty

theorem ofString_winding (n : Nat) :
    NormalPath.ofString (winding n) = ⟨.relative, windingNames n⟩ := by
  rw [← text_winding, NormalPath.ofString_text (isNormal_windingNames n)]

/-- The path of the folder of the templates of chains below such a root. -/
theorem pathOf_partialsFolder_winding (n : Nat) :
    Library.pathOf ⟨.ofString (winding n)⟩ partialsFolder = winding n ++ "/partials" := by
  have joined : Text.joinWith ['/'] (windingNames n ++ [partialsName]) =
      (winding n).toList ++ (['/'] ++ partialsName) := by
    rw [Text.joinWith_concat (windingNames_ne_nil n), joinWith_windingNames]
  rw [pathOf_partialsFolder, folderPath, ofString_winding, ← String.toList_inj, NormalPath.text,
    String.toList_ofList, NormalPath.chars_of_ne_nil, NormalPath.rootText, joined,
    String.toList_append]
  · rfl
  · simp [NormalPath.rootText, joined]

/-- A folder with a template of a chain, inside the folder that one is in. -/
def windingDisk : Disk :=
  ⟨["home"], [(["home"], .folder), (["home", "h"], .folder), (["home", "h", "partials"], .folder),
    (["home", "h", "partials", "x.j2"], .file [0x58])]⟩

theorem walkFrom_windingNames (n : Nat) (isOpen : Bool) :
    windingDisk.walkFrom ["home"] isOpen (windingNames n) = .ok (.entry ["home"] "h" isOpen) := by
  induction n with
  | zero => rfl
  | succ n ih =>
      rw [windingNames, Disk.walkFrom_name _ _ _ _ (by decide) (by decide), if_neg (by decide),
        if_neg (List.cons_ne_nil _ _)]
      exact ih

/-- However long the path is, it leads to the folder if it is not too long. -/
theorem stat_winding {n : Nat} (fits : 5 * n + 1 < Disk.pathLimit) :
    windingDisk.stat (winding n) = .ok (["home", "h"], .folder) := by
  rw [← utf8ByteSize_winding, ← text_winding] at fits
  have walked := (isNormal_windingNames n).walk_of_walkFrom fits (walkFrom_windingNames n _)
  rw [text_winding] at walked
  rw [Disk.stat, walked]
  rfl

theorem namesIn_of_long {path : String} (free : '\x00' ∉ path.toList)
    (long : Disk.pathLimit ≤ path.utf8ByteSize) :
    namesIn disk path = .error (Disk.faultOf path .nameTooLong) := by
  have nonempty : path.toList ≠ [] := by
    intro empty
    rw [String.toList_eq_nil_iff.1 empty] at long
    exact absurd long (by decide)
  have stopped : disk.stat path = .error .nameTooLong := by
    rw [Disk.stat, Disk.walk]
    simp only [if_neg nonempty, if_pos long]
  rw [namesIn, List.contains_eq_mem, decide_eq_false free, if_neg Bool.false_ne_true, stopped]

/-- The folder is there and has a template, and a path leads to the root, but the path of the folder is too
    long, so there is no list. -/
theorem no_partials_of_winding :
    (windingDisk.stat (winding 818) = .ok (["home", "h"], .folder) ∧
        Library.partials ⟨.ofString "h"⟩ windingDisk = .ok ["x"]) ∧
      ¬∃ ids, Library.partials ⟨.ofString (winding 818)⟩ windingDisk = .ok ids := by
  refine ⟨⟨stat_winding (by decide), eq_ok_of_toOption (by decide +kernel)⟩, ?_⟩
  rintro ⟨ids, listed⟩
  have free : '\x00' ∉ (winding 818 ++ "/partials").toList := by
    rw [String.toList_append, List.mem_append, not_or]
    exact ⟨nul_notMem_winding 818, by decide⟩
  have long : Disk.pathLimit ≤ (winding 818 ++ "/partials").utf8ByteSize := by
    rw [String.utf8ByteSize_append, utf8ByteSize_winding]
    decide
  rw [partials, pathOf_partialsFolder_winding, namesIn_of_long free long] at listed
  cases listed

end LayeredFiles.Template.Library
