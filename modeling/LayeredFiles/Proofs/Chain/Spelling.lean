import LayeredFiles.Proofs.Chain.Mark
import Mathlib.Data.List.DropRight
/-
Module: LayeredFiles.Proofs.Chain.Spelling
Layer: Proofs
Purpose: how much of the spelling of a path survives when its chain is read. The file name is written anew
  from the base and the templates, so it comes back just if every segment of the chain has its underscore
  and the chain does not start the name. The folder comes back as it was joined: slashes in front of the
  file name become one slash if there is a chain, unless there is nothing but slashes; a path without a
  chain keeps them.
Main exports: ChainName.IsMarkedToEnd, ChainName.stagePath_start_eq_iff, Path.tidyHead,
  ChainName.parse_behind_head, ChainName.head_not_verbatim
-/

namespace LayeredFiles

open Text LayeredFiles.Path

/-! ### File names that are written anew -/

/-- Texts with the same pieces are the same. -/
theorem Text.splitOn_inj (separator : Char) {s t : List Char} :
    splitOn separator s = splitOn separator t ↔ s = t := by
  constructor
  · intro same
    rw [← joinWith_splitOn separator s, same, joinWith_splitOn]
  · rintro rfl
    rfl

/-- The segment of a chain that names a template, however the template was named before. -/
def markedSegment (segment : List Char) : List Char := '_' :: templateOf segment

/-- A segment is written as it was just if it had its underscore. -/
theorem markedSegment_eq_iff (segment : List Char) :
    markedSegment segment = segment ↔ startsChain segment = true := by
  constructor
  · intro same
    rw [← same]
    rfl
  · intro starts
    cases segment with
    | nil => simp [startsChain] at starts
    | cons c rest =>
        have isMark : c = '_' := by simpa [startsChain] using starts
        rw [isMark]
        rfl

theorem map_markedSegment_eq_iff (segments : List (List Char)) :
    segments.map markedSegment = segments ↔ ∀ segment ∈ segments, startsChain segment = true := by
  induction segments with
  | nil => simp
  | cons segment rest ih =>
      rw [List.map_cons, List.cons.injEq, markedSegment_eq_iff, ih, List.forall_mem_cons]

namespace ChainName

/-- From the first segment on that begins with an underscore, all segments of a file name begin with
    one. -/
def IsMarkedToEnd (name : List Char) : Prop :=
  ∀ segment ∈ (splitOn '.' name).dropWhile (fun segment => segment.head? ≠ some '_'),
    segment.head? = some '_'

theorem isMarkedToEnd_iff {name : List Char} {plain chain : List (List Char)}
    (found : cut name = (plain, chain)) :
    IsMarkedToEnd name ↔ ∀ segment ∈ chain, startsChain segment = true := by
  rw [cut_eq, Prod.mk.injEq] at found
  rw [← found.2]
  simp [IsMarkedToEnd, startsChain]

/-- The file name that a base and its templates are written as. -/
def rebuiltName (plain chain : List (List Char)) : List Char :=
  joinWith ['.'] plain ++ chain.flatMap (fun segment => '.' :: markedSegment segment)

/-- What is written for the templates of a chain, segment by segment. -/
theorem chainChars_templates (chain : List (List Char)) :
    chainChars (chain.map (fun segment => String.ofList (templateOf segment))).reverse =
      chain.flatMap (fun segment => '.' :: markedSegment segment) := by
  simp [chainChars, List.flatMap_map, markedSegment]

section Cut

variable {name : List Char} {plain chain : List (List Char)}

/-- The segments of a name that is written anew: those in front of the chain, of which there is always one,
    and those of the chain, all with their underscores. -/
theorem splitOn_rebuiltName (found : cut name = (plain, chain)) :
    splitOn '.' (rebuiltName plain chain) =
      splitOn '.' (joinWith ['.'] plain) ++ chain.map markedSegment := by
  have noDot : ∀ segment ∈ chain, '.' ∉ markedSegment segment := by
    intro segment mem dot
    have isPiece : segment ∈ splitOn '.' name := by
      rw [splitOn_eq_of_cut found]
      exact List.mem_append_right _ mem
    rcases List.mem_cons.1 dot with isMark | inTemplate
    · cases isMark
    · exact separator_notMem_of_mem_splitOn isPiece (mem_of_mem_templateOf inTemplate)
  rw [rebuiltName]
  generalize joinWith ['.'] plain = front
  clear found
  induction chain generalizing front with
  | nil => simp
  | cons segment rest ih =>
      have others := ih (fun other mem => noDot other (List.mem_cons_of_mem _ mem))
        (markedSegment segment)
      rw [splitOn_of_notMem (noDot segment List.mem_cons_self)] at others
      rw [List.flatMap_cons, List.cons_append, splitOn_append_cons, others, List.map_cons,
        List.singleton_append]

/-- A file name begins with an underscore just if nothing stands in front of its chain. -/
theorem plain_eq_nil_iff (found : cut name = (plain, chain)) (chained : chain ≠ []) :
    plain = [] ↔ name.head? = some '_' := by
  obtain ⟨first, rest, split⟩ := exists_splitOn_eq_cons '.' name
  obtain ⟨atFirst, -⟩ := startsChain_iff split
  rw [← atFirst]
  have whole := splitOn_eq_of_cut found
  rw [split] at whole
  cases plain with
  | nil =>
      obtain ⟨start, others, rfl⟩ := List.exists_cons_of_ne_nil chained
      have isFirst : first = start := (List.cons.inj whole).1
      have starts := List.head?_dropWhile_not (fun segment => !startsChain segment) (splitOn '.' name)
      rw [cut_eq, Prod.mk.injEq] at found
      rw [found.2] at starts
      simpa [isFirst] using starts
  | cons segment others =>
      have isFirst : first = segment := (List.cons.inj whole).1
      have plainFirst := not_startsChain_of_cut found segment List.mem_cons_self
      simp [isFirst, plainFirst]

/-- A file name is written as it was just if it does not begin with its chain and every segment of the
    chain has its underscore. -/
theorem rebuiltName_eq_iff (found : cut name = (plain, chain)) (chained : chain ≠ []) :
    rebuiltName plain chain = name ↔ name.head? ≠ some '_' ∧ IsMarkedToEnd name := by
  rw [← splitOn_inj '.', splitOn_rebuiltName found, splitOn_eq_of_cut found, Ne,
    ← plain_eq_nil_iff found chained, isMarkedToEnd_iff found, ← map_markedSegment_eq_iff]
  by_cases nameless : plain = []
  · -- The empty name in front of the chain is one segment more.
    subst nameless
    have longer : splitOn '.' (joinWith ['.'] []) ++ chain.map markedSegment ≠ [] ++ chain := by
      intro same
      have sameLength := congrArg List.length same
      simp [joinWith, splitOn] at sameLength
    exact iff_of_false longer (fun named => named.1 rfl)
  · have noDot : ∀ segment ∈ plain, '.' ∉ segment := by
      intro segment mem
      apply separator_notMem_of_mem_splitOn (s := name)
      rw [splitOn_eq_of_cut found]
      exact List.mem_append_left _ mem
    rw [splitOn_joinWith nameless noDot, List.append_cancel_left_eq]
    simp [nameless]

end Cut

/-! ### Paths that are written anew -/

/-- What a path with a chain reads as: the folder joined with the segments in front of the chain, and the
    templates of the chain from its end. -/
theorem parse_of_cut {path : String} {plain chain : List (List Char)}
    (found : cut (fileNameChars path.toList) = (plain, chain)) (chained : chain ≠ []) :
    parse path =
      ⟨String.ofList (joinChars (folderChars path.toList) (joinWith ['.'] plain)),
        (chain.map (fun segment => String.ofList (templateOf segment))).reverse⟩ := by
  obtain ⟨first, rest, rfl⟩ := List.exists_cons_of_ne_nil chained
  simp only [parse, found]

/-- No slash stands in front of a chain. -/
theorem slash_notMem_front {path : String} {plain chain : List (List Char)}
    (found : cut (fileNameChars path.toList) = (plain, chain)) : '/' ∉ joinWith ['.'] plain := by
  intro mem
  rcases mem_joinWith mem with mem | ⟨segment, isSegment, mem⟩
  · simp at mem
  · have isPiece : segment ∈ splitOn '.' (fileNameChars path.toList) := by
      rw [splitOn_eq_of_cut found]
      exact List.mem_append_left _ isSegment
    exact slash_notMem_fileNameChars path.toList (mem_of_mem_splitOn isPiece mem)

/-- Before its first stage a chain is written into the folder of its path, under the name that its
    segments are written as. -/
theorem toList_stagePath_start {path : String} {plain chain : List (List Char)}
    (found : cut (fileNameChars path.toList) = (plain, chain)) (chained : chain ≠ []) :
    (stagePath (parse path).base (parse path).templates (-1)).toList =
        joinChars (folderChars path.toList) (rebuiltName plain chain) ∧
      '/' ∉ rebuiltName plain chain := by
  have parsed := parse_of_cut found chained
  have isChained : (parse path).hasChain = true := by
    rw [parsed]
    simpa [hasChain] using chained
  have wellFormed := wellFormed_parse isChained
  have frontFree := slash_notMem_front found
  have chainFree := slash_notMem_chainChars wellFormed.segments
  have allPending : pending (parse path).templates (-1) = (parse path).templates := by
    rw [pending_eq_drop _ (by decide)]
    rfl
  have someLeft : pending (parse path).templates (-1) ≠ [] := by
    rw [allPending, parsed]
    simpa using chained
  rw [stagePath_of_pending_ne_nil someLeft, allPending]
  simp only [Path.join, Path.folder, Path.fileName, String.toList_append, String.toList_ofList,
    toList_decorators]
  rw [parsed] at chainFree ⊢
  simp only [chainChars_templates, String.toList_ofList, fileNameChars_joinChars frontFree,
    folderChars_joinChars (isFolder_folderChars _) frontFree] at chainFree ⊢
  refine ⟨rfl, ?_⟩
  rw [rebuiltName, List.mem_append, not_or]
  exact ⟨frontFree, chainFree⟩

/-- Which paths come back when their chain is written again before its first stage. With a chain these are
    the paths whose file name does not begin with an underscore, has an underscore in front of every
    segment from the first marked one on, and is joined to its folder by that folder's own spelling.
    Without a chain every path comes back. -/
theorem stagePath_start_eq_iff (path : String) :
    ((parse path).hasChain = true →
      (stagePath (parse path).base (parse path).templates (-1) = path ↔
        (Path.fileName path).toList.head? ≠ some '_' ∧
          IsMarkedToEnd (Path.fileName path).toList ∧
          Path.join (Path.folder path) (Path.fileName path) = path)) ∧
    ((parse path).hasChain = false →
      stagePath (parse path).base (parse path).templates (-1) = path) := by
  constructor
  · intro isChained
    obtain ⟨plain, first, rest, found⟩ := exists_cut_of_hasChain isChained
    obtain ⟨written, free⟩ := toList_stagePath_start found (List.cons_ne_nil _ _)
    have nameBack := rebuiltName_eq_iff found (List.cons_ne_nil _ _)
    have joined : (Path.join (Path.folder path) (Path.fileName path)).toList =
        joinChars (folderChars path.toList) (fileNameChars path.toList) := by
      simp only [Path.join, Path.folder, Path.fileName, String.toList_ofList]
    rw [← String.toList_inj, ← String.toList_inj, written, joined, ← and_assoc,
      Path.fileName, String.toList_ofList, ← nameBack]
    constructor
    · intro same
      have sameName : rebuiltName plain (first :: rest) = fileNameChars path.toList := by
        have back := congrArg fileNameChars same
        rw [fileNameChars_joinChars free] at back
        exact back
      exact ⟨sameName, sameName ▸ same⟩
    · rintro ⟨sameName, same⟩
      rw [sameName, same]
  · intro unchained
    rw [parse_of_not_hasChain unchained]
    exact stagePath_of_pending_nil (pending_nil _)

/-- A path that comes back, and three that do not, each because of one of the conditions: a chain that
    starts the name, a segment without an underscore, and a folder with two slashes behind it. -/
theorem stagePath_start_of_spellings :
    stagePath (parse "out/a.b._p._q").base (parse "out/a.b._p._q").templates (-1) =
        "out/a.b._p._q" ∧
      stagePath (parse "out/_a._q").base (parse "out/_a._q").templates (-1) ≠ "out/_a._q" ∧
      stagePath (parse "out/a._p.q").base (parse "out/a._p.q").templates (-1) ≠ "out/a._p.q" ∧
      stagePath (parse "out//a._p").base (parse "out//a._p").templates (-1) ≠ "out//a._p" ∧
      stagePath (parse "out//a.b").base (parse "out//a.b").templates (-1) = "out//a.b" := by
  have marked : IsMarkedToEnd (Path.fileName "out/a.b._p._q").toList := by
    unfold IsMarkedToEnd
    decide
  have unmarked : ¬IsMarkedToEnd (Path.fileName "out/a._p.q").toList := by
    unfold IsMarkedToEnd
    decide
  refine ⟨?_, ?_, ?_, ?_, ?_⟩
  · exact ((stagePath_start_eq_iff _).1 (by decide)).2
      ⟨by decide, marked, by decide⟩
  · intro same
    exact (((stagePath_start_eq_iff _).1 (by decide)).1 same).1 (by decide)
  · intro same
    exact unmarked (((stagePath_start_eq_iff _).1 (by decide)).1 same).2.1
  · intro same
    have joined := (((stagePath_start_eq_iff _).1 (by decide)).1 same).2.2
    exact absurd joined (by decide)
  · exact (stagePath_start_eq_iff _).2 (by decide)

end ChainName

/-! ### Folders as they are spelled -/

namespace Path

/-- A head with one slash at its end, unless it is nothing but slashes. -/
def tidyHead (head : List Char) : List Char :=
  if head.all (· == '/') then head else (head.reverse.dropWhile (· == '/')).reverse ++ ['/']

/-- The folder in front of a name is joined again with one slash behind it. -/
theorem headOf_folderChars {head name : List Char} (isHead : IsHead head) (free : '/' ∉ name) :
    headOf (folderChars (head ++ name)) = tidyHead head := by
  simp only [folderChars, headChars_append isHead free, tidyHead]
  by_cases slashes : head.all (· == '/') = true
  · rw [if_pos slashes, if_pos slashes, headOf]
    rcases isHead with rfl | ⟨front, rfl⟩
    · rfl
    · simp
  · rw [if_neg slashes, if_neg slashes, headOf, if_neg]
    have stops := List.head?_dropWhile_not (· == '/') head.reverse
    cases cut : head.reverse.dropWhile (· == '/') with
    | nil =>
        rw [List.dropWhile_eq_nil_iff] at cut
        exfalso
        apply slashes
        rw [List.all_eq_true]
        intro c mem
        exact cut c (List.mem_reverse.2 mem)
    | cons c rest =>
        rw [cut] at stops
        simpa using stops

/-- Behind a slash one more makes two. -/
theorem twoSlashes_suffix_iff (front : List Char) :
    ['/', '/'] <:+ front ++ ['/'] ↔ front.getLast? = some '/' := by
  constructor
  · rintro ⟨before, same⟩
    have apart : before ++ ['/'] ++ ['/'] = front ++ ['/'] := by simpa using same
    rw [← List.append_cancel_right apart]
    simp
  · intro ends
    obtain ⟨before, rfl⟩ := List.getLast?_eq_some_iff.1 ends
    exact ⟨before, by simp⟩

/-- A head is tidy unless two slashes end it and something else is in it. -/
theorem tidyHead_eq_iff {head : List Char} (isHead : IsHead head) :
    tidyHead head = head ↔ head.all (· == '/') = true ∨ ¬['/', '/'] <:+ head := by
  unfold tidyHead
  by_cases slashes : head.all (· == '/') = true
  · simp [slashes]
  · rw [if_neg slashes]
    rcases isHead with rfl | ⟨front, rfl⟩
    · exact absurd rfl slashes
    · have rest : ((front ++ ['/']).reverse.dropWhile (· == '/')).reverse =
          front.rdropWhile (· == '/') := by
        simp [List.rdropWhile]
      rw [rest, List.append_cancel_right_eq, List.rdropWhile_eq_self_iff, twoSlashes_suffix_iff,
        List.getLast?_eq_some_iff]
      constructor
      · intro noSlash
        right
        rintro ⟨before, rfl⟩
        exact noSlash (by simp) (by simp)
      · intro tidy nonempty isSlash
        apply tidy.resolve_left slashes
        have last := List.dropLast_append_getLast nonempty
        exact ⟨front.dropLast, by simpa [beq_iff_eq.1 isSlash] using last.symm⟩

end Path

namespace ChainName

/-- What may stand in front of a file name, as a text. -/
theorem isHead_toList {dir : String} (isDir : dir = "" ∨ ∃ front, dir = front ++ "/") :
    IsHead dir.toList := by
  rcases isDir with rfl | ⟨front, rfl⟩
  · exact Or.inl rfl
  · exact Or.inr ⟨front.toList, by simp⟩

/-- A name without a slash has a base without a folder. -/
theorem base_of_notMem {name : String} (free : '/' ∉ name.toList) {plain chain : List (List Char)}
    (found : cut (fileNameChars name.toList) = (plain, chain)) (chained : chain ≠ []) :
    (parse name).base = String.ofList (joinWith ['.'] plain) := by
  have nothing : tidyHead [] = [] := rfl
  have noFolder := headOf_folderChars (Or.inl rfl : IsHead []) free
  rw [List.nil_append, nothing] at noFolder
  rw [parse_of_cut found chained, joinChars_eq (slash_notMem_front found), noFolder,
    List.nil_append]

section Behind

variable {dir name : String} (isDir : dir = "" ∨ ∃ front, dir = front ++ "/")
  (free : '/' ∉ name.toList)
include isDir free

/-- A file name behind a folder is cut as it is on its own. -/
theorem cut_behind_head :
    cut (fileNameChars (dir ++ name).toList) = cut (fileNameChars name.toList) := by
  have alone : fileNameChars name.toList = name.toList := fileNameChars_append (Or.inl rfl) free
  rw [String.toList_append, fileNameChars_append (isHead_toList isDir) free, alone]

/-- A chain behind a folder has the base that it has on its own, behind the tidy folder. -/
theorem base_behind_head (chained : (parse name).hasChain = true) :
    (parse (dir ++ name)).base = String.ofList (tidyHead dir.toList) ++ (parse name).base := by
  obtain ⟨plain, first, rest, found⟩ := exists_cut_of_hasChain chained
  have alone := base_of_notMem free found (List.cons_ne_nil _ _)
  have found' := (cut_behind_head isDir free).trans found
  rw [parse_of_cut found' (List.cons_ne_nil _ _), alone, joinChars_eq (slash_notMem_front found),
    String.toList_append, headOf_folderChars (isHead_toList isDir) free, String.ofList_append]

theorem templates_behind_head : (parse (dir ++ name)).templates = (parse name).templates := by
  have sameCut := cut_behind_head isDir free
  cases found : cut (fileNameChars name.toList) with
  | mk plain chain =>
      rw [found] at sameCut
      cases chain with
      | nil => simp only [parse, sameCut, found]
      | cons first rest =>
          rw [parse_of_cut sameCut (List.cons_ne_nil _ _), parse_of_cut found (List.cons_ne_nil _ _)]

end Behind

/-- A path is read as its file name is, with the folder in front of the base. The folder is spelled as it
    was if there is no chain. If there is one, the slashes at its end become one, unless it is nothing but
    slashes; so these are the folders that come back as they were: those without two slashes at the end, and
    those of slashes alone. -/
theorem parse_behind_head (dir name : String) (isDir : dir = "" ∨ ∃ front, dir = front ++ "/")
    (free : '/' ∉ name.toList) :
    (parse (dir ++ name)).templates = (parse name).templates ∧
      ((parse name).hasChain = true →
        (parse (dir ++ name)).base = String.ofList (tidyHead dir.toList) ++ (parse name).base) ∧
      ((parse (dir ++ name)).base = dir ++ (parse name).base ↔
        (parse name).hasChain = false ∨ dir.toList.all (· == '/') = true ∨
          ¬['/', '/'] <:+ dir.toList) := by
  have templates := templates_behind_head isDir free
  have based : (parse name).hasChain = true →
      (parse (dir ++ name)).base = String.ofList (tidyHead dir.toList) ++ (parse name).base :=
    base_behind_head isDir free
  refine ⟨templates, based, ?_⟩
  cases chained : (parse name).hasChain with
  | true =>
      rw [based chained, ← tidyHead_eq_iff (isHead_toList isDir), ← String.toList_inj,
        String.toList_append, String.toList_append, String.toList_ofList,
        List.append_cancel_right_eq]
      simp
  | false =>
      have unchained : (parse (dir ++ name)).hasChain = false := by
        rw [hasChain, templates]
        exact chained
      rw [parse_of_not_hasChain unchained, parse_of_not_hasChain chained]
      simp

/-- A chain in an odd but tidy folder, one at the root, and one behind two slashes. -/
theorem parse_behind_head_of_spellings :
    (parse ".././a//./b._p").base = ".././a//./" ++ (parse "b._p").base ∧
      (parse "//b._p").base = "//" ++ (parse "b._p").base ∧
      (parse "a///b._p").base = "a/" ++ (parse "b._p").base ∧
      (parse "a///b._p").base ≠ "a///" ++ (parse "b._p").base := by
  have free : '/' ∉ "b._p".toList := by decide
  have chained : (parse "b._p").hasChain = true := by decide
  refine ⟨?_, ?_, ?_, ?_⟩
  · exact (parse_behind_head ".././a//./" "b._p" (Or.inr ⟨".././a//.", by decide⟩) free).2.2.2
      (Or.inr (Or.inr (by decide)))
  · exact (parse_behind_head "//" "b._p" (Or.inr ⟨"/", by decide⟩) free).2.2.2
      (Or.inr (Or.inl (by decide)))
  · have based := (parse_behind_head "a///" "b._p" (Or.inr ⟨"a//", by decide⟩) free).2.1 chained
    exact based.trans (by decide)
  · intro verbatim
    have allowed := (parse_behind_head "a///" "b._p" (Or.inr ⟨"a//", by decide⟩) free).2.2.1
      verbatim
    exact absurd allowed (by decide)

/-- Folders do not come back as they were in front of every name: a chain loses a slash. -/
theorem head_not_verbatim :
    ¬∀ dir name : String, (dir = "" ∨ ∃ front, dir = front ++ "/") → '/' ∉ name.toList →
      (parse (dir ++ name)).templates = (parse name).templates ∧
        (parse (dir ++ name)).base = dir ++ (parse name).base := by
  intro verbatim
  have same := (verbatim "a//" "b._c" (Or.inr ⟨"a/", by decide⟩) (by decide)).2
  exact absurd same (by decide)

end ChainName

end LayeredFiles
