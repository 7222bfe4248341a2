import LayeredFiles.Proofs.Chain.Name
/-
Module: LayeredFiles.Proofs.Chain.Mark
Layer: Proofs
Purpose: the mark of a chain, as a test on the text of a file name, and the segments of the name. The mark
  stands somewhere in a name just if a segment behind the first one starts a chain; so a marked path has a
  chain, and a path without the mark has one only if its name begins with an underscore.
Main exports: isMarked_iff, startsChain_iff, ChainName.hasChain_iff_exists,
  ChainName.hasChain_iff, ChainName.hasChain_and_isMarked
-/

namespace LayeredFiles

open LayeredFiles.Text LayeredFiles.Path

/-- The mark of a chain is a dot and an underscore in the file name. -/
theorem isMarked_iff (path : String) :
    isMarked path = true ↔ ['.', '_'] <:+: fileNameChars path.toList :=
  cutAt?_isSome_iff _ _

/-! ### The mark and the segments -/

/-- The first segment starts a chain if the name begins with an underscore, and some segment behind it does
    if the mark stands in the name. -/
theorem startsChain_iff {name first : List Char} {rest : List (List Char)}
    (split : splitOn '.' name = first :: rest) :
    (startsChain first = true ↔ name.head? = some '_') ∧
      ((∃ segment ∈ rest, startsChain segment = true) ↔ ['.', '_'] <:+: name) := by
  induction name generalizing first rest with
  | nil =>
      cases split
      simp [startsChain]
  | cons c name ih =>
      by_cases dot : c = '.'
      · subst dot
        rw [splitOn_cons_self] at split
        obtain ⟨rfl, rfl⟩ := List.cons.inj split
        obtain ⟨next, others, split'⟩ := exists_splitOn_eq_cons '.' name
        obtain ⟨atNext, atOthers⟩ := ih split'
        refine ⟨by simp [startsChain], ?_⟩
        have isMark : ['.', '_'] <+: '.' :: name ↔ name.head? = some '_' := by
          cases name with
          | nil => simp
          | cons d name => simp [eq_comm]
        rw [split', List.infix_cons_iff, isMark, ← atNext, ← atOthers]
        simp only [List.mem_cons, exists_eq_or_imp]
      · obtain ⟨next, others, split'⟩ := exists_splitOn_eq_cons '.' name
        obtain ⟨-, atOthers⟩ := ih split'
        rw [splitOn_cons_of_ne dot split'] at split
        obtain ⟨rfl, rfl⟩ := List.cons.inj split
        refine ⟨by simp [startsChain], ?_⟩
        have noMark : ¬['.', '_'] <+: c :: name := by
          rw [List.cons_prefix_cons]
          rintro ⟨same, -⟩
          exact dot same.symm
        rw [atOthers, List.infix_cons_iff]
        exact ⟨Or.inr, fun mark => mark.resolve_left noMark⟩

namespace ChainName

/-- A path has a chain just if a segment of its file name starts one. -/
theorem hasChain_iff_exists (path : String) :
    (parse path).hasChain = true ↔
      ∃ segment ∈ splitOn '.' (fileNameChars path.toList), startsChain segment = true := by
  cases found : cut (fileNameChars path.toList) with
  | mk plain chain =>
      rw [splitOn_eq_of_cut found]
      have noStart := not_startsChain_of_cut found
      cases chain with
      | nil =>
          constructor
          · intro chained
            simp [parse, found, hasChain] at chained
          · rintro ⟨segment, mem, isStart⟩
            rw [List.append_nil] at mem
            rw [noStart segment mem] at isStart
            cases isStart
      | cons first rest =>
          constructor
          · intro _
            refine ⟨first, by simp, ?_⟩
            rw [cut_eq, Prod.mk.injEq] at found
            have stops := List.head?_dropWhile_not (fun segment => !startsChain segment)
              (splitOn '.' (fileNameChars path.toList))
            rw [found.2] at stops
            simpa using stops
          · intro _
            simp [parse, found, hasChain]

/-- The first segment starts a chain if the file name begins with an underscore, and one behind it does if
    the path is marked. -/
theorem hasChain_iff (path : String) :
    (parse path).hasChain = true ↔
      isMarked path = true ∨ (Path.fileName path).toList.head? = some '_' := by
  obtain ⟨first, rest, split⟩ := exists_splitOn_eq_cons '.' (fileNameChars path.toList)
  obtain ⟨atFirst, atRest⟩ := startsChain_iff split
  rw [hasChain_iff_exists, split, isMarked_iff, Path.fileName, String.toList_ofList, ← atFirst,
    ← atRest]
  simp only [List.mem_cons, exists_eq_or_imp]
  exact or_comm

/-- A marked path has a chain. -/
theorem hasChain_of_isMarked {path : String} (marked : isMarked path = true) :
    (parse path).hasChain = true :=
  (hasChain_iff path).2 (Or.inl marked)

/-- Reading a chain and looking for its mark agree, apart from names that begin with an underscore. The
    mark never claims a chain that is not there; the names on which the two differ are those that begin
    with an underscore and have no mark, and such a name has a chain. -/
theorem hasChain_and_isMarked (path : String) :
    ((parse path).hasChain = true ↔
      isMarked path = true ∨ (Path.fileName path).toList.head? = some '_') ∧
    (isMarked path = true → (parse path).hasChain = true) ∧
    ((parse path).hasChain ≠ isMarked path ↔
      (Path.fileName path).toList.head? = some '_' ∧
        ¬['.', '_'] <:+: (Path.fileName path).toList) := by
  refine ⟨hasChain_iff path, hasChain_of_isMarked, ?_⟩
  have chain := hasChain_iff path
  have mark : isMarked path = true ↔ ['.', '_'] <:+: (Path.fileName path).toList := by
    rw [isMarked_iff, Path.fileName, String.toList_ofList]
  rw [← mark]
  cases marked : isMarked path with
  | true => simp [hasChain_of_isMarked marked]
  | false => simpa [marked] using chain

end ChainName

end LayeredFiles
