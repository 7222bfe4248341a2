import LayeredFiles.Path
/-
Module: LayeredFiles.Proofs.Path
Layer: Proofs
Purpose: cutting a path at its last slash and joining a folder with a name undo each other. A folder that
  was cut off a path has no slash at its end unless it is nothing but slashes, and for such a folder every
  name without a slash is found again behind it.
Main exports: IsFolder, isFolder_folderChars, fileNameChars_joinChars, folderChars_joinChars,
  headChars_joinChars
-/

namespace LayeredFiles.Path

/-! ### Heads -/

/-- What may stand in front of a file name: nothing, or a text that ends in a slash. -/
def IsHead (head : List Char) : Prop := head = [] ∨ ∃ front, head = front ++ ['/']

/-- Behind a head, a name without a slash is the file name. -/
theorem fileNameChars_append {head name : List Char} (isHead : IsHead head) (free : '/' ∉ name) :
    fileNameChars (head ++ name) = name := by
  have kept : ∀ c ∈ name.reverse, (c != '/') = true := by
    intro c mem
    exact bne_iff_ne.2 (fun same => free (same ▸ List.mem_reverse.1 mem))
  rw [fileNameChars, List.reverse_append, List.takeWhile_append_of_pos kept]
  rcases isHead with rfl | ⟨front, rfl⟩
  · simp
  · simp

/-- Behind a head, a name without a slash leaves the head as it is. -/
theorem headChars_append {head name : List Char} (isHead : IsHead head) (free : '/' ∉ name) :
    headChars (head ++ name) = head := by
  have whole := headChars_append_fileNameChars (head ++ name)
  rw [fileNameChars_append isHead free] at whole
  exact List.append_cancel_right whole

/-- The part of a path in front of its file name is a head. -/
theorem isHead_headChars (s : List Char) : IsHead (headChars s) := by
  cases rest : s.reverse.dropWhile (· != '/') with
  | nil => exact Or.inl (by simp [headChars, rest])
  | cons c front =>
      have stops : (c != '/') = false := by
        have := List.head_dropWhile_not (· != '/') (l := s.reverse) (by simp [rest])
        simpa [rest] using this
      have slash : c = '/' := by simpa using stops
      exact Or.inr ⟨front.reverse, by simp [headChars, rest, slash]⟩

/-! ### Folders -/

/-- A folder as it is cut off a path: no slash at its end, unless it is nothing but slashes. -/
def IsFolder (folder : List Char) : Prop :=
  folder.all (· == '/') = true ∨ folder.getLast? ≠ some '/'

/-- The head that a folder becomes in front of a name. -/
def headOf (folder : List Char) : List Char :=
  if folder = [] || folder.getLast? = some '/' then folder else folder ++ ['/']

theorem isHead_headOf (folder : List Char) : IsHead (headOf folder) := by
  unfold headOf
  split
  · rename_i ends
    rcases (by simpa using ends : folder = [] ∨ folder.getLast? = some '/') with rfl | last
    · exact Or.inl rfl
    · obtain ⟨front, rfl⟩ := List.getLast?_eq_some_iff.1 last
      exact Or.inr ⟨front, rfl⟩
  · exact Or.inr ⟨folder, rfl⟩

/-- A name without a slash does not start at the root, so it is put behind the folder. -/
theorem joinChars_eq {folder name : List Char} (free : '/' ∉ name) :
    joinChars folder name = headOf folder ++ name := by
  have relative : name.head? ≠ some '/' := fun first => free (List.mem_of_mem_head? first)
  simp only [joinChars, if_neg relative, headOf]
  split <;> simp

/-- The file name of a joined path is the name that was joined. -/
theorem fileNameChars_joinChars {folder name : List Char} (free : '/' ∉ name) :
    fileNameChars (joinChars folder name) = name := by
  rw [joinChars_eq free, fileNameChars_append (isHead_headOf folder) free]

theorem headChars_joinChars {folder name : List Char} (free : '/' ∉ name) :
    headChars (joinChars folder name) = headOf folder := by
  rw [joinChars_eq free, headChars_append (isHead_headOf folder) free]

/-- What is cut off a path is a folder. -/
theorem isFolder_folderChars (s : List Char) : IsFolder (folderChars s) := by
  by_cases slashes : (headChars s).all (· == '/') = true
  · exact Or.inl (by simp [folderChars, slashes])
  · refine Or.inr (fun last => ?_)
    simp only [folderChars, slashes, Bool.false_eq_true, if_false, List.getLast?_reverse] at last
    have stops := List.head?_dropWhile_not (· == '/') (headChars s).reverse
    rw [last] at stops
    simp at stops

/-- The folder of a joined path is the folder that was joined. -/
theorem folderChars_joinChars {folder name : List Char} (isFolder : IsFolder folder)
    (free : '/' ∉ name) : folderChars (joinChars folder name) = folder := by
  simp only [folderChars, headChars_joinChars free]
  rcases isFolder with slashes | last
  · have head : headOf folder = folder := by
      rcases List.eq_nil_or_concat folder with rfl | ⟨front, c, rfl⟩
      · simp [headOf]
      · have slash : c = '/' := by
          have := List.all_eq_true.1 slashes c (by simp)
          simpa using this
        simp [headOf, slash]
    rw [head, if_pos slashes]
  · rcases List.eq_nil_or_concat folder with rfl | ⟨front, c, rfl⟩
    · simp [headOf]
    · have other : c ≠ '/' := by simpa using last
      simp [headOf, other]

end LayeredFiles.Path
