import LayeredFiles.Proofs.Path
import LayeredFiles.Proofs.Text.Split
/-
Module: LayeredFiles.Proofs.NormalPath
Layer: Proofs
Purpose: the text of a normal path and the path itself tell the same. What comes out of a text is normal, a
  normal path is read back from its own text, and a part added below it comes behind its text as a file
  name comes behind a folder.
Main exports: NormalPath.IsNormal, NormalPath.isNormal_ofString, NormalPath.ofString_text,
  NormalPath.chars_concat
-/

namespace LayeredFiles

open Text (splitOn joinWith splitOn_joinWith separator_notMem_of_mem_splitOn)

/-! ### Joined pieces -/

namespace Text

/-- A piece more comes behind a separator more. -/
theorem joinWith_concat {separator : List Char} {pieces : List (List Char)} (nonempty : pieces ≠ [])
    (last : List Char) :
    joinWith separator (pieces ++ [last]) = joinWith separator pieces ++ (separator ++ last) := by
  induction pieces with
  | nil => exact absurd rfl nonempty
  | cons piece rest ih =>
      cases rest with
      | nil => simp [joinWith]
      | cons next rest =>
          have others := ih (by simp)
          simp only [List.cons_append] at others ⊢
          rw [joinWith, others, joinWith]
          simp only [List.append_assoc]

end Text

namespace NormalPath

/-- The parts of a path name something. -/
def IsNormal (p : NormalPath) : Prop := ∀ part ∈ p.parts, part ≠ [] ∧ part ≠ ['.'] ∧ '/' ∉ part

theorem isNormal_partsOf (root : PathRoot) (s : List Char) : IsNormal ⟨root, partsOf s⟩ := by
  intro part mem
  obtain ⟨isPiece, names⟩ := List.mem_filter.1 mem
  rw [Bool.and_eq_true, decide_eq_true_eq, decide_eq_true_eq] at names
  exact ⟨names.1, names.2, separator_notMem_of_mem_splitOn isPiece⟩

/-- What comes out of a text is normal. -/
theorem isNormal_ofString (s : String) : IsNormal (ofString s) := by
  unfold ofString ofChars
  split
  · exact isNormal_partsOf _ _
  · exact isNormal_partsOf _ _
  · exact isNormal_partsOf _ _
  · exact isNormal_partsOf _ _

/-! ### Reading the text of a path -/

/-- The text of a path is that of its root and its parts, if these have one. -/
theorem chars_of_ne_nil {p : NormalPath} (nonempty : rootText p.root ++ joinWith ['/'] p.parts ≠ []) :
    p.chars = rootText p.root ++ joinWith ['/'] p.parts := by
  unfold chars
  split
  · rename_i empty
    exact absurd empty nonempty
  · rfl

theorem ofChars_of_relative {s : List Char} (relative : s.head? ≠ some '/') :
    ofChars s = ⟨.relative, partsOf s⟩ := by
  unfold ofChars
  split
  · exact absurd rfl relative
  · exact absurd rfl relative
  · exact absurd rfl relative
  · rfl

theorem ofChars_of_single {s : List Char} (relative : s.head? ≠ some '/') :
    ofChars ('/' :: s) = ⟨.single, partsOf s⟩ := by
  unfold ofChars
  split
  · rename_i same
    cases same
    exact absurd rfl relative
  · rename_i same
    cases same
    exact absurd rfl relative
  · rename_i same
    cases same
    rfl
  · rename_i noSlash
    exact absurd rfl (noSlash s)

theorem ofChars_of_double {s : List Char} (relative : s.head? ≠ some '/') :
    ofChars ('/' :: '/' :: s) = ⟨.double, partsOf s⟩ := by
  unfold ofChars
  split
  · rename_i same
    cases same
    exact absurd rfl relative
  · rename_i same
    cases same
    rfl
  · rename_i noSlashes same
    cases same
    exact absurd rfl (noSlashes s)
  · rename_i noSlash
    exact absurd rfl (noSlash _)

section Normal

variable {p : NormalPath} (normal : p.IsNormal)
include normal

/-- The parts do not start a root of their own. -/
theorem IsNormal.head?_joinWith : (joinWith ['/'] p.parts).head? ≠ some '/' := by
  intro first
  cases parts : p.parts with
  | nil => simp [parts, joinWith] at first
  | cons part rest =>
      obtain ⟨nonempty, -, free⟩ := normal part (by simp [parts])
      obtain ⟨c, name, rfl⟩ := List.exists_cons_of_ne_nil nonempty
      have isSlash : c = '/' := by
        rw [parts] at first
        cases rest with
        | nil => simpa [joinWith] using first
        | cons next rest => simpa [joinWith] using first
      exact free (by simp [isSlash])

theorem IsNormal.partsOf_joinWith : partsOf (joinWith ['/'] p.parts) = p.parts := by
  by_cases empty : p.parts = []
  · rw [empty]
    rfl
  · rw [partsOf, splitOn_joinWith empty (fun part mem => (normal part mem).2.2)]
    refine List.filter_eq_self.2 (fun part mem => ?_)
    obtain ⟨nonempty, notDot, -⟩ := normal part mem
    rw [Bool.and_eq_true, decide_eq_true_eq, decide_eq_true_eq]
    exact ⟨nonempty, notDot⟩

/-- The parts make up a text unless there are none. -/
theorem IsNormal.joinWith_ne_nil (nonempty : p.parts ≠ []) : joinWith ['/'] p.parts ≠ [] := by
  intro empty
  have back := normal.partsOf_joinWith
  rw [empty] at back
  exact nonempty back.symm

/-- A normal path is read back from its own text. -/
theorem ofChars_chars : ofChars p.chars = p := by
  have relative := normal.head?_joinWith
  have back := normal.partsOf_joinWith
  obtain ⟨root, parts⟩ := p
  simp only at relative back
  cases root with
  | relative =>
      by_cases empty : parts = []
      · subst empty
        rfl
      · have nonempty := normal.joinWith_ne_nil empty
        simp only at nonempty
        have isText : (⟨.relative, parts⟩ : NormalPath).chars = joinWith ['/'] parts :=
          chars_of_ne_nil nonempty
        rw [isText, ofChars_of_relative relative, back]
  | single =>
      have isText : (⟨.single, parts⟩ : NormalPath).chars = '/' :: joinWith ['/'] parts := rfl
      rw [isText, ofChars_of_single relative, back]
  | double =>
      have isText : (⟨.double, parts⟩ : NormalPath).chars = '/' :: '/' :: joinWith ['/'] parts := rfl
      rw [isText, ofChars_of_double relative, back]

theorem ofString_text : ofString p.text = p := by
  rw [ofString, text, String.toList_ofList, ofChars_chars normal]

end Normal

/-! ### Parts below a path -/

/-- The path of the folder that one is in. -/
def here : NormalPath := ⟨.relative, []⟩

theorem chars_here_concat {name : List Char} (nonempty : name ≠ []) :
    (⟨.relative, [name]⟩ : NormalPath).chars = name :=
  chars_of_ne_nil nonempty

/-- The text of the parts ends as the last of them. -/
theorem getLast?_joinWith {parts : List (List Char)} {last : List Char} (nonempty : last ≠ []) :
    (joinWith ['/'] (parts ++ [last])).getLast? = last.getLast? := by
  by_cases none : parts = []
  · rw [none]
    rfl
  · rw [Text.joinWith_concat none, ← List.append_assoc, List.getLast?_append,
      List.getLast?_eq_some_getLast nonempty, Option.some_or]

/-- A part more comes behind the text as a file name comes behind a folder. -/
theorem chars_concat {p : NormalPath} (normal : p.IsNormal) (elsewhere : p ≠ here)
    (name : List Char) :
    (⟨p.root, p.parts ++ [name]⟩ : NormalPath).chars = Path.headOf p.chars ++ name := by
  obtain ⟨root, parts⟩ := p
  rcases List.eq_nil_or_concat parts with rfl | ⟨front, last, rfl⟩
  · -- Without parts the text is a root, which ends in a slash.
    cases root with
    | relative => exact absurd rfl elsewhere
    | single => rfl
    | double => rfl
  · rw [List.concat_eq_append] at normal elsewhere ⊢
    obtain ⟨nonemptyLast, -, free⟩ := normal last (by simp)
    have someText : joinWith ['/'] (front ++ [last]) ≠ [] := normal.joinWith_ne_nil (by simp)
    have ends : (rootText root ++ joinWith ['/'] (front ++ [last])).getLast? = last.getLast? := by
      rw [List.getLast?_append, getLast?_joinWith nonemptyLast,
        List.getLast?_eq_some_getLast nonemptyLast, Option.some_or]
    have noSlash : last.getLast? ≠ some '/' := fun slash => free (List.mem_of_getLast? slash)
    have more : joinWith ['/'] (front ++ [last] ++ [name]) =
        joinWith ['/'] (front ++ [last]) ++ (['/'] ++ name) := Text.joinWith_concat (by simp) name
    have isText : (⟨root, front ++ [last]⟩ : NormalPath).chars =
        rootText root ++ joinWith ['/'] (front ++ [last]) :=
      chars_of_ne_nil (fun none => someText (List.append_eq_nil_iff.1 none).2)
    have someMore : joinWith ['/'] (front ++ [last] ++ [name]) ≠ [] := by
      rw [more]
      simp
    have isMore : (⟨root, front ++ [last] ++ [name]⟩ : NormalPath).chars =
        rootText root ++ joinWith ['/'] (front ++ [last] ++ [name]) :=
      chars_of_ne_nil (fun none => someMore (List.append_eq_nil_iff.1 none).2)
    rw [isMore, isText, more, Path.headOf, if_neg]
    · simp only [List.append_assoc]
    · rw [Bool.or_eq_true, decide_eq_true_eq, decide_eq_true_eq, ends, not_or]
      exact ⟨fun none => someText (List.append_eq_nil_iff.1 none).2, noSlash⟩

/-- A part more keeps a path normal. -/
theorem IsNormal.concat {p : NormalPath} (normal : p.IsNormal) {name : List Char}
    (isPart : name ≠ [] ∧ name ≠ ['.'] ∧ '/' ∉ name) :
    IsNormal ⟨p.root, p.parts ++ [name]⟩ := by
  intro part mem
  rcases List.mem_append.1 mem with mem | mem
  · exact normal part mem
  · rw [List.mem_singleton.1 mem]
    exact isPart

end NormalPath

end LayeredFiles
