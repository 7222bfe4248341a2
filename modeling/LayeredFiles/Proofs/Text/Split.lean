import LayeredFiles.Text.Split
import Mathlib.Data.List.Infix
/-
Module: LayeredFiles.Proofs.Text.Split
Layer: Proofs
Purpose: cutting a text and joining its pieces undo each other. `joinWith_splitOn` is the one half; the
  other half holds for pieces that do not contain the separator themselves, and `splitOn` gives no others.
  A text in which a mark is replaced is made from its front: the mark, or one character, and the rest.
Main exports: separator_notMem_of_mem_splitOn, mem_of_mem_splitOn, splitOn_append_cons,
  splitOn_of_notMem, splitOn_joinWith, mem_joinWith, cutAt?_isSome_iff, cutAt?_singleton_eq_some_iff,
  replaceAll_mark, replaceAll_cons
-/

namespace LayeredFiles.Text

variable {separator : Char}

/-- The first piece grows by a character in front that is no separator. -/
theorem splitOn_cons_of_ne {c : Char} {s piece : List Char} {pieces : List (List Char)}
    (differs : c ≠ separator) (split : splitOn separator s = piece :: pieces) :
    splitOn separator (c :: s) = (c :: piece) :: pieces := by
  simp [splitOn, differs, split]

/-- The separator itself ends an empty piece. -/
theorem splitOn_cons_self (s : List Char) :
    splitOn separator (separator :: s) = [] :: splitOn separator s := by
  simp [splitOn]

/-- Every text has a first piece. -/
theorem exists_splitOn_eq_cons (separator : Char) (s : List Char) :
    ∃ piece pieces, splitOn separator s = piece :: pieces :=
  List.exists_cons_of_ne_nil (splitOn_ne_nil separator s)

/-- No piece contains the separator. -/
theorem separator_notMem_of_mem_splitOn {s piece : List Char}
    (isPiece : piece ∈ splitOn separator s) : separator ∉ piece := by
  induction s generalizing piece with
  | nil =>
      have empty : piece = [] := by simpa [splitOn] using isPiece
      simp [empty]
  | cons c s ih =>
      by_cases same : c = separator
      · subst same
        rw [splitOn_cons_self] at isPiece
        rcases List.mem_cons.1 isPiece with rfl | isPiece
        · simp
        · exact ih isPiece
      · obtain ⟨first, rest, split⟩ := exists_splitOn_eq_cons separator s
        rw [splitOn_cons_of_ne same split] at isPiece
        rcases List.mem_cons.1 isPiece with rfl | isPiece
        · have free : separator ∉ first := ih (by simp [split])
          simpa [Ne.symm same] using free
        · exact ih (by simp [split, isPiece])

/-- The characters of a piece stem from the text. -/
theorem mem_of_mem_splitOn {s piece : List Char} {c : Char}
    (isPiece : piece ∈ splitOn separator s) (mem : c ∈ piece) : c ∈ s := by
  induction s generalizing piece with
  | nil =>
      have empty : piece = [] := by simpa [splitOn] using isPiece
      simp [empty] at mem
  | cons d s ih =>
      by_cases same : d = separator
      · subst same
        rw [splitOn_cons_self] at isPiece
        rcases List.mem_cons.1 isPiece with rfl | isPiece
        · simp at mem
        · exact List.mem_cons_of_mem _ (ih isPiece mem)
      · obtain ⟨first, rest, split⟩ := exists_splitOn_eq_cons separator s
        rw [splitOn_cons_of_ne same split] at isPiece
        rcases List.mem_cons.1 isPiece with rfl | isPiece
        · rcases List.mem_cons.1 mem with rfl | mem
          · exact List.mem_cons_self
          · exact List.mem_cons_of_mem _ (ih (by simp [split]) mem)
        · exact List.mem_cons_of_mem _ (ih (by simp [split, isPiece]) mem)

/-- A separator between two texts keeps their pieces apart. -/
theorem splitOn_append_cons (s t : List Char) :
    splitOn separator (s ++ separator :: t) = splitOn separator s ++ splitOn separator t := by
  induction s with
  | nil => simp [splitOn]
  | cons c s ih =>
      by_cases same : c = separator
      · subst same
        rw [List.cons_append, splitOn_cons_self, splitOn_cons_self, ih, List.cons_append]
      · obtain ⟨first, rest, split⟩ := exists_splitOn_eq_cons separator s
        rw [split, List.cons_append] at ih
        rw [List.cons_append, splitOn_cons_of_ne same ih, splitOn_cons_of_ne same split,
          List.cons_append]

/-- A text without the separator is one piece. -/
theorem splitOn_of_notMem {s : List Char} (free : separator ∉ s) : splitOn separator s = [s] := by
  induction s with
  | nil => rfl
  | cons c s ih =>
      rw [List.mem_cons, not_or] at free
      exact splitOn_cons_of_ne (Ne.symm free.1) (ih free.2)

/-- Cutting undoes joining, if no piece contains the separator. -/
theorem splitOn_joinWith {pieces : List (List Char)} (nonempty : pieces ≠ [])
    (free : ∀ piece ∈ pieces, separator ∉ piece) :
    splitOn separator (joinWith [separator] pieces) = pieces := by
  induction pieces with
  | nil => exact absurd rfl nonempty
  | cons piece rest ih =>
      have first : splitOn separator piece = [piece] := splitOn_of_notMem (free piece (by simp))
      cases rest with
      | nil => exact first
      | cons next rest =>
          have others : splitOn separator (joinWith [separator] (next :: rest)) = next :: rest :=
            ih (by simp) (fun p mem => free p (List.mem_cons_of_mem _ mem))
          simp only [joinWith, List.append_assoc, List.singleton_append]
          rw [splitOn_append_cons, first, others, List.singleton_append]

/-- The characters of a joined text stem from the separator or a piece. -/
theorem mem_joinWith {separator : List Char} {pieces : List (List Char)} {c : Char}
    (mem : c ∈ joinWith separator pieces) : c ∈ separator ∨ ∃ piece ∈ pieces, c ∈ piece := by
  induction pieces with
  | nil => simp [joinWith] at mem
  | cons piece rest ih =>
      cases rest with
      | nil => exact Or.inr ⟨piece, by simp, mem⟩
      | cons next rest =>
          simp only [joinWith, List.mem_append] at mem
          rcases mem with (mem | mem) | mem
          · exact Or.inr ⟨piece, by simp, mem⟩
          · exact Or.inl mem
          · rcases ih mem with inSeparator | ⟨other, isPiece, inPiece⟩
            · exact Or.inl inSeparator
            · exact Or.inr ⟨other, List.mem_cons_of_mem _ isPiece, inPiece⟩

/-- Pieces are joined as the library joins them. -/
theorem intercalate_eq_joinWith (separator : List Char) (pieces : List (List Char)) :
    separator.intercalate pieces = joinWith separator pieces := by
  induction pieces with
  | nil => rfl
  | cons piece rest ih =>
      cases rest with
      | nil => exact List.intercalate_singleton
      | cons next rest => rw [List.intercalate_cons_cons, ih, joinWith]

/-! ### Finding one text in another -/

theorem stripPrefix?_eq_some_iff {start s after : List Char} :
    stripPrefix? start s = some after ↔ s = start ++ after := by
  induction start generalizing s with
  | nil => simp [stripPrefix?, eq_comm]
  | cons p ps ih =>
      cases s with
      | nil => simp [stripPrefix?]
      | cons c cs =>
          rw [stripPrefix?, List.cons_append, List.cons.injEq]
          by_cases same : p = c
          · rw [if_pos same, ih, and_iff_right same.symm]
          · rw [if_neg same]
            constructor
            · intro found
              cases found
            · rintro ⟨isSame, -⟩
              exact absurd isSame.symm same

theorem stripPrefix?_isSome_iff (start s : List Char) :
    (stripPrefix? start s).isSome = true ↔ start <+: s := by
  rw [Option.isSome_iff_exists]
  exact exists_congr (fun after => stripPrefix?_eq_some_iff.trans eq_comm)

/-- A text can be cut at a mark just if the mark stands in it. -/
theorem cutAt?_isSome_iff (mark s : List Char) : (cutAt? mark s).isSome = true ↔ mark <:+: s := by
  induction s with
  | nil =>
      rw [cutAt?, List.infix_nil]
      by_cases empty : mark = []
      · simp [empty]
      · simp [empty]
  | cons c rest ih =>
      have here := stripPrefix?_isSome_iff mark (c :: rest)
      rw [List.infix_cons_iff, ← ih, ← here, cutAt?]
      cases stripPrefix? mark (c :: rest) with
      | some after => simp
      | none => simp

/-- A text is cut at the first of some equal characters. -/
theorem cutAt?_singleton_eq_some_iff {c : Char} {s before after : List Char} :
    cutAt? [c] s = some (before, after) ↔ s = before ++ c :: after ∧ c ∉ before := by
  induction s generalizing before with
  | nil => simp [cutAt?]
  | cons d rest ih =>
      by_cases same : c = d
      · subst same
        have here : stripPrefix? [c] (c :: rest) = some rest := stripPrefix?_eq_some_iff.2 rfl
        rw [cutAt?, here]
        cases before with
        | nil => simp [eq_comm]
        | cons e before => simp +contextual [eq_comm]
      · have other : stripPrefix? [c] (d :: rest) = none := by
          rw [Option.eq_none_iff_forall_ne_some]
          intro after isStart
          exact same (List.cons.inj (stripPrefix?_eq_some_iff.1 isStart)).1.symm
        rw [cutAt?, other]
        cases before with
        | nil => simp [Ne.symm same]
        | cons e before =>
            rw [List.cons_append, List.cons.injEq, List.mem_cons, not_or]
            constructor
            · intro found
              obtain ⟨⟨front, back⟩, isCut, whole⟩ := Option.map_eq_some_iff.1 found
              cases whole
              obtain ⟨isRest, free⟩ := ih.1 isCut
              exact ⟨⟨rfl, isRest⟩, same, free⟩
            · rintro ⟨⟨rfl, isRest⟩, -, free⟩
              rw [ih.2 ⟨isRest, free⟩]
              rfl

theorem cutAt?_singleton_eq_none_iff {c : Char} {s : List Char} : cutAt? [c] s = none ↔ c ∉ s := by
  rw [← Option.not_isSome_iff_eq_none, cutAt?_isSome_iff, List.singleton_infix_iff]

/-! ### Replacing one text by another -/

section Replace

variable {mark new : List Char}

theorem joinWith_cons_of_ne_nil {pieces : List (List Char)} (piece : List Char) (more : pieces ≠ []) :
    joinWith new (piece :: pieces) = piece ++ new ++ joinWith new pieces := by
  obtain ⟨next, rest, rfl⟩ := List.exists_cons_of_ne_nil more
  rfl

theorem splitOnTextUpTo_ne_nil (mark : List Char) (fuel : Nat) (s : List Char) :
    splitOnTextUpTo mark fuel s ≠ [] := by
  cases fuel with
  | zero => exact List.cons_ne_nil _ _
  | succ fuel =>
      rw [splitOnTextUpTo]
      split
      · exact List.cons_ne_nil _ _
      · exact List.cons_ne_nil _ _

/-- A text with the marks in it replaced, as many of them as there is fuel. -/
def replaced (mark new : List Char) (fuel : Nat) (s : List Char) : List Char :=
  joinWith new (splitOnTextUpTo mark fuel s)

theorem replaced_nil (nonempty : mark ≠ []) (fuel : Nat) : replaced mark new fuel [] = [] := by
  cases fuel with
  | zero => rfl
  | succ fuel =>
      have notFound : cutAt? mark [] = none := by rw [cutAt?, if_neg nonempty]
      rw [replaced, splitOnTextUpTo, notFound]
      rfl

theorem replaced_mark (nonempty : mark ≠ []) (fuel : Nat) (after : List Char) :
    replaced mark new (fuel + 1) (mark ++ after) = new ++ replaced mark new fuel after := by
  obtain ⟨c, rest, rfl⟩ := List.exists_cons_of_ne_nil nonempty
  have found : cutAt? (c :: rest) (c :: rest ++ after) = some ([], after) := by
    rw [List.cons_append, cutAt?, ← List.cons_append, stripPrefix?_eq_some_iff.2 rfl]
  rw [replaced, splitOnTextUpTo, found]
  exact joinWith_cons_of_ne_nil [] (splitOnTextUpTo_ne_nil _ _ _)

theorem replaced_cons {c : Char} {s : List Char} (other : stripPrefix? mark (c :: s) = none)
    (fuel : Nat) : replaced mark new fuel (c :: s) = c :: replaced mark new fuel s := by
  cases fuel with
  | zero => rfl
  | succ fuel =>
      have found : cutAt? mark (c :: s) = (cutAt? mark s).map (fun p => (c :: p.1, p.2)) := by
        rw [cutAt?, other]
      rw [replaced, replaced, splitOnTextUpTo, splitOnTextUpTo, found]
      cases cutAt? mark s with
      | none => rfl
      | some cut =>
          simp only [Option.map_some]
          rw [joinWith_cons_of_ne_nil _ (splitOnTextUpTo_ne_nil _ _ _),
            joinWith_cons_of_ne_nil _ (splitOnTextUpTo_ne_nil _ _ _)]
          rfl

/-- Fuel for every character is enough. -/
theorem replaced_of_le (nonempty : mark ≠ []) {fuel : Nat} {s : List Char} (enough : s.length ≤ fuel) :
    replaced mark new fuel s = replaced mark new s.length s := by
  -- On the length: behind a mark the text is shorter by more than the fuel that the mark takes.
  induction size : s.length using Nat.strongRecOn generalizing s fuel with
  | ind n ih =>
      cases s with
      | nil =>
          subst size
          rw [replaced_nil nonempty, replaced_nil nonempty]
      | cons c rest =>
          subst size
          cases fuel with
          | zero => cases enough
          | succ fuel =>
              rw [List.length_cons] at enough ⊢
              cases found : stripPrefix? mark (c :: rest) with
              | none =>
                  rw [replaced_cons found, replaced_cons found,
                    ih rest.length (Nat.lt_succ_self _) (Nat.le_of_succ_le enough) rfl,
                    ih rest.length (Nat.lt_succ_self _) (Nat.le_succ _) rfl]
              | some after =>
                  have whole := stripPrefix?_eq_some_iff.1 found
                  have shorter : after.length ≤ rest.length := by
                    have sizes := congrArg List.length whole
                    have some := List.length_pos_iff.2 nonempty
                    rw [List.length_append, List.length_cons] at sizes
                    omega
                  rw [whole, replaced_mark nonempty, replaced_mark nonempty,
                    ih after.length (Nat.lt_succ_of_le shorter) (by omega) rfl,
                    ih after.length (Nat.lt_succ_of_le shorter) shorter rfl]

theorem replaceAll_eq (nonempty : mark ≠ []) (s : List Char) :
    replaceAll mark new none s = replaced mark new s.length s := by
  rw [replaceAll, if_neg nonempty, splitOnText, Option.getD_none, Nat.min_self, replaced]

theorem replaceAll_nil (nonempty : mark ≠ []) : replaceAll mark new none [] = [] := by
  rw [replaceAll_eq nonempty]
  rfl

theorem replaceAll_mark (nonempty : mark ≠ []) (after : List Char) :
    replaceAll mark new none (mark ++ after) = new ++ replaceAll mark new none after := by
  rw [replaceAll_eq nonempty, replaceAll_eq nonempty]
  obtain ⟨c, rest, rfl⟩ := List.exists_cons_of_ne_nil nonempty
  have size : (c :: rest ++ after).length = (rest ++ after).length + 1 := rfl
  rw [size, replaced_mark nonempty, replaced_of_le nonempty (by simp)]

theorem replaceAll_cons (nonempty : mark ≠ []) {c : Char} {s : List Char}
    (other : stripPrefix? mark (c :: s) = none) :
    replaceAll mark new none (c :: s) = c :: replaceAll mark new none s := by
  rw [replaceAll_eq nonempty, replaceAll_eq nonempty, replaced_cons other,
    replaced_of_le nonempty (by simp)]

end Replace

end LayeredFiles.Text
