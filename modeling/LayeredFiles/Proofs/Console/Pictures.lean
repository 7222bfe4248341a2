import LayeredFiles.Proofs.Console.Tags
import LayeredFiles.Proofs.Text.Split
/-
Module: LayeredFiles.Proofs.Console.Pictures
Layer: Proofs
Purpose: texts without the code of a picture. A code has no brackets and no backslashes, so it stands in a run
  of characters between these. Escaping a text, taking it apart and leaving out its backslashes make no new
  run, so where a text holds no code none comes up in what is shown of it, and that is what is written.
Main exports: Console.HoldsNoCode, Console.pictured_eq, Console.RunsIn, Console.unescapeBrackets_sublist,
  Console.writtenText, Console.shownText_eq_writtenText, Console.HoldsNoCode.escapeTags
-/

namespace LayeredFiles.Console

/-! ### Codes -/

/-- No name of a picture stands between two colons of the text. -/
def HoldsNoCode [Host] (s : List Char) : Prop :=
  ∀ name picture, Host.picture? name = some picture → ¬ ':' :: name ++ [':'] <:+: s

theorem takeName?_eq_some {s name behind : List Char} (found : takeName? s = some (name, behind)) :
    s = name ++ ':' :: behind := by
  unfold takeName? at found
  split at found
  · rename_i after isRest
    cases found
    rw [← isRest, List.takeWhile_append_dropWhile]
  · cases found

section Codes

variable [Host] {s t : List Char}

theorem HoldsNoCode.of_infix (none : HoldsNoCode s) (isIn : t <:+: s) : HoldsNoCode t :=
  fun name picture isPicture isCode => none name picture isPicture (isCode.trans isIn)

theorem holdsNoCode_of_noColon (noColon : ':' ∉ s) : HoldsNoCode s :=
  fun _ _ _ isCode => noColon (isCode.subset (by simp))

/-- A text without codes is shown as it is. -/
theorem picturedFrom_eq (none : HoldsNoCode s) {fuel : Nat} (enough : s.length < fuel) :
    picturedFrom fuel s = s := by
  induction fuel generalizing s with
  | zero => cases enough
  | succ fuel ih =>
      cases s with
      | nil => rfl
      | cons c rest =>
          have behind : picturedFrom fuel rest = rest :=
            ih (none.of_infix (List.suffix_cons c rest).isInfix) (Nat.lt_of_succ_lt_succ enough)
          rw [picturedFrom]
          split
          · rename_i isColon
            subst isColon
            split
            · rename_i name after found
              have whole := takeName?_eq_some found
              have noPicture : Host.picture? name = .none := by
                cases isPicture : Host.picture? name with
                | none => rfl
                | some picture =>
                    refine absurd ⟨[], after, ?_⟩ (none name picture isPicture)
                    rw [whole]
                    simp
              have isAfter : picturedFrom fuel after = after := by
                apply ih (none.of_infix ⟨':' :: name ++ [':'], [], by rw [whole]; simp⟩)
                rw [whole] at enough
                simp only [List.length_cons, List.length_append] at enough
                omega
              rw [noPicture, isAfter, whole]
              simp
            · rw [behind]
          · rw [behind]

theorem pictured_eq (none : HoldsNoCode s) : pictured s = s := picturedFrom_eq none (Nat.lt_succ_self _)

/-- A code begins behind what has no colon. -/
theorem HoldsNoCode.cons {c : Char} (noColon : c ≠ ':') (none : HoldsNoCode s) : HoldsNoCode (c :: s) := by
  intro name picture isPicture isCode
  rcases List.infix_cons_iff.1 isCode with atFront | behind
  · exact noColon (List.cons_prefix_cons.1 atFront).1.symm
  · exact none name picture isPicture behind

theorem HoldsNoCode.append {front : List Char} (noColon : ':' ∉ front) (none : HoldsNoCode s) :
    HoldsNoCode (front ++ s) := by
  induction front with
  | nil => exact none
  | cons c rest ih =>
      rw [List.mem_cons, not_or] at noColon
      exact (ih noColon.2).cons (fun isColon => noColon.1 isColon.symm)

/-- A code ends in front of what has no colon. -/
theorem HoldsNoCode.append_right {back : List Char} (none : HoldsNoCode s) (noColon : ':' ∉ back) :
    HoldsNoCode (s ++ back) := by
  induction back using List.reverseRecOn with
  | nil => rwa [List.append_nil]
  | append_singleton rest c ih =>
      rw [List.mem_append, List.mem_singleton, not_or] at noColon
      intro name picture isPicture isCode
      rw [← List.append_assoc] at isCode
      rcases List.infix_concat_iff.1 isCode with atEnd | inside
      · have last := List.suffix_concat_iff.1 atEnd
        rcases last with isNone | ⟨code, same, -⟩
        · simp at isNone
        · exact noColon.2 (List.singleton_inj.1 (List.append_inj' same rfl).2)
      · exact ih noColon.1 name picture isPicture inside

end Codes

/-! ### Runs between marks -/

/-- Every run of characters of the first text that has no brackets and no backslashes stands in the second,
    and in front of it if it stood in front. -/
structure RunsIn (s t : List Char) : Prop where
  front : ∀ run, IsPlain run → run <+: s → run <+: t
  inside : ∀ run, IsPlain run → run ≠ [] → run <:+: s → run <:+: t

namespace RunsIn

variable {s t : List Char}

theorem refl (s : List Char) : RunsIn s s := ⟨fun _ _ isFront => isFront, fun _ _ _ isIn => isIn⟩

theorem nil (t : List Char) : RunsIn [] t := by
  refine ⟨fun run _ isFront => ?_, fun run _ nonempty isIn => ?_⟩
  · rw [List.prefix_nil.1 isFront]
    exact List.nil_prefix
  · exact absurd (List.infix_nil.1 isIn) nonempty

theorem cons (runs : RunsIn s t) (c : Char) : RunsIn (c :: s) (c :: t) := by
  have front : ∀ run, IsPlain run → run <+: c :: s → run <+: c :: t := by
    intro run plain isFront
    cases run with
    | nil => exact List.nil_prefix
    | cons d run =>
        obtain ⟨rfl, behind⟩ := List.cons_prefix_cons.1 isFront
        exact List.cons_prefix_cons.2 ⟨rfl, runs.front run (fun e mem => plain e (List.mem_cons_of_mem _ mem))
          behind⟩
  refine ⟨front, fun run plain nonempty isIn => ?_⟩
  rcases List.infix_cons_iff.1 isIn with isFront | behind
  · exact (front run plain isFront).isInfix
  · exact (runs.inside run plain nonempty behind).trans (List.suffix_cons c t).isInfix

theorem append (runs : RunsIn s t) (front : List Char) : RunsIn (front ++ s) (front ++ t) := by
  induction front with
  | nil => exact runs
  | cons c rest ih => exact ih.cons c

/-- No run goes over a mark, so behind one anything may stand in front of the other text. -/
theorem mark (runs : RunsIn s t) {c : Char} (isMark : c = '\\' ∨ c = '[') (front : List Char) :
    RunsIn (c :: s) (front ++ t) := by
  have noFront : ∀ run, IsPlain run → run <+: c :: s → run = [] := by
    intro run plain isFront
    cases run with
    | nil => rfl
    | cons d run =>
        obtain ⟨rfl, -⟩ := List.cons_prefix_cons.1 isFront
        obtain ⟨notBackslash, notBracket⟩ := plain d List.mem_cons_self
        exact (isMark.elim notBackslash notBracket).elim
  refine ⟨fun run plain isFront => ?_, fun run plain nonempty isIn => ?_⟩
  · rw [noFront run plain isFront]
    exact List.nil_prefix
  · rcases List.infix_cons_iff.1 isIn with isFront | behind
    · exact absurd (noFront run plain isFront) nonempty
    · exact (runs.inside run plain nonempty behind).trans (List.suffix_append front t).isInfix

end RunsIn

section Codes

variable [Host] {s t : List Char}

theorem isPlain_code {name picture : List Char} (isPicture : Host.picture? name = some picture) :
    IsPlain (':' :: name ++ [':']) := by
  have plain := Host.unmarked_of_picture name picture isPicture
  intro c mem
  simp only [List.mem_append, List.mem_cons, List.not_mem_nil, or_false] at mem
  rcases mem with (rfl | isName) | rfl
  · decide
  · exact plain c isName
  · decide

/-- A text whose runs stand in a text without codes has none. -/
theorem HoldsNoCode.of_runs (none : HoldsNoCode t)
    (inside : ∀ run, IsPlain run → run ≠ [] → run <:+: s → run <:+: t) : HoldsNoCode s :=
  fun name picture isPicture isCode =>
    none name picture isPicture (inside _ (isPlain_code isPicture) (by simp) isCode)

end Codes

/-! ### Backslashes that are not shown -/

@[simp] theorem unescapeBrackets_nil : unescapeBrackets [] = [] :=
  Text.replaceAll_nil (List.cons_ne_nil _ _)

@[simp] theorem unescapeBrackets_escape (s : List Char) :
    unescapeBrackets ('\\' :: '[' :: s) = '[' :: unescapeBrackets s :=
  Text.replaceAll_mark (List.cons_ne_nil _ _) s

theorem unescapeBrackets_cons {c : Char} {s : List Char} (other : ¬(c = '\\' ∧ s.head? = some '[')) :
    unescapeBrackets (c :: s) = c :: unescapeBrackets s := by
  apply Text.replaceAll_cons (List.cons_ne_nil _ _)
  cases found : Text.stripPrefix? ['\\', '['] (c :: s) with
  | none => rfl
  | some after =>
      cases Text.stripPrefix?_eq_some_iff.1 found
      exact absurd ⟨rfl, rfl⟩ other

/-- Without brackets everything is shown. -/
theorem unescapeBrackets_of_noBracket {s : List Char} (noBracket : '[' ∉ s) : unescapeBrackets s = s := by
  induction s with
  | nil => exact unescapeBrackets_nil
  | cons c rest ih =>
      rw [List.mem_cons, not_or] at noBracket
      rw [unescapeBrackets_cons (fun escapes => noBracket.2 (List.mem_of_mem_head? escapes.2)),
        ih noBracket.2]

/-- What is shown of a text is left of it. -/
theorem unescapeBrackets_sublist (s : List Char) : (unescapeBrackets s).Sublist s := by
  induction s with
  | nil => exact unescapeBrackets_nil.symm ▸ List.nil_sublist []
  | cons c rest ih =>
      by_cases escapes : c = '\\' ∧ rest.head? = some '['
      · obtain ⟨rfl, isBracket⟩ := escapes
        obtain ⟨after, rfl⟩ := List.head?_eq_some_iff.1 isBracket
        rw [unescapeBrackets_cons (by simp)] at ih
        rw [unescapeBrackets_escape]
        exact ih.cons _
      · rw [unescapeBrackets_cons escapes]
        exact ih.cons_cons c

theorem runsIn_unescapeBrackets (s : List Char) : RunsIn (unescapeBrackets s) s := by
  have both : RunsIn (unescapeBrackets s) s ∧ ∀ c, RunsIn (unescapeBrackets (c :: s)) (c :: s) := by
    induction s with
    | nil =>
        refine ⟨unescapeBrackets_nil.symm ▸ .refl [], fun c => ?_⟩
        rw [unescapeBrackets_cons (by simp), unescapeBrackets_nil]
        exact .refl [c]
    | cons d rest ih =>
        refine ⟨ih.2 d, fun c => ?_⟩
        by_cases escapes : c = '\\' ∧ d = '['
        · obtain ⟨rfl, rfl⟩ := escapes
          rw [unescapeBrackets_escape]
          exact ih.1.mark (Or.inr rfl) ['\\', '[']
        · rw [unescapeBrackets_cons (by simpa using escapes)]
          exact (ih.2 d).cons c
  exact both.1

/-! ### Pieces -/

/-- What some pieces show where pictures are left as their codes. -/
def writtenText : List Piece → List Char
  | [] => []
  | .text chars :: rest => unescapeBrackets chars ++ writtenText rest
  | .tag _ _ :: rest => writtenText rest

/-- The runs in the texts of some pieces stand in a text, those at the front of the first one in front. -/
structure RunsInPieces (pieces : List Piece) (s : List Char) : Prop where
  front : ∀ chars rest, pieces = .text chars :: rest → ∀ run, IsPlain run → run <+: chars → run <+: s
  inside : ∀ chars, .text chars ∈ pieces → ∀ run, IsPlain run → run ≠ [] → run <:+: chars → run <:+: s

theorem RunsInPieces.consChar {pieces : List Piece} {s : List Char} (runs : RunsInPieces pieces s) (c : Char) :
    RunsInPieces (consChar c pieces) (c :: s) := by
  have older : ∀ chars, .text chars ∈ pieces → ∀ run, IsPlain run → run ≠ [] → run <:+: chars →
      run <:+: c :: s := fun chars mem run plain nonempty isIn =>
    (runs.inside chars mem run plain nonempty isIn).trans (List.suffix_cons c s).isInfix
  -- The first text begins with the character, and its rest is one of whose runs we know.
  have first : ∀ chars, (∀ run, IsPlain run → run <+: chars → run <+: s) →
      (∀ run, IsPlain run → run ≠ [] → run <:+: chars → run <:+: s) → RunsIn (c :: chars) (c :: s) :=
    fun chars front inside => RunsIn.cons ⟨front, inside⟩ c
  unfold Console.consChar
  split
  · rename_i chars rest
    have runsIn := first chars (runs.front chars rest rfl) (runs.inside chars List.mem_cons_self)
    refine ⟨?_, fun chars' mem => ?_⟩
    · rintro chars' rest' same
      cases same
      exact runsIn.front
    · rcases List.mem_cons.1 mem with same | isLater
      · cases same
        exact runsIn.inside
      · exact older chars' (List.mem_cons_of_mem _ isLater)
  · have runsIn := first [] (RunsIn.nil s).front (RunsIn.nil s).inside
    refine ⟨?_, fun chars' mem => ?_⟩
    · rintro chars' rest' same
      cases same
      exact runsIn.front
    · rcases List.mem_cons.1 mem with same | isLater
      · cases same
        exact runsIn.inside
      · exact older chars' isLater

/-- The runs in the pieces of a text stand in the text. -/
theorem runsInPieces_piecesFrom (fuel position : Nat) (s : List Char) :
    RunsInPieces (piecesFrom fuel position s) s := by
  induction fuel generalizing position s with
  | zero => exact ⟨by simp [piecesFrom], by simp [piecesFrom]⟩
  | succ fuel ih =>
      cases s with
      | nil => exact ⟨by simp [piecesFrom], by simp [piecesFrom]⟩
      | cons c rest =>
          cases found : leadingTag? (c :: rest) with
          | none =>
              rw [piecesFrom_of_none found]
              exact (ih _ _).consChar c
          | some tag =>
              obtain ⟨isInside, whole⟩ := of_leadingTag? found
              rw [whole, piecesFrom_tagText isInside]
              have slashes : ∀ run, IsPlain run → run <:+:
                  List.replicate ((takeBackslashes (c :: rest)).1 / 2) '\\' → run = [] := by
                intro run plain isIn
                cases run with
                | nil => rfl
                | cons d run =>
                    have isSlash := (List.mem_replicate.1 (isIn.subset List.mem_cons_self)).2
                    exact absurd isSlash (plain d List.mem_cons_self).1
              refine ⟨?_, fun chars mem => ?_⟩
              · rintro chars rest' same run plain isFront
                cases same
                rw [slashes run plain isFront.isInfix]
                exact List.nil_prefix
              · rintro run plain nonempty isIn
                rw [List.cons_append, List.mem_cons, List.mem_append] at mem
                rcases mem with isSlashes | isTag | isLater
                · cases isSlashes
                  exact absurd (slashes run plain isIn) nonempty
                · split at isTag
                  · cases List.mem_singleton.1 isTag
                    refine isIn.trans ⟨List.replicate (takeBackslashes (c :: rest)).1 '\\', tag.2, ?_⟩
                    simp [tagText]
                  · simp at isTag
                · exact ((ih _ _).inside chars isLater run plain nonempty isIn).trans
                    (List.suffix_append _ _).isInfix

/-- What is shown of a text without codes is what is written. -/
theorem shownText_eq_writtenText [Host] {s : List Char} (none : HoldsNoCode s) (fuel position : Nat) :
    shownText (piecesFrom fuel position s) = writtenText (piecesFrom fuel position s) := by
  have each : ∀ chars, .text chars ∈ piecesFrom fuel position s →
      pictured (unescapeBrackets chars) = unescapeBrackets chars := by
    intro chars mem
    have noCode : HoldsNoCode chars := none.of_runs ((runsInPieces_piecesFrom fuel position s).inside chars mem)
    exact pictured_eq (noCode.of_runs (runsIn_unescapeBrackets chars).inside)
  generalize piecesFrom fuel position s = pieces at each
  induction pieces with
  | nil => rfl
  | cons piece rest ih =>
      have others := ih (fun chars mem => each chars (List.mem_cons_of_mem _ mem))
      cases piece with
      | text chars => rw [shownText, writtenText, each chars List.mem_cons_self, others]
      | tag position inside => exact others

/-! ### Escaped texts -/

theorem runsIn_escapeFrom (fuel : Nat) (s : List Char) : RunsIn (escapeFrom fuel s) s := by
  induction fuel generalizing s with
  | zero => exact .nil s
  | succ fuel ih =>
      cases s with
      | nil => exact .nil []
      | cons c rest =>
          cases found : leadingTag? (c :: rest) with
          | none =>
              rw [escapeFrom_of_none found]
              exact (ih rest).cons c
          | some tag =>
              obtain ⟨isInside, whole⟩ := of_leadingTag? found
              -- Behind the bracket the escaped text goes on as the text does.
              have behind : RunsIn (tag.1 ++ ([']'] ++ escapeFrom fuel tag.2)) (tag.1 ++ ([']'] ++ tag.2)) :=
                ((ih tag.2).append _).append _
              have slashes : ∀ count, RunsIn (tagText count tag.1 ++ escapeFrom fuel tag.2)
                  (tagText (takeBackslashes (c :: rest)).1 tag.1 ++ tag.2) := by
                intro count
                induction count with
                | zero =>
                    have marked := behind.mark (c := '[') (Or.inr rfl)
                      (List.replicate (takeBackslashes (c :: rest)).1 '\\' ++ ['['])
                    simpa [tagText] using marked
                | succ count ih => simpa [tagText, List.replicate_succ] using ih.mark (Or.inl rfl) []
              rw [whole, escapeFrom_tagText isInside]
              exact slashes _

theorem runsIn_escapeTags (s : List Char) (run : List Char) (plain : IsPlain run) (nonempty : run ≠ [])
    (isIn : run <:+: escapeTags s) : run <:+: s := by
  have escaped : run <:+: escapeFrom (s.length + 1) s := by
    simp only [escapeTags] at isIn
    split at isIn
    · exact isIn
    · rcases List.infix_concat_iff.1 isIn with atEnd | inside
      · rcases List.suffix_concat_iff.1 atEnd with isNone | ⟨front, rfl, -⟩
        · exact absurd isNone nonempty
        · exact absurd rfl (plain '\\' (by simp)).1
      · exact inside
    · exact isIn
  exact (runsIn_escapeFrom _ s).inside run plain nonempty escaped

theorem HoldsNoCode.escapeTags [Host] {s : List Char} (none : HoldsNoCode s) :
    HoldsNoCode (escapeTags s) :=
  none.of_runs (runsIn_escapeTags s)

end LayeredFiles.Console
