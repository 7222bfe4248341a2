import LayeredFiles.Proofs.Console.Shown
import LayeredFiles.Proofs.Text.Split
/-
Module: LayeredFiles.Proofs.Console.Literal
Layer: Proofs
Purpose: console texts that are shown as they are. What is written of a text is what is left of it without its
  tags and without the backslashes in front of brackets, so it is the whole text just if it has neither; a text
  that has them loses brackets or backslashes, and on a console nothing brings these back. The same holds of a
  text in a line behind a word in a style.
Main exports: Console.writtenText_sublist, Console.IsLiteral, Console.marks_writtenText_lt,
  Console.plainText_eq_iff, Console.ShowsUpTo, Console.line_word_iff
-/

namespace LayeredFiles

namespace Console

/-! ### What is written of pieces -/

/-- The pieces begin with a text that begins with a bracket. -/
def BeginsWithBracket (pieces : List Piece) : Prop :=
  ∃ chars rest, pieces = .text ('[' :: chars) :: rest

/-- A character in front is shown, unless it is a backslash in front of a bracket. -/
theorem writtenText_consChar {c : Char} {pieces : List Piece}
    (other : ¬(c = '\\' ∧ BeginsWithBracket pieces)) :
    writtenText (consChar c pieces) = c :: writtenText pieces := by
  have alone : unescapeBrackets [c] = [c] := by
    rw [unescapeBrackets_cons (by simp), unescapeBrackets_nil]
  cases pieces with
  | nil => exact congrArg (· ++ []) alone
  | cons piece rest =>
      cases piece with
      | tag position inside => exact congrArg (· ++ writtenText rest) alone
      | text chars =>
          have noEscape : ¬(c = '\\' ∧ chars.head? = some '[') := by
            rintro ⟨isBackslash, isBracket⟩
            obtain ⟨after, rfl⟩ := List.head?_eq_some_iff.1 isBracket
            exact other ⟨isBackslash, after, rest, rfl⟩
          rw [consChar, writtenText, writtenText, unescapeBrackets_cons noEscape]
          rfl

theorem writtenText_consChar_backslash {pieces : List Piece} (bracket : BeginsWithBracket pieces) :
    writtenText (consChar '\\' pieces) = writtenText pieces := by
  obtain ⟨chars, rest, rfl⟩ := bracket
  rw [consChar, writtenText, writtenText, unescapeBrackets_escape, unescapeBrackets_cons (by simp)]

theorem marks_replicate (count : Nat) : marks (List.replicate count '\\') = count := by
  simp [marks, List.countP_replicate]

theorem marks_tagText (count : Nat) (inside : List Char) :
    marks (tagText count inside) = count + 1 + marks inside := by
  rw [tagText, marks_append, marks_append, marks_replicate]
  simp [marks]
  omega

/-- Nothing is written of a tag but backslashes in front of it and, behind an odd number of them, itself. -/
theorem writtenText_tagText {inside : List Char} (isInside : IsInside inside) (count : Nat)
    (behind : List Char) (fuel position : Nat) :
    ∃ shown position', shown.Sublist (tagText count inside) ∧ marks shown < marks (tagText count inside) ∧
      writtenText (piecesFrom (fuel + 1) position (tagText count inside ++ behind)) =
        shown ++ writtenText (piecesFrom fuel position' behind) := by
  have half : (List.replicate (count / 2) '\\').Sublist (List.replicate count '\\') := by
    rw [List.replicate_sublist_replicate]
    exact Nat.div_le_self count 2
  have slashes := unescapeBrackets_sublist (List.replicate (count / 2) '\\')
  have few := marks_le_of_sublist slashes
  rw [marks_replicate] at few
  rw [piecesFrom_tagText isInside]
  by_cases odd : count % 2 = 1
  · rw [if_pos odd]
    have itself := unescapeBrackets_sublist ('[' :: inside ++ [']'])
    refine ⟨unescapeBrackets (List.replicate (count / 2) '\\') ++
      unescapeBrackets ('[' :: inside ++ [']']), position + count + inside.length + 2, ?_, ?_, ?_⟩
    · rw [tagText, List.append_assoc]
      exact (slashes.trans half).append itself
    · have more := marks_le_of_sublist itself
      have one : marks ('[' :: inside ++ [']']) = 1 + marks inside := by
        simpa [tagText] using marks_tagText 0 inside
      rw [marks_tagText, marks_append]
      omega
    · simp [writtenText]
  · rw [if_neg odd]
    refine ⟨unescapeBrackets (List.replicate (count / 2) '\\'), position + count + inside.length + 2,
      ?_, ?_, ?_⟩
    · rw [tagText, List.append_assoc]
      exact (slashes.trans half).trans (List.sublist_append_left _ _)
    · rw [marks_tagText]
      omega
    · simp [writtenText]

/-- What is written of a text is left of it. -/
theorem writtenText_sublist (fuel position : Nat) (s : List Char) :
    (writtenText (piecesFrom fuel position s)).Sublist s := by
  induction fuel generalizing position s with
  | zero => exact List.nil_sublist s
  | succ fuel ih =>
      cases s with
      | nil => exact List.Sublist.slnil
      | cons c rest =>
          cases found : leadingTag? (c :: rest) with
          | some tag =>
              obtain ⟨isInside, whole⟩ := of_leadingTag? found
              obtain ⟨shown, position', isLeft, -, same⟩ :=
                writtenText_tagText isInside (takeBackslashes (c :: rest)).1 tag.2 fuel position
              rw [whole, same]
              exact isLeft.append (ih position' tag.2)
          | none =>
              rw [piecesFrom_of_none found]
              by_cases escapes : c = '\\' ∧ BeginsWithBracket (piecesFrom fuel (position + 1) rest)
              · obtain ⟨rfl, bracket⟩ := escapes
                rw [writtenText_consChar_backslash bracket]
                exact (ih _ _).cons _
              · rw [writtenText_consChar escapes]
                exact (ih _ _).cons_cons c

/-- The pieces of a text begin with a bracket just if the text does and no tag begins with it. -/
theorem beginsWithBracket_iff (fuel position : Nat) {s : List Char} (noTag : leadingTag? s = none) :
    BeginsWithBracket (piecesFrom (fuel + 1) position s) ↔ s.head? = some '[' := by
  cases s with
  | nil =>
      constructor
      · rintro ⟨chars, rest, same⟩
        cases same
      · intro bracket
        cases bracket
  | cons c rest =>
      rw [piecesFrom_of_none noTag, List.head?_cons, Option.some.injEq]
      constructor
      · rintro ⟨chars, more, same⟩
        unfold consChar at same
        split at same
        · cases same
          rfl
        · cases same
          rfl
      · rintro rfl
        unfold consChar
        split
        · exact ⟨_, _, rfl⟩
        · exact ⟨_, _, rfl⟩

/-! ### Literal texts -/

/-- The text holds no tag and no backslash in front of a bracket. -/
def IsLiteral (s : List Char) : Prop :=
  (∀ inside, IsInside inside → ¬ '[' :: inside ++ [']'] <:+: s) ∧ ¬ ['\\', '['] <:+: s

theorem isLiteral_nil : IsLiteral [] := by
  refine ⟨fun inside _ isPart => ?_, fun isPart => ?_⟩
  · cases List.infix_nil.1 isPart
  · cases List.infix_nil.1 isPart

theorem not_isLiteral_tagText {inside : List Char} (isInside : IsInside inside) (count : Nat)
    (behind : List Char) : ¬IsLiteral (tagText count inside ++ behind) := by
  intro literal
  apply literal.1 inside isInside
  exact ⟨List.replicate count '\\', behind, by simp [tagText]⟩

/-- A character in front of which no tag begins keeps a text literal, unless it is a backslash in front of a
    bracket. -/
theorem isLiteral_cons_iff {c : Char} {s : List Char} (noTag : leadingTag? (c :: s) = none) :
    IsLiteral (c :: s) ↔ ¬(c = '\\' ∧ s.head? = some '[') ∧ IsLiteral s := by
  have noFront : ∀ inside, IsInside inside → ¬ '[' :: inside ++ [']'] <+: c :: s := by
    rintro inside isInside ⟨behind, whole⟩
    have isTag := leadingTag?_tagText isInside 0 behind
    have same : tagText 0 inside ++ behind = c :: s := whole
    rw [same, noTag] at isTag
    cases isTag
  have front : ['\\', '['] <+: c :: s ↔ c = '\\' ∧ s.head? = some '[' := by
    cases s with
    | nil => simp
    | cons d rest => simp [eq_comm]
  simp only [IsLiteral, List.infix_cons_iff, front, not_or]
  constructor
  · rintro ⟨tags, noEscape, escapes⟩
    exact ⟨noEscape, fun inside isInside => (tags inside isInside).2, escapes⟩
  · rintro ⟨noEscape, tags, escapes⟩
    exact ⟨fun inside isInside => ⟨noFront inside isInside, tags inside isInside⟩, noEscape, escapes⟩

/-- The pieces behind a character begin with a bracket just if the text does, where the character is a
    backslash and begins no tag. -/
theorem escapes_iff {c : Char} {rest : List Char} (noTag : leadingTag? (c :: rest) = none) {fuel : Nat}
    (position : Nat) (enough : rest.length < fuel) :
    c = '\\' ∧ BeginsWithBracket (piecesFrom fuel position rest) ↔ c = '\\' ∧ rest.head? = some '[' := by
  cases fuel with
  | zero => cases enough
  | succ fuel =>
      apply and_congr_right
      rintro rfl
      rw [leadingTag?_backslash] at noTag
      exact beginsWithBracket_iff fuel _ noTag

/-- A literal text is written as it is. -/
theorem writtenText_of_isLiteral {fuel : Nat} (position : Nat) {s : List Char} (enough : s.length < fuel)
    (literal : IsLiteral s) : writtenText (piecesFrom fuel position s) = s := by
  induction fuel generalizing position s with
  | zero => cases enough
  | succ fuel ih =>
      cases s with
      | nil => rfl
      | cons c rest =>
          have behind : rest.length < fuel := Nat.lt_of_succ_lt_succ enough
          cases found : leadingTag? (c :: rest) with
          | some tag =>
              obtain ⟨isInside, whole⟩ := of_leadingTag? found
              rw [whole] at literal
              exact absurd literal (not_isLiteral_tagText isInside _ _)
          | none =>
              obtain ⟨noEscape, isRest⟩ := (isLiteral_cons_iff found).1 literal
              rw [piecesFrom_of_none found, writtenText_consChar (mt (escapes_iff found _ behind).1 noEscape),
                ih _ behind isRest]

/-- A text that is not literal loses brackets or backslashes. -/
theorem marks_writtenText_lt {fuel : Nat} (position : Nat) {s : List Char} (enough : s.length < fuel)
    (notLiteral : ¬IsLiteral s) : marks (writtenText (piecesFrom fuel position s)) < marks s := by
  induction fuel generalizing position s with
  | zero => cases enough
  | succ fuel ih =>
      cases s with
      | nil => exact absurd isLiteral_nil notLiteral
      | cons c rest =>
          have behind : rest.length < fuel := Nat.lt_of_succ_lt_succ enough
          cases found : leadingTag? (c :: rest) with
          | some tag =>
              obtain ⟨isInside, whole⟩ := of_leadingTag? found
              obtain ⟨shown, position', -, fewer, same⟩ :=
                writtenText_tagText isInside (takeBackslashes (c :: rest)).1 tag.2 fuel position
              have others := marks_le_of_sublist (writtenText_sublist fuel position' tag.2)
              rw [whole, same, marks_append, marks_append]
              omega
          | none =>
              rw [piecesFrom_of_none found]
              rw [isLiteral_cons_iff found, not_and] at notLiteral
              by_cases isEscape : c = '\\' ∧ rest.head? = some '['
              · obtain ⟨isBackslash, bracket⟩ := (escapes_iff found (position + 1) behind).2 isEscape
                have others := marks_le_of_sublist (writtenText_sublist fuel (position + 1) rest)
                have one : marks ('\\' :: rest) = marks rest + 1 := by simp [marks]
                rw [isBackslash, writtenText_consChar_backslash bracket, one]
                omega
              · have others := ih (position + 1) behind (notLiteral isEscape)
                have first := marks_append [c]
                rw [writtenText_consChar (mt (escapes_iff found _ behind).1 isEscape)]
                exact (first _).trans_lt ((Nat.add_lt_add_left others _).trans_eq (first _).symm)

/-- A text is written as it is just if it is literal. -/
theorem writtenText_piecesFrom_iff {fuel : Nat} (position : Nat) {s : List Char} (enough : s.length < fuel) :
    writtenText (piecesFrom fuel position s) = s ↔ IsLiteral s := by
  constructor
  · intro same
    by_cases literal : IsLiteral s
    · exact literal
    · have fewer := marks_writtenText_lt position enough literal
      rw [same] at fewer
      exact absurd fewer (lt_irrefl _)
  · exact writtenText_of_isLiteral position enough

instance (s : List Char) : Decidable (IsLiteral s) :=
  decidable_of_iff (writtenText (pieces s) = s) (writtenText_piecesFrom_iff 0 (Nat.lt_succ_self _))

theorem tagsOf_of_isLiteral {s : List Char} (literal : IsLiteral s) (fuel position : Nat) :
    tagsOf (piecesFrom fuel position s) = [] := by
  induction s generalizing fuel position with
  | nil => cases fuel <;> rfl
  | cons c rest ih =>
      cases fuel with
      | zero => rfl
      | succ fuel =>
          cases found : leadingTag? (c :: rest) with
          | some tag =>
              obtain ⟨isInside, whole⟩ := of_leadingTag? found
              rw [whole] at literal
              exact absurd literal (not_isLiteral_tagText isInside _ _)
          | none =>
              rw [piecesFrom_of_none found, tagsOf_consChar]
              exact ih ((isLiteral_cons_iff found).1 literal).2 _ _

theorem isLiteral_of_noBracket {s : List Char} (noBracket : '[' ∉ s) : IsLiteral s := by
  refine ⟨fun inside _ isPart => ?_, fun isPart => ?_⟩
  · exact noBracket (isPart.subset (by simp))
  · exact noBracket (isPart.subset (by simp))

section Reading

variable [Host] {s : List Char}

/-- A literal text can be shown. -/
theorem IsLiteral.shown (literal : IsLiteral s) (isOpen : List OpenTag) : Shown isOpen s := by
  intro fuel position
  refine ⟨[], ?_, by simp⟩
  rw [← followTags_tagsOf, tagsOf_of_isLiteral literal]
  rfl

/-- A literal text without codes is read as it is, and nothing of it is styled. -/
theorem readMarkup_of_isLiteral (literal : IsLiteral s) (noCode : HoldsNoCode s) :
    readMarkup s = .ok ⟨s, []⟩ := by
  have follows : followTags [] (pieces s) = .ok [] := by
    rw [← followTags_tagsOf, pieces, tagsOf_of_isLiteral literal]
    rfl
  have styled := spansOf_followTags 0 [] (pieces s)
  rw [List.map_nil, follows] at styled
  obtain ⟨spans, isSpans, styles⟩ := styled
  have noSpans : spans = [] := List.eq_nil_iff_forall_not_mem.2 (fun span mem => by simpa using styles span mem)
  have same : shownText (pieces s) = s :=
    (shownText_eq_writtenText noCode _ _).trans (writtenText_of_isLiteral 0 (Nat.lt_succ_self _) literal)
  rw [readMarkup_eq, isSpans, noSpans, same]
  rfl

/-- A console text without codes is shown as it is just if it is literal. -/
theorem plainText_eq_iff (noCode : HoldsNoCode s) : plainText s = .ok s ↔ IsLiteral s := by
  constructor
  · intro shows
    rw [plainText, readMarkup_eq] at shows
    cases read : spansOf 0 [] (pieces s) with
    | error fault =>
        rw [read] at shows
        cases shows
    | ok spans =>
        rw [read] at shows
        have same : shownText (pieces s) = s := Except.ok.inj shows
        rw [pieces, shownText_eq_writtenText noCode] at same
        exact (writtenText_piecesFrom_iff 0 (Nat.lt_succ_self _)).1 same
  · intro literal
    rw [plainText, readMarkup_of_isLiteral literal noCode]
    rfl

end Reading

/-! ### Texts behind a word in a style -/

/-- The text is written as a text that is known and what is written of the rest, wherever it stands. -/
def ShowsUpTo (s rest shown : List Char) : Prop :=
  ∀ fuel position, s.length < fuel → ∃ fuel' position', rest.length < fuel' ∧
    writtenText (piecesFrom fuel position s) = shown ++ writtenText (piecesFrom fuel' position' rest)

namespace ShowsUpTo

variable {s rest rest' shown shown' : List Char}

theorem refl (s : List Char) : ShowsUpTo s s [] :=
  fun fuel position enough => ⟨fuel, position, enough, rfl⟩

theorem trans (first : ShowsUpTo s rest shown) (second : ShowsUpTo rest rest' shown') :
    ShowsUpTo s rest' (shown ++ shown') := by
  intro fuel position enough
  obtain ⟨fuel₁, position₁, enough₁, same₁⟩ := first fuel position enough
  obtain ⟨fuel₂, position₂, enough₂, same₂⟩ := second fuel₁ position₁ enough₁
  exact ⟨fuel₂, position₂, enough₂, by rw [same₁, same₂, List.append_assoc]⟩

/-- A character that is neither a backslash nor a bracket is shown. -/
theorem cons {c : Char} (notBackslash : c ≠ '\\') (notBracket : c ≠ '[') (s : List Char) :
    ShowsUpTo (c :: s) s [c] := by
  intro fuel position enough
  cases fuel with
  | zero => cases enough
  | succ fuel =>
      refine ⟨fuel, position + 1, Nat.lt_of_succ_lt_succ enough, ?_⟩
      rw [piecesFrom_of_none (leadingTag?_plain s notBackslash notBracket)]
      exact writtenText_consChar (fun escapes => notBackslash escapes.1)

theorem plain {front : List Char} (isPlain : IsPlain front) (s : List Char) :
    ShowsUpTo (front ++ s) s front := by
  induction front with
  | nil => exact refl s
  | cons c front ih =>
      obtain ⟨notBackslash, notBracket⟩ := isPlain c List.mem_cons_self
      exact (cons notBackslash notBracket _).trans (ih (fun c mem => isPlain c (List.mem_cons_of_mem _ mem)))

/-- A tag is not shown; of the backslashes in front of it every second one is. -/
theorem tag {inside : List Char} (isInside : IsInside inside) {count : Nat} (even : count % 2 = 0)
    (s : List Char) : ShowsUpTo (tagText count inside ++ s) s (List.replicate (count / 2) '\\') := by
  intro fuel position enough
  rw [List.length_append, length_tagText] at enough
  cases fuel with
  | zero => cases enough
  | succ fuel =>
      refine ⟨fuel, position + count + inside.length + 2, by omega, ?_⟩
      rw [piecesFrom_tagText isInside, if_neg (by omega), List.cons_append, List.singleton_append,
        writtenText, writtenText, unescapeBrackets_of_noBracket (by simp)]

/-- A word in a style is shown without its tags. -/
theorem word {style front word : List Char} (isStyle : IsStyle style) (isFront : IsPlain front)
    (isWord : IsPlain word) (s : List Char) :
    ShowsUpTo (front ++ (tagText 0 style ++ (word ++ (tagText 0 ('/' :: style) ++ s)))) s (front ++ word) := by
  have opens := tag isStyle.isInside (Nat.zero_mod 2) (word ++ (tagText 0 ('/' :: style) ++ s))
  have closes := tag isStyle.isInside_closing (Nat.zero_mod 2) s
  have all := (plain isFront _).trans (opens.trans ((plain isWord _).trans closes))
  rwa [Nat.zero_div, List.replicate_zero, List.nil_append, List.append_nil] at all

end ShowsUpTo

section Lines

variable [Host]

/-- What stands on the console is made of what is shown. -/
theorem of_line_eq_ok {s : List Char} {text : String} (stands : line s = .ok text) :
    text = String.ofList (Text.joinWith ['\n'] (consoleLines (shownText (pieces s))) ++ ['\n']) := by
  rw [line, readMarkup_eq] at stands
  obtain ⟨styled, isRead, drawn⟩ := bind_eq_ok_iff.1 stands
  obtain ⟨-, -, isText⟩ := bind_eq_ok_iff.1 drawn
  cases read : spansOf 0 [] (pieces s) with
  | error fault =>
      rw [read] at isRead
      cases isRead
  | ok spans =>
      rw [read] at isRead
      cases isRead
      exact (Except.ok.inj isText).symm

/-- The line of a clear text behind a word in a style, where it fits and there are no codes: the text is shown
    as it is just if it is literal. -/
theorem line_word_iff {style front word s : List Char} (isStyle : IsStyle style) (isFront : IsPlain front)
    (isWord : IsPlain word) (clearFront : IsClear (front ++ word)) (clear : IsClear s)
    (noColon : ':' ∉ front ++ style ++ word) (noCode : HoldsNoCode s)
    (fits : FitsConsole (front ++ word ++ s)) :
    line (front ++ (tagText 0 style ++ (word ++ (tagText 0 ('/' :: style) ++ s)))) =
        .ok (String.ofList (front ++ word ++ s ++ ['\n'])) ↔
      IsLiteral s := by
  obtain ⟨fuel, position, enough, written⟩ :=
    ShowsUpTo.word isStyle isFront isWord s _ 0 (Nat.lt_succ_self _)
  have noCodes : HoldsNoCode (front ++ (tagText 0 style ++ (word ++ (tagText 0 ('/' :: style) ++ s)))) := by
    have each : ':' ∉ front ∧ ':' ∉ style ∧ ':' ∉ word := by simpa using noColon
    have inFront : ':' ∉ front ++ (tagText 0 style ++ (word ++ tagText 0 ('/' :: style))) := by
      simp [tagText, each]
    simpa only [List.append_assoc] using noCode.append inFront
  have shown := (shownText_eq_writtenText noCodes _ _).trans written
  constructor
  · intro stands
    by_cases literal : IsLiteral s
    · exact literal
    · have isLeft := writtenText_sublist fuel position s
      have clearShown : IsClear (front ++ word ++ writtenText (piecesFrom fuel position s)) :=
        clearFront.append (fun c mem => clear c (isLeft.subset mem))
      have text := of_line_eq_ok stands
      rw [String.ofList_inj, List.append_left_inj, pieces, shown] at text
      have few := marks_consoleLines_le clearShown
      have lost := marks_writtenText_lt position enough literal
      rw [← text, marks_append, marks_append (front ++ word)] at few
      omega
  · intro literal
    have isShown : Shown [] (front ++ (tagText 0 style ++ (word ++ (tagText 0 ('/' :: style) ++ s)))) := by
      apply Shown.append isFront
      apply isStyle.shown_opening
      apply Shown.append isWord
      exact isStyle.shown_closing (literal.shown []) (literal.shown _) 0
    rw [isShown.line_eq, pieces, shown, writtenText_of_isLiteral position enough literal,
      joinWith_consoleLines (clearFront.append clear) fits]

end Lines

end Console

end LayeredFiles
