import LayeredFiles.Proofs.Console.Rows
/-
Module: LayeredFiles.Proofs.Console.Message
Layer: Proofs
Purpose: what is shown of an escaped message. Escaping keeps every tag of a message as a text, but it leaves
  the backslashes alone that no tag follows, and these are still looked at when the message is shown: one in
  front of a bracket is dropped, and those at the end of a message join the tag that closes its style. So a
  message is shown as it is just if it has no such backslashes.
Main exports: Console.bared, Console.KeepsBackslashes, Console.escapeTags_append_backslashes,
  Console.ShowsUpTo.escaped, Console.writtenText_messageText, Console.writtenText_statusText,
  Console.line_eq_iff, Console.messages_literal
-/

namespace LayeredFiles.Console

/-! ### Backslashes at the end of a text -/

/-- The number of backslashes at the end of a text. -/
def endingBackslashes (s : List Char) : Nat := (takeBackslashes s.reverse).1

/-- A text is what stands in front of the backslashes at its end, and these. -/
theorem exists_front (s : List Char) :
    ∃ front, s = front ++ List.replicate (endingBackslashes s) '\\' ∧ front.getLast? ≠ some '\\' := by
  refine ⟨(takeBackslashes s.reverse).2.reverse, ?_, ?_⟩
  · have whole := congrArg List.reverse (eq_takeBackslashes s.reverse)
    rwa [List.reverse_reverse, List.reverse_append, List.reverse_replicate] at whole
  · rw [List.getLast?_reverse]
    intro isBackslash
    have stops := List.head?_dropWhile_not (fun c => decide (c = '\\')) s.reverse
    rw [show s.reverse.dropWhile (fun c => decide (c = '\\')) = (takeBackslashes s.reverse).2 from rfl,
      isBackslash] at stops
    simp at stops

theorem firstBracket?_append_backslashes (s : List Char) (count : Nat) :
    firstBracket? (s ++ List.replicate count '\\') = firstBracket? s := by
  induction s with
  | nil =>
      induction count with
      | zero => rfl
      | succ count ih =>
          rw [List.nil_append, List.replicate_succ, firstBracket?_cons, if_neg (by decide)]
          exact ih
  | cons c rest ih => rw [List.cons_append, firstBracket?_cons, firstBracket?_cons, ih]

/-- Backslashes at the end of a text make no tag and break none. -/
theorem leadingTag?_append_backslashes {s : List Char} (count : Nat) :
    leadingTag? (s ++ List.replicate count '\\') = none ↔ leadingTag? s = none := by
  induction s with
  | nil => exact iff_of_true (leadingTag?_of_noBracket (by simp)) rfl
  | cons c rest ih =>
      rw [List.cons_append]
      by_cases isBackslash : c = '\\'
      · subst isBackslash
        rw [leadingTag?_backslash, leadingTag?_backslash, ih]
      · by_cases isBracket : c = '['
        · subst isBracket
          rw [leadingTag?_bracket, leadingTag?_bracket]
          cases rest with
          | nil =>
              cases count with
              | zero => exact Iff.rfl
              | succ count =>
                  refine iff_of_true ?_ rfl
                  rw [List.nil_append, List.replicate_succ, takeTag?_cons_eq_none_iff]
                  exact Or.inl (by decide)
          | cons d rest =>
              rw [List.cons_append, takeTag?_cons_eq_none_iff, takeTag?_cons_eq_none_iff,
                firstBracket?_append_backslashes]
        · exact iff_of_true (leadingTag?_plain _ isBackslash isBracket)
            (leadingTag?_plain _ isBackslash isBracket)

theorem escapeFrom_replicate (fuel count : Nat) (enough : count ≤ fuel) :
    escapeFrom fuel (List.replicate count '\\') = List.replicate count '\\' := by
  induction count generalizing fuel with
  | zero => cases fuel <;> rfl
  | succ count ih =>
      cases fuel with
      | zero => cases enough
      | succ fuel =>
          have noTag : leadingTag? ('\\' :: List.replicate count '\\') = none :=
            leadingTag?_of_noBracket (by simp)
          rw [List.replicate_succ, escapeFrom_of_none noTag, ih fuel (Nat.le_of_succ_le_succ enough)]

/-- Escaping leaves the backslashes at the end of a text as they are. -/
theorem escapeFrom_append_backslashes (fuel : Nat) {s : List Char} (count : Nat)
    (enough : (s ++ List.replicate count '\\').length ≤ fuel) :
    escapeFrom fuel (s ++ List.replicate count '\\') = escapeFrom fuel s ++ List.replicate count '\\' := by
  induction fuel generalizing s with
  | zero =>
      rw [Nat.le_zero, List.length_eq_zero_iff, List.append_eq_nil_iff] at enough
      rw [enough.1, enough.2]
      rfl
  | succ fuel ih =>
      cases s with
      | nil => exact escapeFrom_replicate _ _ (by simpa using enough)
      | cons c rest =>
          cases found : leadingTag? (c :: rest) with
          | some tag =>
              obtain ⟨isInside, whole⟩ := of_leadingTag? found
              have shorter := enough
              rw [whole, List.append_assoc, List.length_append, length_tagText] at shorter
              rw [whole, List.append_assoc, escapeFrom_tagText isInside, escapeFrom_tagText isInside,
                ih (by omega), List.append_assoc]
          | none =>
              have noTag := (leadingTag?_append_backslashes count).2 found
              rw [List.cons_append] at noTag enough ⊢
              rw [escapeFrom_of_none noTag, escapeFrom_of_none found,
                ih (Nat.le_of_succ_le_succ enough), List.cons_append]

/-- An escaped text ends like the text. -/
theorem getLast?_escapeFrom (fuel : Nat) {s : List Char} (enough : s.length ≤ fuel) :
    (escapeFrom fuel s).getLast? = s.getLast? := by
  induction fuel generalizing s with
  | zero =>
      rw [Nat.le_zero, List.length_eq_zero_iff] at enough
      rw [enough]
      rfl
  | succ fuel ih =>
      cases s with
      | nil => rfl
      | cons c rest =>
          cases found : leadingTag? (c :: rest) with
          | some tag =>
              obtain ⟨isInside, whole⟩ := of_leadingTag? found
              have closing : ∀ count, (tagText count tag.1).getLast? = some ']' := by
                intro count
                rw [tagText, List.getLast?_append, List.getLast?_singleton, Option.some_or]
              rw [whole, List.length_append, length_tagText] at enough
              rw [whole, escapeFrom_tagText isInside, List.getLast?_append, List.getLast?_append,
                ih (by omega), closing, closing]
          | none =>
              rw [escapeFrom_of_none found, List.getLast?_cons, List.getLast?_cons,
                ih (Nat.le_of_succ_le_succ enough)]

/-- A message is escaped up to the backslashes at its end; of these one alone is doubled. -/
theorem escapeTags_append_backslashes {s : List Char} (ends : s.getLast? ≠ some '\\') (count : Nat) :
    ∃ fuel, s.length ≤ fuel ∧ escapeTags (s ++ List.replicate count '\\') =
      escapeFrom fuel s ++ List.replicate (if count = 1 then 2 else count) '\\' := by
  refine ⟨(s ++ List.replicate count '\\').length + 1, by simp; omega, ?_⟩
  have parts := escapeFrom_append_backslashes ((s ++ List.replicate count '\\').length + 1) (s := s) count
    (Nat.le_succ _)
  have last := getLast?_escapeFrom ((s ++ List.replicate count '\\').length + 1) (s := s)
    (by simp; omega)
  simp only [escapeTags, parts, List.reverse_append, List.reverse_replicate]
  generalize escapeFrom ((s ++ List.replicate count '\\').length + 1) s = escaped at last
  rw [← last, ← List.head?_reverse] at ends
  rcases count with _ | _ | count
  · rw [List.replicate_zero, List.nil_append]
    split
    · rename_i isEnd
      rw [isEnd] at ends
      exact absurd rfl ends
    · rename_i isEnd
      rw [isEnd] at ends
      exact absurd rfl ends
    · rfl
  · rw [Nat.zero_add, List.replicate_one, List.singleton_append]
    split
    · rename_i isEnd
      rw [List.cons.injEq] at isEnd
      rw [isEnd.2] at ends
      exact absurd rfl ends
    · simp
    · rename_i other
      exact absurd rfl (other _)
  · rw [List.replicate_succ, List.replicate_succ, List.cons_append, List.cons_append]
    rfl

/-! ### Backslashes in front of brackets -/

/-- The text without the backslash in front of each bracket with which no tag begins. -/
def bared : List Char → List Char
  | [] => []
  | c :: rest =>
    if c = '\\' ∧ rest.head? = some '[' ∧ leadingTag? rest = none then bared rest
    else c :: bared rest

theorem bared_cons_of_none {c : Char} {rest : List Char} (noTag : leadingTag? (c :: rest) = none) :
    bared (c :: rest) = (if c = '\\' ∧ rest.head? = some '[' then [] else [c]) ++ bared rest := by
  by_cases isBackslash : c = '\\'
  · subst isBackslash
    rw [leadingTag?_backslash] at noTag
    simp only [bared, noTag, and_true]
    split
    · rfl
    · rfl
  · simp [bared, isBackslash]

theorem bared_sublist (s : List Char) : (bared s).Sublist s := by
  induction s with
  | nil => exact List.Sublist.slnil
  | cons c rest ih =>
      unfold bared
      split
      · exact ih.cons c
      · exact ih.cons_cons c

/-- Every bracket behind a backslash begins a tag. -/
def KeepsBackslashes (s : List Char) : Prop :=
  ∀ inner, '\\' :: '[' :: inner <:+ s → takeTag? inner ≠ none

/-- A text is left as it is just if all brackets behind backslashes begin tags. -/
theorem bared_eq_iff (s : List Char) : bared s = s ↔ KeepsBackslashes s := by
  induction s with
  | nil => exact iff_of_true rfl (fun inner isEnd => by simp at isEnd)
  | cons c rest ih =>
      have keeps : KeepsBackslashes (c :: rest) ↔
          ¬(c = '\\' ∧ rest.head? = some '[' ∧ leadingTag? rest = none) ∧ KeepsBackslashes rest := by
        constructor
        · intro kept
          refine ⟨?_, fun inner isEnd => kept inner (isEnd.trans (List.suffix_cons c rest))⟩
          rintro ⟨rfl, isBracket, noTag⟩
          obtain ⟨inner, rfl⟩ := List.head?_eq_some_iff.1 isBracket
          exact kept inner List.suffix_rfl (leadingTag?_bracket inner ▸ noTag)
        · rintro ⟨here, behind⟩ inner isEnd noTag
          rcases List.suffix_cons_iff.1 isEnd with isAll | isEnd
          · obtain ⟨rfl, rfl⟩ := List.cons.inj isAll
            exact here ⟨rfl, rfl, (leadingTag?_bracket inner).trans noTag⟩
          · exact behind inner isEnd noTag
      rw [keeps, ← ih, bared]
      split
      · rename_i dropped
        refine iff_of_false (fun same => ?_) (fun kept => kept.1 dropped)
        have shorter := (bared_sublist rest).length_le
        rw [same, List.length_cons] at shorter
        omega
      · rename_i notDropped
        rw [List.cons.injEq]
        exact ⟨fun same => ⟨notDropped, same.2⟩, fun kept => ⟨rfl, kept.2⟩⟩

instance (s : List Char) : Decidable (KeepsBackslashes s) :=
  decidable_of_iff (bared s = s) (bared_eq_iff s)

theorem bared_append_backslashes (s : List Char) (count : Nat) :
    bared (s ++ List.replicate count '\\') = bared s ++ List.replicate count '\\' := by
  induction s with
  | nil =>
      induction count with
      | zero => rfl
      | succ count ih =>
          have noBracket : (List.replicate count '\\').head? ≠ some '[' := by
            intro isBracket
            have mem := List.mem_of_mem_head? isBracket
            simp at mem
          simp only [List.nil_append, List.replicate_succ, bared, noBracket, false_and, and_false,
            if_false, ih] at ih ⊢
  | cons c rest ih =>
      have same : (rest ++ List.replicate count '\\').head? = some '[' ↔ rest.head? = some '[' := by
        cases rest with
        | nil => cases count <;> simp [List.replicate_succ]
        | cons d rest => rfl
      rw [List.cons_append, bared, bared, ih]
      simp only [same, leadingTag?_append_backslashes]
      split
      · rfl
      · rfl

/-- Nothing is dropped from a text without brackets that ends in no backslash. -/
theorem bared_append_of_noBracket {front : List Char} (noBracket : '[' ∉ front)
    (ends : front.getLast? ≠ some '\\') (s : List Char) : bared (front ++ s) = front ++ bared s := by
  induction front with
  | nil => rfl
  | cons c rest ih =>
      rw [List.mem_cons, not_or] at noBracket
      have kept : ¬(c = '\\' ∧ (rest ++ s).head? = some '[' ∧ leadingTag? (rest ++ s) = none) := by
        rintro ⟨rfl, isBracket, -⟩
        cases rest with
        | nil => exact ends rfl
        | cons d rest =>
            obtain rfl := Option.some.inj isBracket
            exact noBracket.2 List.mem_cons_self
      rw [List.cons_append, bared, if_neg kept, ih noBracket.2]
      · rfl
      · intro isBackslash
        rw [List.getLast?_cons, isBackslash] at ends
        exact ends rfl

/-- There is no bracket in a tag but those around it. -/
theorem IsInside.noBracket {inside : List Char} (isInside : IsInside inside) : '[' ∉ inside ++ [']'] := by
  obtain ⟨c, body, rfl, starts, free⟩ := isInside
  have first := noBracket_of_startsTag starts
  simp only [Bool.and_eq_true, bne_iff_ne, ne_eq] at first
  intro mem
  rw [List.cons_append, List.mem_cons, List.mem_append] at mem
  rcases mem with rfl | isBody | isEnd
  · exact first.1 rfl
  · simpa using free _ isBody
  · simp at isEnd

/-- Nothing is dropped from a tag and the backslashes in front of it. -/
theorem bared_tagText {inside : List Char} (isInside : IsInside inside) (count : Nat) (s : List Char) :
    bared (tagText count inside ++ s) = tagText count inside ++ bared s := by
  induction count with
  | zero =>
      have behind := bared_append_of_noBracket isInside.noBracket (by simp) s
      have whole : tagText 0 inside = '[' :: (inside ++ [']']) := rfl
      rw [whole, List.cons_append, bared, if_neg (fun escapes => absurd escapes.1 (by decide)), behind]
      rfl
  | succ count ih =>
      have isTag := leadingTag?_tagText isInside count s
      have whole : tagText (count + 1) inside = '\\' :: tagText count inside := by
        simp [tagText, List.replicate_succ]
      rw [whole, List.cons_append, bared, if_neg, ih]
      · rfl
      · rintro ⟨-, -, noTag⟩
        rw [noTag] at isTag
        cases isTag

/-! ### Escaped texts -/

theorem IsTail.replicate {tail : List Char} (isTail : IsTail tail) (count : Nat) :
    IsTail (List.replicate count '\\' ++ tail) := by
  induction count with
  | zero => exact isTail
  | succ count ih => exact ih.backslash

/-- No tag comes up at the front of an escaped text that does not end in a backslash. -/
theorem leadingTag?_escapeFrom_of_ends {tail : List Char} (isTail : IsTail tail) {fuel : Nat} {s : List Char}
    (enough : s.length ≤ fuel) (nonempty : s ≠ []) (ends : s.getLast? ≠ some '\\')
    (noTag : leadingTag? s = none) : leadingTag? (escapeFrom fuel s ++ tail) = none := by
  rcases leadingTag?_escapeFrom isTail fuel noTag with ⟨count, all⟩ | none
  · -- An escaped text of backslashes alone would end in one.
    have last := getLast?_escapeFrom fuel enough
    cases count with
    | zero =>
        rw [all] at last
        exact absurd (List.getLast?_eq_none_iff.1 last.symm) nonempty
    | succ count =>
        rw [all, List.replicate_succ', List.getLast?_append, List.getLast?_singleton,
          Option.some_or] at last
        exact absurd last.symm ends
  · exact none

theorem head?_escapeFrom {c : Char} {rest : List Char} (noTag : leadingTag? (c :: rest) = none) {fuel : Nat}
    (enough : (c :: rest).length ≤ fuel) (tail : List Char) :
    (escapeFrom fuel (c :: rest) ++ tail).head? = some c := by
  cases fuel with
  | zero => cases enough
  | succ fuel =>
      rw [escapeFrom_of_none noTag]
      rfl

namespace ShowsUpTo

/-- A tag behind an odd number of backslashes is shown, and half of these. -/
theorem tagAsText {inside : List Char} (isInside : IsInside inside) {count : Nat} (odd : count % 2 = 1)
    (s : List Char) : ShowsUpTo (tagText count inside ++ s) s (tagText (count / 2) inside) := by
  intro fuel position enough
  rw [List.length_append, length_tagText] at enough
  cases fuel with
  | zero => cases enough
  | succ fuel =>
      have shown : unescapeBrackets ('[' :: inside ++ [']']) = '[' :: inside ++ [']'] := by
        rw [List.cons_append, unescapeBrackets_cons (by simp), unescapeBrackets_of_noBracket isInside.noBracket]
      refine ⟨fuel, position + count + inside.length + 2, by omega, ?_⟩
      rw [piecesFrom_tagText isInside, if_pos odd, List.cons_append, List.singleton_append, writtenText,
        writtenText, shown, unescapeBrackets_of_noBracket (by simp), tagText]
      simp

/-- A character with which no tag begins is shown, unless it is a backslash in front of a bracket. -/
theorem char {c : Char} {s : List Char} (noTag : leadingTag? (c :: s) = none) :
    ShowsUpTo (c :: s) s (if c = '\\' ∧ s.head? = some '[' then [] else [c]) := by
  intro fuel position enough
  cases fuel with
  | zero => cases enough
  | succ fuel =>
      have behind : s.length < fuel := Nat.lt_of_succ_lt_succ enough
      have escapes := escapes_iff noTag (position + 1) behind
      refine ⟨fuel, position + 1, behind, ?_⟩
      rw [piecesFrom_of_none noTag]
      by_cases isEscape : c = '\\' ∧ s.head? = some '['
      · obtain ⟨isBackslash, bracket⟩ := escapes.2 isEscape
        rw [if_pos isEscape, isBackslash, writtenText_consChar_backslash bracket]
        rfl
      · rw [if_neg isEscape]
        exact writtenText_consChar (mt escapes.1 isEscape)

/-- Of an escaped text everything is shown but the backslashes in front of brackets with which no tag
    begins. -/
theorem escaped {tail : List Char} (isTail : IsTail tail) (fuel : Nat)
    {s : List Char} (enough : s.length ≤ fuel) (ends : s.getLast? ≠ some '\\') :
    ShowsUpTo (escapeFrom fuel s ++ tail) tail (bared s) := by
  induction fuel generalizing s with
  | zero =>
      rw [Nat.le_zero, List.length_eq_zero_iff] at enough
      rw [enough]
      exact refl tail
  | succ fuel ih =>
      cases s with
      | nil => exact refl tail
      | cons c rest =>
          cases found : leadingTag? (c :: rest) with
          | some tag =>
              obtain ⟨isInside, whole⟩ := of_leadingTag? found
              generalize (takeBackslashes (c :: rest)).1 = count at whole
              rw [whole, List.length_append, length_tagText] at enough
              have behind : tag.2.getLast? ≠ some '\\' := by
                intro isBackslash
                rw [whole, List.getLast?_append, isBackslash] at ends
                exact ends rfl
              have odd : (2 * count + 1) % 2 = 1 := by omega
              have here := tagAsText isInside odd (escapeFrom fuel tag.2 ++ tail)
              rw [show (2 * count + 1) / 2 = count by omega] at here
              rw [whole, escapeFrom_tagText isInside, List.append_assoc, bared_tagText isInside]
              exact here.trans (ih (by omega) behind)
          | none =>
              have behind : rest.getLast? ≠ some '\\' := by
                intro isBackslash
                rw [List.getLast?_cons, isBackslash] at ends
                exact ends rfl
              have noTag := leadingTag?_escapeFrom_of_ends isTail enough (List.cons_ne_nil c rest) ends found
              rw [escapeFrom_of_none found, List.cons_append] at noTag
              have same : c = '\\' ∧ (escapeFrom fuel rest ++ tail).head? = some '[' ↔
                  c = '\\' ∧ rest.head? = some '[' := by
                apply and_congr_right
                rintro rfl
                rw [leadingTag?_backslash] at found
                cases rest with
                | nil => exact absurd rfl ends
                | cons d rest =>
                    rw [head?_escapeFrom found (Nat.le_of_succ_le_succ enough)]
                    rfl
              have here := char noTag
              rw [escapeFrom_of_none found, List.cons_append, bared_cons_of_none found]
              simp only [same] at here
              exact here.trans (ih (Nat.le_of_succ_le_succ enough) behind)

/-- Backslashes at the end of a text are shown. -/
theorem backslashes (count : Nat) :
    ShowsUpTo (List.replicate count '\\' ++ []) [] (List.replicate count '\\') := by
  induction count with
  | zero => exact refl []
  | succ count ih =>
      have noBracket : '[' ∉ List.replicate count '\\' ++ [] := by simp
      have first := char (c := '\\') (leadingTag?_of_noBracket
        (List.not_mem_cons_of_ne_of_not_mem (by decide) noBracket))
      rw [if_neg (fun escapes => noBracket (List.mem_of_mem_head? escapes.2))] at first
      exact first.trans ih

/-- What is written of a whole text. -/
theorem eq_writtenText {s shown : List Char} (shows : ShowsUpTo s [] shown) :
    writtenText (pieces s) = shown := by
  obtain ⟨fuel, position, enough, same⟩ := shows (s.length + 1) 0 (Nat.lt_succ_self _)
  rw [pieces, same]
  cases fuel with
  | zero => cases enough
  | succ fuel => exact List.append_nil shown

end ShowsUpTo

/-! ### Messages in a style -/

/-- What is shown of backslashes at the end of a text and the tag behind them that closes its style. -/
def shownEnding (count : Nat) (inside : List Char) : List Char :=
  if count % 2 = 1 then tagText (count / 2) inside else List.replicate (count / 2) '\\'

/-- A message is written without the backslashes in front of brackets with which no tag begins, and those at
    its end join the tag that closes the style. -/
theorem writtenText_messageText {style : String} (isStyle : IsStyle style.toList) {front : List Char}
    (ends : front.getLast? ≠ some '\\') (count : Nat) :
    writtenText (pieces (messageText style (front ++ List.replicate count '\\'))) =
      bared front ++ shownEnding (if count = 1 then 2 else count) ('/' :: style.toList) := by
  obtain ⟨fuel, enough, isEscaped⟩ := escapeTags_append_backslashes ends count
  generalize (if count = 1 then 2 else count) = count' at isEscaped ⊢
  have whole : messageText style (front ++ List.replicate count '\\') = tagText 0 style.toList ++
      (escapeFrom fuel front ++ (tagText count' ('/' :: style.toList) ++ [])) := by
    rw [messageText, isEscaped]
    simp [styled, tagText]
  have isTail : IsTail (tagText count' ('/' :: style.toList) ++ []) := by
    rw [tagText, List.append_assoc, List.append_assoc]
    exact (isTail_bracket _).replicate count'
  have opens := ShowsUpTo.tag isStyle.isInside (Nat.zero_mod 2) (escapeFrom fuel front ++
    (tagText count' ('/' :: style.toList) ++ []))
  have inStyle := opens.trans (ShowsUpTo.escaped isTail fuel enough ends)
  rw [Nat.zero_div, List.replicate_zero, List.nil_append, ← whole] at inStyle
  by_cases odd : count' % 2 = 1
  · rw [shownEnding, if_pos odd]
    exact (inStyle.trans (ShowsUpTo.tagAsText isStyle.isInside_closing odd [])).eq_writtenText
  · rw [shownEnding, if_neg odd]
    exact (inStyle.trans (ShowsUpTo.tag isStyle.isInside_closing (by omega) [])).eq_writtenText

/-- Behind a status word a message is written in the same way, with the backslashes at its end. -/
theorem writtenText_statusText {status colour : String} (isStyle : IsStyle ("bold " ++ colour).toList)
    (isPlain : IsPlain status.toList) {front : List Char} (ends : front.getLast? ≠ some '\\')
    (count : Nat) :
    writtenText (pieces (statusText status colour (front ++ List.replicate count '\\'))) =
      alignRight 12 status.toList ++ ' ' :: ' ' ::
        (bared front ++ List.replicate (if count = 1 then 2 else count) '\\') := by
  obtain ⟨fuel, enough, isEscaped⟩ := escapeTags_append_backslashes ends count
  generalize (if count = 1 then 2 else count) = count' at isEscaped ⊢
  have whole : statusText status colour (front ++ List.replicate count '\\') =
      [] ++ (tagText 0 ("bold " ++ colour).toList ++ (alignRight 12 status.toList ++
        (tagText 0 ('/' :: ("bold " ++ colour).toList) ++
          ([' ', ' '] ++ (escapeFrom fuel front ++ (List.replicate count' '\\' ++ [])))))) := by
    rw [statusText, isEscaped]
    simp [styled, tagText]
  have blanks : IsPlain [' ', ' '] := isPlain_of_all (by decide)
  have word := ShowsUpTo.word isStyle (isPlain_of_all (s := []) rfl) (isPlain_alignRight isPlain 12)
    ([' ', ' '] ++ (escapeFrom fuel front ++ (List.replicate count' '\\' ++ [])))
  have shows := (word.trans (ShowsUpTo.plain blanks _)).trans
    (ShowsUpTo.escaped (isTail_nil.replicate count') fuel enough ends)
  rw [← whole] at shows
  rw [(shows.trans (ShowsUpTo.backslashes count')).eq_writtenText]
  simp

/-! ### Messages that are shown as they are -/

theorem keepsBackslashes_append_backslashes (s : List Char) (count : Nat) :
    KeepsBackslashes (s ++ List.replicate count '\\') ↔ KeepsBackslashes s := by
  rw [← bared_eq_iff, ← bared_eq_iff, bared_append_backslashes, List.append_left_inj]

/-- A message in a style is shown as it is just if all brackets behind backslashes begin tags and it does not
    end in two backslashes. -/
theorem shown_messageText_iff (front : List Char) (count : Nat) (inside : List Char) :
    bared front ++ shownEnding (if count = 1 then 2 else count) inside =
        front ++ List.replicate count '\\' ↔
      KeepsBackslashes front ∧ count ≤ 1 := by
  rw [← bared_eq_iff]
  match count with
  | 0 => simp [shownEnding]
  | 1 => simp [shownEnding]
  | count + 2 =>
      refine iff_of_false (fun same => ?_) (fun kept => by omega)
      rw [if_neg (by omega), shownEnding] at same
      split at same
      · have last := congrArg List.getLast? same
        simp only [tagText, List.replicate_succ', ← List.append_assoc, List.getLast?_concat] at last
        exact absurd last (by decide)
      · have size := congrArg List.length same
        have left := (bared_sublist front).length_le
        simp only [List.length_append, List.length_replicate] at size
        omega

/-- A message behind a status word is shown as it is just if all brackets behind backslashes begin tags and
    it does not end in a single backslash. -/
theorem shown_statusText_iff {front : List Char} (ends : front.getLast? ≠ some '\\') (count : Nat) :
    bared front ++ List.replicate (if count = 1 then 2 else count) '\\' =
        front ++ List.replicate count '\\' ↔
      KeepsBackslashes front ∧ count ≠ 1 := by
  rw [← bared_eq_iff]
  by_cases isOne : count = 1
  · subst isOne
    refine iff_of_false (fun same => ?_) (fun kept => kept.2 rfl)
    rw [if_pos rfl, List.replicate_succ', ← List.append_assoc, List.replicate_one] at same
    rw [← List.append_cancel_right same, List.getLast?_append] at ends
    exact ends rfl
  · rw [if_neg isOne, List.append_left_inj]
    exact (and_iff_left isOne).symm

theorem IsPrintable.alignRight {s : List Char} (printable : IsPrintable s) (columns : Nat) :
    IsPrintable (alignRight columns s) := by
  intro c mem
  rcases List.mem_append.1 mem with isBlank | isChar
  · rw [(List.mem_replicate.1 isBlank).2]
    decide
  · exact printable c isChar

theorem isClear_backslashes (count : Nat) : IsClear (List.replicate count '\\') := by
  intro c mem
  rw [(List.mem_replicate.1 mem).2]
  decide

theorem IsClear.shownEnding {inside : List Char} (clear : IsClear inside) (count : Nat) :
    IsClear (shownEnding count inside) := by
  unfold Console.shownEnding
  split
  · have opening : IsClear ['['] := isClear_of_all (by decide)
    have closing : IsClear [']'] := isClear_of_all (by decide)
    exact ((isClear_backslashes _).append (opening.append clear)).append closing
  · exact isClear_backslashes _

section Lines

variable [Host]

/-- A line that can be shown and holds no codes shows a line that fits just if this is what is written of it. -/
theorem line_eq_iff {s shown : List Char} (isShown : Shown [] s) (noCode : HoldsNoCode s)
    (clear : IsClear (writtenText (pieces s))) (printable : IsPrintable shown)
    (below : IsBelow Host.columns shown) :
    line s = .ok (String.ofList (shown ++ ['\n'])) ↔ writtenText (pieces s) = shown := by
  have oneLine : '\n' ∉ shown := fun mem => (not_isHidden_of_isPrintable (printable _ mem)).2.2 rfl
  have unmarked : shownText (pieces s) = writtenText (pieces s) := shownText_eq_writtenText noCode _ _
  rw [isShown.line_eq, unmarked, Except.ok.injEq, String.ofList_inj, List.append_left_inj]
  constructor
  · exact eq_of_consoleLines clear oneLine below
  · intro same
    rw [same] at clear ⊢
    apply joinWith_consoleLines clear
    intro line isLine
    rw [Text.splitOn_of_notMem oneLine] at isLine
    rwa [List.mem_singleton.1 isLine]

theorem HoldsNoCode.messageText {style : String} (noColon : ':' ∉ style.toList) {message : List Char}
    (noCode : HoldsNoCode message) : HoldsNoCode (messageText style message) := by
  have whole : Console.messageText style message =
      tagText 0 style.toList ++ (Console.escapeTags message ++ tagText 0 ('/' :: style.toList)) := by
    simp [Console.messageText, styled, tagText]
  rw [whole]
  apply HoldsNoCode.append
  · simpa [tagText] using noColon
  · exact noCode.escapeTags.append_right (by simpa [tagText] using noColon)

theorem HoldsNoCode.statusText {status colour : String} (noColon : ':' ∉ status.toList ++ colour.toList)
    {message : List Char} (noCode : HoldsNoCode message) : HoldsNoCode (statusText status colour message) := by
  have whole : Console.statusText status colour message = tagText 0 ("bold " ++ colour).toList ++
      alignRight 12 status.toList ++ tagText 0 ('/' :: ("bold " ++ colour).toList) ++ [' ', ' '] ++
        Console.escapeTags message := by
    simp [Console.statusText, styled, tagText]
  rw [whole]
  apply HoldsNoCode.append _ noCode.escapeTags
  have each : ':' ∉ status.toList ∧ ':' ∉ colour.toList := by simpa using noColon
  simp [tagText, alignRight, each]

/-- The line of a printable message in a style shows the message as it is just if all brackets behind
    backslashes begin tags and it does not end in two backslashes. -/
theorem line_messageText_iff {style : String} (isStyle : IsStyle style.toList)
    (clear : IsClear style.toList) (noColon : ':' ∉ style.toList) {message : String}
    (printable : IsPrintable message.toList) (noCode : HoldsNoCode message.toList)
    (below : IsBelow Host.columns message.toList) :
    line (messageText style message.toList) = .ok (message ++ "\n") ↔
      KeepsBackslashes message.toList ∧ endingBackslashes message.toList ≤ 1 := by
  obtain ⟨front, whole, ends⟩ := exists_front message.toList
  have same : message ++ "\n" = String.ofList (message.toList ++ ['\n']) := by
    rw [String.ofList_append, String.ofList_toList]
  have isShown := shown_messageText isStyle message.toList
  have noCodes := noCode.messageText noColon
  generalize endingBackslashes message.toList = count at whole
  rw [same]
  generalize message.toList = chars at *
  subst whole
  have isFront : IsClear (bared front) := fun c mem =>
    printable.isClear c (List.mem_append_left _ ((bared_sublist front).subset mem))
  have slash : IsClear ['/'] := isClear_of_all (by decide)
  have clearAll := isFront.append ((slash.append clear).shownEnding (if count = 1 then 2 else count))
  have written := writtenText_messageText isStyle ends count
  rw [line_eq_iff isShown noCodes (written ▸ clearAll) printable below, written,
    keepsBackslashes_append_backslashes]
  exact shown_messageText_iff front count _

/-- The line of a printable message behind a status word shows the message as it is just if all brackets
    behind backslashes begin tags and it does not end in a single backslash. -/
theorem line_statusText_iff {status colour : String} (isStyle : IsStyle ("bold " ++ colour).toList)
    (isPlain : IsPlain status.toList) (isWord : IsPrintable status.toList)
    (noColon : ':' ∉ status.toList ++ colour.toList) {message : String} (printable : IsPrintable message.toList)
    (noCode : HoldsNoCode message.toList)
    (below : IsBelow Host.columns (alignRight 12 status.toList ++ ' ' :: ' ' :: message.toList)) :
    line (statusText status colour message.toList) =
        .ok (String.ofList (alignRight 12 status.toList) ++ "  " ++ message ++ "\n") ↔
      KeepsBackslashes message.toList ∧ endingBackslashes message.toList ≠ 1 := by
  obtain ⟨front, whole, ends⟩ := exists_front message.toList
  have same : String.ofList (alignRight 12 status.toList) ++ "  " ++ message ++ "\n" =
      String.ofList (alignRight 12 status.toList ++ ' ' :: ' ' :: message.toList ++ ['\n']) := by
    apply String.toList_inj.1
    simp
  have isShown := shown_statusText isStyle isPlain message.toList
  have noCodes := noCode.statusText noColon
  generalize endingBackslashes message.toList = count at whole
  rw [same]
  generalize message.toList = chars at *
  subst whole
  have isFront : IsClear (bared front) := fun c mem =>
    printable.isClear c (List.mem_append_left _ ((bared_sublist front).subset mem))
  have blanks : IsPrintable [' ', ' '] := isPrintable_of_all (by decide)
  have clearAll := (isWord.alignRight 12).isClear.append (blanks.isClear.append
    (isFront.append (isClear_backslashes (if count = 1 then 2 else count))))
  have printed : IsPrintable
      (alignRight 12 status.toList ++ ' ' :: ' ' :: (front ++ List.replicate count '\\')) :=
    (isWord.alignRight 12).append (blanks.append printable)
  have written := writtenText_statusText isStyle isPlain ends count
  rw [line_eq_iff isShown noCodes (written ▸ clearAll) printed below, written, List.append_right_inj,
    List.cons.injEq, List.cons.injEq, keepsBackslashes_append_backslashes]
  simpa only [true_and] using shown_statusText_iff ends count

/-! ### The lines of messages -/

/-- The line about a printable message that fits into the console and holds no code of a picture shows it as it
    is just if all brackets behind backslashes begin tags and the backslashes at its end, if any, are not two
    or more. Behind a status word, which stands at the right of twelve columns, it is so if the whole line fits,
    and the backslashes at the end are not a single one. -/
theorem messages_literal (message : String) (printable : IsPrintable message.toList)
    (noCode : HoldsNoCode message.toList) :
    (IsBelow Host.columns message.toList → ∀ messageLine ∈ [successLine, errorLine, warningLine],
      messageLine message = .ok (message ++ "\n") ↔
        KeepsBackslashes message.toList ∧ endingBackslashes message.toList ≤ 1) ∧
    ∀ status ∈ statusColours.map Prod.fst,
      IsBelow Host.columns (alignRight 12 status.toList ++ ' ' :: ' ' :: message.toList) →
      (statusLine status message =
          .ok (String.ofList (alignRight 12 status.toList) ++ "  " ++ message ++ "\n") ↔
        KeepsBackslashes message.toList ∧ endingBackslashes message.toList ≠ 1) := by
  constructor
  · intro below messageLine isOne
    have shows : ∀ style ∈ ["bold green", "bold red", "bold yellow"],
        line (messageText style message.toList) = .ok (message ++ "\n") ↔
          KeepsBackslashes message.toList ∧ endingBackslashes message.toList ≤ 1 := by
      intro style isStyle
      have clear : ["bold green", "bold red", "bold yellow"].all (fun style =>
          style.toList.all (fun c => !isHidden c && c != '\t') && !style.toList.contains ':') = true := by
        decide
      obtain ⟨isClear, noColon⟩ := Bool.and_eq_true_iff.1 (List.all_eq_true.1 clear style isStyle)
      exact line_messageText_iff (isStyle_bold isStyle) (isClear_of_all isClear) (by simpa using noColon)
        printable noCode below
    simp only [List.mem_cons, List.not_mem_nil, or_false] at isOne
    rcases isOne with rfl | rfl | rfl
    · exact shows _ (by simp)
    · exact shows _ (by simp)
    · exact shows _ (by simp)
  · intro status isStatus below
    have words : (statusColours.map Prod.fst).all (fun status => status.toList.all Text.isPrintable &&
        !(status.toList ++ (statusColour status).toList).contains ':') = true := by decide
    obtain ⟨isWord, noColon⟩ := Bool.and_eq_true_iff.1 (List.all_eq_true.1 words status isStatus)
    exact line_statusText_iff (isStyle_statusColour status) (isPlain_of_mem_statusColours isStatus)
      (isPrintable_of_all isWord) (by simpa using noColon) printable noCode below

end Lines

/-- A message with tags, brackets and backslashes that all lines show as it is. -/
theorem messages_literal_of_tags :
    IsPrintable "[/b] \\[b] [0]".toList ∧ HoldsNoCode "[/b] \\[b] [0]".toList ∧
      successLine "[/b] \\[b] [0]" = .ok ("[/b] \\[b] [0]" ++ "\n") ∧
      statusLine "create" "[/b] \\[b] [0]" =
        .ok (String.ofList (alignRight 12 "create".toList) ++ "  " ++ "[/b] \\[b] [0]" ++ "\n") := by
  have printable : IsPrintable "[/b] \\[b] [0]".toList := isPrintable_of_all (by decide)
  have noCode : HoldsNoCode "[/b] \\[b] [0]".toList := holdsNoCode_of_noColon (by decide)
  obtain ⟨lines, statusLines⟩ := messages_literal "[/b] \\[b] [0]" printable noCode
  refine ⟨printable, noCode, (lines ?_ successLine (by simp)).2 ?_,
    (statusLines "create" (by simp [statusColours]) ?_).2 ?_⟩
  · exact ⟨by decide, by decide⟩
  · decide
  · exact ⟨by decide, by decide⟩
  · decide

/-- A backslash in front of a bracket with which no tag begins is not shown. -/
theorem backslash_not_shown : ¬∀ message : String, IsPrintable message.toList →
    HoldsNoCode message.toList → IsBelow Host.columns message.toList →
    successLine message = .ok (message ++ "\n") := by
  intro all
  have printable : IsPrintable "\\[0]".toList := isPrintable_of_all (by decide)
  have noCode : HoldsNoCode "\\[0]".toList := holdsNoCode_of_noColon (by decide)
  have below : IsBelow Host.columns "\\[0]".toList := ⟨by decide, by decide⟩
  have isStyle : IsStyle "bold green".toList := isStyle_bold (by simp)
  have kept := (line_messageText_iff isStyle (isClear_of_all (by decide)) (by decide) printable noCode below).1
    (all "\\[0]" printable noCode below)
  exact absurd kept.1 (by decide)

end LayeredFiles.Console
