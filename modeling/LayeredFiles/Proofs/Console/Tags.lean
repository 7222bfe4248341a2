import LayeredFiles.Console.Markup
import Mathlib.Data.List.InsertIdx
import Mathlib.Data.List.TakeWhile
import Mathlib.Tactic.Tauto
/-
Module: LayeredFiles.Proofs.Console.Tags
Layer: Proofs
Purpose: which parts of a console text are read as tags. Whether a text can be shown, and in which styles its
  parts are drawn, depends on its tags alone. An escaped text has none, whatever stands behind it: only the
  backslashes at its end count towards a tag behind it.
Main exports: Console.tagsOf, Console.followTags, Console.spansOf_followTags, Console.leadingTag?,
  Console.takeTag?_eq_some_iff, Console.tagsOf_escapeTags
-/

namespace LayeredFiles.Console

/-! ### Plain texts -/

/-- The text has neither backslashes nor opening brackets. -/
def IsPlain (s : List Char) : Prop := ∀ c ∈ s, c ≠ '\\' ∧ c ≠ '['

theorem isPlain_of_all {s : List Char} (all : s.all (fun c => c != '\\' && c != '[') = true) :
    IsPlain s := by
  intro c mem
  simpa using List.all_eq_true.1 all c mem

/-! ### Tags decide -/

/-- The piece is a tag. -/
def Piece.isTag : Piece → Bool
  | .text _ => false
  | .tag _ _ => true

/-- The tags among some pieces. -/
def tagsOf (pieces : List Piece) : List Piece := pieces.filter Piece.isTag

@[simp] theorem tagsOf_nil : tagsOf [] = [] := rfl

@[simp] theorem tagsOf_text (chars : List Char) (rest : List Piece) :
    tagsOf (.text chars :: rest) = tagsOf rest := rfl

@[simp] theorem tagsOf_tag (position : Nat) (inside : List Char) (rest : List Piece) :
    tagsOf (.tag position inside :: rest) = .tag position inside :: tagsOf rest := rfl

@[simp] theorem tagsOf_consChar (c : Char) (pieces : List Piece) :
    tagsOf (consChar c pieces) = tagsOf pieces := by
  unfold consChar
  split
  · rfl
  · rfl

/-- What the tags among some pieces open, if all of them can be followed. -/
def followTags [Host] (isOpen : List OpenTag) : List Piece → Except Fault (List OpenTag)
  | [] => .ok []
  | .text _ :: rest => followTags isOpen rest
  | .tag position inside :: rest => do
    match ← actOf isOpen position inside with
    | .opens tag => pure (tag :: (← followTags (tag :: isOpen) rest))
    | .closes index => followTags (isOpen.eraseIdx index) rest

theorem mem_insertSpan {span other : Span} {spans : List Span} (mem : other ∈ insertSpan span spans) :
    other = span ∨ other ∈ spans := by
  induction spans with
  | nil => exact Or.inl (List.mem_singleton.1 mem)
  | cons first rest ih =>
      unfold insertSpan at mem
      split at mem
      · rcases List.mem_cons.1 mem with rfl | isLater
        · exact Or.inr List.mem_cons_self
        · exact (ih isLater).imp_right (List.mem_cons_of_mem _)
      · exact List.mem_cons.1 mem

theorem mem_foldr_insertSpan {other : Span} {closed spans : List Span}
    (mem : other ∈ closed.foldr insertSpan spans) : other ∈ closed ∨ other ∈ spans := by
  induction closed with
  | nil => exact Or.inr mem
  | cons span rest ih =>
      rcases mem_insertSpan mem with rfl | isRest
      · exact Or.inl List.mem_cons_self
      · exact (ih isRest).imp_left (List.mem_cons_of_mem _)

theorem style_closedSpan? {isOpen : List (Nat × OpenTag)} {index count : Nat} {span : Span}
    (mem : span ∈ (isOpen[index]?.bind (closedSpan? count)).toList) :
    ∃ tag ∈ isOpen.map Prod.snd, span.style = tag.style := by
  obtain ⟨e, isEntry, isSpan⟩ := Option.bind_eq_some_iff.1 (Option.mem_toList.1 mem)
  unfold closedSpan? at isSpan
  split at isSpan
  · cases isSpan
  · cases isSpan
    exact ⟨e.2, List.mem_map_of_mem (List.mem_of_getElem? isEntry), rfl⟩

/-- What pieces style where some tags are open: the fault of following their tags if there is one, and else spans
    in the styles of tags that were open or are opened. -/
def StylesOf (isOpen : List OpenTag) :
    Except Fault (List OpenTag) → Except Fault (List Span) → Prop
  | .error fault, spans => spans = .error fault
  | .ok opened, spans => ∃ drawn, spans = .ok drawn ∧
      ∀ span ∈ drawn, ∃ tag ∈ isOpen ++ opened, span.style = tag.style

/-- A tag is opened in front of what is styled. -/
theorem StylesOf.opens {isOpen : List OpenTag} {tag : OpenTag} {followed : Except Fault (List OpenTag)}
    {spans : Except Fault (List Span)} (styles : StylesOf (tag :: isOpen) followed spans) :
    StylesOf isOpen (followed.map (tag :: ·)) spans := by
  cases followed with
  | error fault => exact styles
  | ok opened =>
      obtain ⟨drawn, isDrawn, each⟩ := styles
      refine ⟨drawn, isDrawn, fun span mem => ?_⟩
      obtain ⟨other, isTag, same⟩ := each span mem
      exact ⟨other, List.perm_middle.symm.subset isTag, same⟩

/-- A tag is closed in front of what is styled, and it styles what was behind it. -/
theorem StylesOf.closes {isOpen : List OpenTag} {index : Nat} {followed : Except Fault (List OpenTag)}
    {spans : Except Fault (List Span)} (styles : StylesOf (isOpen.eraseIdx index) followed spans)
    {closed : List Span} (isClosed : ∀ span ∈ closed, ∃ tag ∈ isOpen, span.style = tag.style) :
    StylesOf isOpen followed (spans.map (closed.foldr insertSpan)) := by
  cases followed with
  | error fault =>
      rw [StylesOf] at styles
      rw [styles]
      rfl
  | ok opened =>
      obtain ⟨drawn, isDrawn, each⟩ := styles
      rw [isDrawn]
      refine ⟨_, rfl, fun span mem => ?_⟩
      rcases mem_foldr_insertSpan mem with isFront | isBehind
      · obtain ⟨tag, isTag, same⟩ := isClosed span isFront
        exact ⟨tag, List.mem_append_left _ isTag, same⟩
      · obtain ⟨tag, isTag, same⟩ := each span isBehind
        exact ⟨tag, ((List.eraseIdx_sublist isOpen index).append_right opened).subset isTag, same⟩

section Following

variable [Host]

@[simp] theorem followTags_text (isOpen : List OpenTag) (chars : List Char) (rest : List Piece) :
    followTags isOpen (.text chars :: rest) = followTags isOpen rest := rfl

/-- Only tags are followed. -/
theorem followTags_tagsOf (isOpen : List OpenTag) (pieces : List Piece) :
    followTags isOpen (tagsOf pieces) = followTags isOpen pieces := by
  induction pieces generalizing isOpen with
  | nil => rfl
  | cons piece rest ih =>
      cases piece with
      | text chars => exact ih isOpen
      | tag position inside => simp only [tagsOf_tag, followTags, ih]

/-- Whether pieces style something, and the fault if not, depends on their tags alone. What is drawn has the
    style of a tag that was open in front of the pieces or is opened by one of them. -/
theorem spansOf_followTags (count : Nat) (isOpen : List (Nat × OpenTag)) (pieces : List Piece) :
    StylesOf (isOpen.map Prod.snd) (followTags (isOpen.map Prod.snd) pieces)
      (spansOf count isOpen pieces) := by
  induction pieces generalizing count isOpen with
  | nil =>
      refine ⟨_, rfl, fun span mem => ?_⟩
      rcases mem_foldr_insertSpan mem with isEnd | isNone
      · obtain ⟨e, isEntry, rfl⟩ := List.mem_map.1 isEnd
        exact ⟨e.2, List.mem_append_left _ (List.mem_map_of_mem isEntry), rfl⟩
      · cases isNone
  | cons piece rest ih =>
      cases piece with
      | text chars => exact ih _ isOpen
      | tag position inside =>
          simp only [followTags, spansOf]
          cases acts : actOf (isOpen.map Prod.snd) position inside with
          | error fault => rfl
          | ok act =>
              cases act with
              | opens tag => exact (ih count ((count, tag) :: isOpen)).opens
              | closes index =>
                  have behind := ih count (isOpen.eraseIdx index)
                  rw [← List.eraseIdx_map] at behind
                  exact behind.closes (fun span mem => style_closedSpan? mem)

end Following

/-! ### Tags at the front -/

theorem noBracket_of_startsTag {c : Char} (starts : startsTag c = true) :
    (c != '[' && c != ']') = true := by
  rw [Bool.and_eq_true, bne_iff_ne, bne_iff_ne]
  constructor
  · rintro rfl
    cases starts
  · rintro rfl
    cases starts

/-- What may stand inside a tag. -/
def IsInside (inside : List Char) : Prop :=
  ∃ c body, inside = c :: body ∧ startsTag c = true ∧ ∀ d ∈ body, (d != '[' && d != ']') = true

theorem takeTag?_eq_some_iff {s inside behind : List Char} :
    takeTag? s = some (inside, behind) ↔ s = inside ++ ']' :: behind ∧ IsInside inside := by
  cases s with
  | nil => simp [takeTag?, IsInside]
  | cons c rest =>
      constructor
      · intro found
        simp only [takeTag?] at found
        split at found
        · rename_i starts
          split at found
          · rename_i after ends
            cases found
            refine ⟨?_, c, _, rfl, starts, ?_⟩
            · rw [List.cons_append, ← ends, List.takeWhile_append_dropWhile]
            · intro d mem
              have free := List.mem_takeWhile_imp mem
              exact free
          · cases found
        · cases found
      · rintro ⟨whole, first, body, rfl, starts, free⟩
        rw [whole]
        have front : (body ++ ']' :: behind).takeWhile (fun c => c != '[' && c != ']') = body := by
          rw [List.takeWhile_append_of_pos free]
          simp
        have back : (body ++ ']' :: behind).dropWhile (fun c => c != '[' && c != ']') =
            ']' :: behind := by
          rw [List.dropWhile_append_of_pos free]
          simp
        rw [List.cons_append]
        simp only [takeTag?, starts, if_true, front, back]

/-- The tag that a text begins with, behind backslashes, and the rest. -/
def leadingTag? (s : List Char) : Option (List Char × List Char) :=
  match (takeBackslashes s).2 with
  | '[' :: inner => takeTag? inner
  | _ => none

theorem takeBackslashes_replicate (count : Nat) {s : List Char} (other : s.head? ≠ some '\\') :
    takeBackslashes (List.replicate count '\\' ++ s) = (count, s) := by
  have free : s.takeWhile (· = '\\') = [] ∧ s.dropWhile (· = '\\') = s := by
    cases s with
    | nil => exact ⟨rfl, rfl⟩
    | cons c rest =>
        have differs : c ≠ '\\' := fun same => other (congrArg some same)
        simp [differs]
  have front : ∀ c ∈ List.replicate count '\\', decide (c = '\\') = true := by
    intro c mem
    simpa using (List.mem_replicate.1 mem).2
  rw [takeBackslashes, List.takeWhile_append_of_pos front, List.dropWhile_append_of_pos front,
    free.1, free.2, List.append_nil, List.length_replicate]

/-- A text is its backslashes and what stands behind them. -/
theorem eq_takeBackslashes (s : List Char) :
    s = List.replicate (takeBackslashes s).1 '\\' ++ (takeBackslashes s).2 := by
  have front : s.takeWhile (· = '\\') = List.replicate (takeBackslashes s).1 '\\' := by
    rw [List.eq_replicate_iff]
    refine ⟨rfl, fun c mem => ?_⟩
    simpa using List.mem_takeWhile_imp mem
  calc s = s.takeWhile (· = '\\') ++ s.dropWhile (· = '\\') := List.takeWhile_append_dropWhile.symm
    _ = _ := by rw [front]; rfl

/-- The text of a tag behind some backslashes. -/
def tagText (count : Nat) (inside : List Char) : List Char :=
  List.replicate count '\\' ++ '[' :: inside ++ [']']

@[simp] theorem length_tagText (count : Nat) (inside : List Char) :
    (tagText count inside).length = count + inside.length + 2 := by
  simp [tagText]
  omega

/-- A text begins with a tag if some backslashes and the tag stand in front of the rest. -/
theorem leadingTag?_tagText {inside : List Char} (isInside : IsInside inside) (count : Nat)
    (behind : List Char) : leadingTag? (tagText count inside ++ behind) = some (inside, behind) := by
  have whole : tagText count inside ++ behind =
      List.replicate count '\\' ++ '[' :: (inside ++ ']' :: behind) := by simp [tagText]
  rw [leadingTag?, whole, takeBackslashes_replicate count (by simp)]
  exact takeTag?_eq_some_iff.2 ⟨rfl, isInside⟩

theorem of_leadingTag? {s inside behind : List Char} (isTag : leadingTag? s = some (inside, behind)) :
    IsInside inside ∧ s = tagText (takeBackslashes s).1 inside ++ behind := by
  have whole := eq_takeBackslashes s
  unfold leadingTag? at isTag
  split at isTag
  · rename_i inner isBracket
    obtain ⟨rfl, isInside⟩ := takeTag?_eq_some_iff.1 isTag
    refine ⟨isInside, ?_⟩
    rw [isBracket] at whole
    rw [tagText, List.append_assoc]
    simpa using whole
  · cases isTag

theorem piecesFrom_of_none {c : Char} {rest : List Char} (noTag : leadingTag? (c :: rest) = none)
    (fuel position : Nat) :
    piecesFrom (fuel + 1) position (c :: rest) = consChar c (piecesFrom fuel (position + 1) rest) := by
  simp only [piecesFrom]
  split
  · split
    · rename_i isTag
      cases noTag.symm.trans isTag
    · rfl
  · rfl

theorem escapeFrom_of_none {c : Char} {rest : List Char} (noTag : leadingTag? (c :: rest) = none)
    (fuel : Nat) : escapeFrom (fuel + 1) (c :: rest) = c :: escapeFrom fuel rest := by
  simp only [escapeFrom]
  split
  · split
    · rename_i isTag
      cases noTag.symm.trans isTag
    · rfl
  · rfl

/-- The text of a tag begins with a backslash or a bracket. -/
theorem exists_tagText_eq_cons (count : Nat) (inside behind : List Char) :
    ∃ c rest, tagText count inside ++ behind = c :: rest ∧ (c = '\\' || c = '[') = true := by
  cases count with
  | zero => exact ⟨'[', inside ++ [']'] ++ behind, by simp [tagText], rfl⟩
  | succ count =>
      exact ⟨'\\', tagText count inside ++ behind, by simp [tagText, List.replicate_succ], rfl⟩

/-- The pieces of a tag behind some backslashes. -/
theorem piecesFrom_tagText {inside : List Char} (isInside : IsInside inside) (count : Nat)
    (behind : List Char) (fuel position : Nat) :
    piecesFrom (fuel + 1) position (tagText count inside ++ behind) =
      .text (List.replicate (count / 2) '\\') ::
        (if count % 2 = 1 then [.text ('[' :: inside ++ [']'])] else [.tag (position + count) inside]) ++
        piecesFrom fuel (position + count + inside.length + 2) behind := by
  have isTag := leadingTag?_tagText isInside count behind
  have number : (takeBackslashes (tagText count inside ++ behind)).1 = count := by
    rw [tagText, List.append_assoc, List.append_assoc, takeBackslashes_replicate count (by simp)]
  obtain ⟨c, rest, isCons, opens⟩ := exists_tagText_eq_cons count inside behind
  rw [isCons] at isTag number ⊢
  simp only [piecesFrom, opens, if_true]
  split
  · rename_i found
    cases isTag.symm.trans found
    rw [number]
  · rename_i notFound
    cases isTag.symm.trans notFound

/-- A tag behind an odd number of backslashes is a text. -/
theorem tagsOf_piecesFrom_tagText {inside : List Char} (isInside : IsInside inside) (count : Nat)
    (behind : List Char) (fuel position : Nat) :
    tagsOf (piecesFrom (fuel + 1) position (tagText count inside ++ behind)) =
      tagsOf ((if count % 2 = 1 then [] else [.tag (position + count) inside]) ++
        piecesFrom fuel (position + count + inside.length + 2) behind) := by
  rw [piecesFrom_tagText isInside]
  split
  · rfl
  · rfl

theorem escapeFrom_tagText {inside : List Char} (isInside : IsInside inside) (count : Nat)
    (behind : List Char) (fuel : Nat) :
    escapeFrom (fuel + 1) (tagText count inside ++ behind) =
      tagText (2 * count + 1) inside ++ escapeFrom fuel behind := by
  have isTag := leadingTag?_tagText isInside count behind
  have number : (takeBackslashes (tagText count inside ++ behind)).1 = count := by
    rw [tagText, List.append_assoc, List.append_assoc, takeBackslashes_replicate count (by simp)]
  obtain ⟨c, rest, isCons, opens⟩ := exists_tagText_eq_cons count inside behind
  rw [isCons] at isTag number ⊢
  simp only [escapeFrom, opens, if_true]
  split
  · rename_i found
    cases isTag.symm.trans found
    rw [number]
    simp [tagText]
  · rename_i notFound
    cases isTag.symm.trans notFound

@[simp] theorem leadingTag?_backslash (s : List Char) : leadingTag? ('\\' :: s) = leadingTag? s := by
  simp [leadingTag?, takeBackslashes]

@[simp] theorem leadingTag?_bracket (s : List Char) : leadingTag? ('[' :: s) = takeTag? s := by
  simp [leadingTag?, takeBackslashes]

theorem leadingTag?_plain {c : Char} (s : List Char) (notBackslash : c ≠ '\\') (notBracket : c ≠ '[') :
    leadingTag? (c :: s) = none := by
  simp [leadingTag?, takeBackslashes, notBackslash, notBracket]

/-- Without an opening bracket no tag begins. -/
theorem leadingTag?_of_noBracket {s : List Char} (noBracket : '[' ∉ s) : leadingTag? s = none := by
  cases found : leadingTag? s with
  | none => rfl
  | some tag =>
      obtain ⟨-, whole⟩ := of_leadingTag? found
      rw [whole] at noBracket
      simp [tagText] at noBracket

theorem tagsOf_piecesFrom_noBracket {s : List Char} (noBracket : '[' ∉ s) (fuel position : Nat) :
    tagsOf (piecesFrom fuel position s) = [] := by
  induction s generalizing fuel position with
  | nil => cases fuel <;> rfl
  | cons c rest ih =>
      cases fuel with
      | zero => rfl
      | succ fuel =>
          rw [piecesFrom_of_none (leadingTag?_of_noBracket noBracket), tagsOf_consChar]
          exact ih (fun mem => noBracket (List.mem_cons_of_mem _ mem)) _ _

/-! ### Brackets -/

/-- The first bracket of a text. -/
def firstBracket? (s : List Char) : Option Char :=
  (s.dropWhile (fun c => c != '[' && c != ']')).head?

@[simp] theorem firstBracket?_nil : firstBracket? [] = none := rfl

theorem firstBracket?_cons (c : Char) (s : List Char) :
    firstBracket? (c :: s) = if c = '[' ∨ c = ']' then some c else firstBracket? s := by
  by_cases isBracket : c = '[' ∨ c = ']'
  · rw [if_pos isBracket]
    rcases isBracket with rfl | rfl
    · rfl
    · rfl
  · rw [if_neg isBracket]
    simp only [not_or] at isBracket
    simp [firstBracket?, isBracket.1, isBracket.2]

theorem firstBracket?_tagText (count : Nat) (inside behind : List Char) :
    firstBracket? (tagText count inside ++ behind) = some '[' := by
  induction count with
  | zero => rfl
  | succ count ih =>
      have isCons : tagText (count + 1) inside ++ behind = '\\' :: (tagText count inside ++ behind) := by
        simp [tagText, List.replicate_succ]
      rw [isCons, firstBracket?_cons, if_neg (by decide), ih]

/-- A tag begins like one and ends at its first bracket. -/
theorem takeTag?_cons_eq_none_iff (c : Char) (s : List Char) :
    takeTag? (c :: s) = none ↔ startsTag c = false ∨ firstBracket? s ≠ some ']' := by
  by_cases starts : startsTag c = true
  · simp only [takeTag?, starts, if_true, firstBracket?, Bool.true_eq_false, false_or]
    split
    · rename_i ends
      simp [ends]
    · rename_i other
      refine ⟨fun _ isClosing => ?_, fun _ => rfl⟩
      obtain ⟨after, ends⟩ := List.head?_eq_some_iff.1 isClosing
      exact other after ends
  · simp [takeTag?, starts]

/-! ### Escaped texts -/

/-- A text that does not complete a tag which was begun in front of it. -/
structure IsTail (tail : List Char) : Prop where
  opens : firstBracket? tail ≠ some ']'
  noTag : takeTag? tail = none

theorem isTail_nil : IsTail [] := ⟨by simp, rfl⟩

theorem isTail_bracket (s : List Char) : IsTail ('[' :: s) :=
  ⟨by simp [firstBracket?_cons], (takeTag?_cons_eq_none_iff _ _).2 (Or.inl (by decide))⟩

theorem IsTail.backslash {tail : List Char} (isTail : IsTail tail) : IsTail ('\\' :: tail) := by
  refine ⟨?_, (takeTag?_cons_eq_none_iff _ _).2 (Or.inl (by decide))⟩
  rw [firstBracket?_cons, if_neg (by decide)]
  exact isTail.opens

section Escaped

variable {tail : List Char} (isTail : IsTail tail)
include isTail

/-- The first bracket of an escaped text closes only if that of the text does. -/
theorem firstBracket?_escapeFrom (fuel : Nat) {s : List Char}
    (opens : firstBracket? s ≠ some ']') : firstBracket? (escapeFrom fuel s ++ tail) ≠ some ']' := by
  induction fuel generalizing s with
  | zero => exact isTail.opens
  | succ fuel ih =>
      cases s with
      | nil => exact isTail.opens
      | cons c rest =>
          cases found : leadingTag? (c :: rest) with
          | some tag =>
              obtain ⟨isInside, whole⟩ := of_leadingTag? found
              rw [whole, escapeFrom_tagText isInside, List.append_assoc, firstBracket?_tagText]
              decide
          | none =>
              rw [escapeFrom_of_none found, List.cons_append, firstBracket?_cons]
              rw [firstBracket?_cons] at opens
              by_cases isBracket : c = '[' ∨ c = ']'
              · rw [if_pos isBracket] at opens ⊢
                exact opens
              · rw [if_neg isBracket] at opens ⊢
                exact ih opens

/-- No tag comes up behind a bracket when the text behind it is escaped. -/
theorem takeTag?_escapeFrom (fuel : Nat) {s : List Char} (noTag : takeTag? s = none) :
    takeTag? (escapeFrom fuel s ++ tail) = none := by
  cases fuel with
  | zero => exact isTail.noTag
  | succ fuel =>
      cases s with
      | nil => exact isTail.noTag
      | cons c rest =>
          cases found : leadingTag? (c :: rest) with
          | some tag =>
              -- The escaped text begins with a backslash, which no tag does.
              obtain ⟨isInside, whole⟩ := of_leadingTag? found
              rw [whole, escapeFrom_tagText isInside, tagText, List.replicate_succ]
              exact (takeTag?_cons_eq_none_iff _ _).2 (Or.inl (by decide))
          | none =>
              rw [escapeFrom_of_none found, List.cons_append, takeTag?_cons_eq_none_iff]
              rw [takeTag?_cons_eq_none_iff] at noTag
              rcases noTag with starts | opens
              · exact Or.inl starts
              · exact Or.inr (firstBracket?_escapeFrom isTail fuel opens)

/-- An escaped text without a tag at its front begins with none, or consists of backslashes. -/
theorem leadingTag?_escapeFrom (fuel : Nat) {s : List Char} (noTag : leadingTag? s = none) :
    (∃ count, escapeFrom fuel s = List.replicate count '\\') ∨
      leadingTag? (escapeFrom fuel s ++ tail) = none := by
  induction fuel generalizing s with
  | zero => exact Or.inl ⟨0, rfl⟩
  | succ fuel ih =>
      cases s with
      | nil => exact Or.inl ⟨0, rfl⟩
      | cons c rest =>
          rw [escapeFrom_of_none noTag, List.cons_append]
          by_cases isBackslash : c = '\\'
          · subst isBackslash
            rw [leadingTag?_backslash] at noTag ⊢
            rcases ih noTag with ⟨count, all⟩ | none
            · exact Or.inl ⟨count + 1, by rw [all, List.replicate_succ]⟩
            · exact Or.inr none
          · by_cases isBracket : c = '['
            · subst isBracket
              rw [leadingTag?_bracket] at noTag ⊢
              exact Or.inr (takeTag?_escapeFrom isTail fuel noTag)
            · exact Or.inr (leadingTag?_plain _ isBackslash isBracket)

/-- No part of an escaped text is read as a tag: the tags of a text that begins with an escaped one are
    those of what stands behind it, where backslashes from the end of the escaped text may join. Tags keep
    their positions. -/
theorem tagsOf_escapeFrom (fuel : Nat) (s : List Char) (fuel' position : Nat) :
    ∃ count fuel₁ position₁, tagsOf (piecesFrom fuel' position (escapeFrom fuel s ++ tail)) =
        tagsOf (piecesFrom fuel₁ position₁ (List.replicate count '\\' ++ tail)) ∧
      ((escapeFrom fuel s ++ tail).length < fuel' →
        position₁ + count = position + (escapeFrom fuel s).length ∧ count + tail.length < fuel₁) := by
  induction fuel generalizing s fuel' position with
  | zero => exact ⟨0, fuel', position, rfl, fun enough => ⟨rfl, by simpa [escapeFrom] using enough⟩⟩
  | succ fuel ih =>
      cases s with
      | nil =>
          exact ⟨0, fuel', position, rfl, fun enough => ⟨rfl, by simpa [escapeFrom] using enough⟩⟩
      | cons c rest =>
          cases fuel' with
          | zero => exact ⟨0, 0, position, rfl, fun enough => absurd enough (Nat.not_lt_zero _)⟩
          | succ fuel' =>
              cases found : leadingTag? (c :: rest) with
              | some tag =>
                  obtain ⟨isInside, whole⟩ := of_leadingTag? found
                  have isOdd : (2 * (takeBackslashes (c :: rest)).1 + 1) % 2 = 1 := by omega
                  rw [whole, escapeFrom_tagText isInside, List.append_assoc,
                    tagsOf_piecesFrom_tagText isInside, if_pos isOdd, List.nil_append]
                  obtain ⟨count, fuel₁, position₁, same, places⟩ := ih tag.2 fuel' _
                  refine ⟨count, fuel₁, position₁, same, fun enough => ?_⟩
                  simp only [List.length_append, length_tagText] at enough places ⊢
                  obtain ⟨place, enough₁⟩ := places (by omega)
                  exact ⟨by omega, enough₁⟩
              | none =>
                  rcases leadingTag?_escapeFrom isTail (fuel + 1) found with ⟨count, all⟩ | none
                  · refine ⟨count, fuel' + 1, position, by rw [all], fun enough => ?_⟩
                    rw [all, List.length_append, List.length_replicate] at enough
                    rw [all, List.length_replicate]
                    exact ⟨rfl, enough⟩
                  · rw [escapeFrom_of_none found, List.cons_append] at none ⊢
                    rw [piecesFrom_of_none none, tagsOf_consChar]
                    obtain ⟨count, fuel₁, position₁, same, places⟩ := ih rest fuel' (position + 1)
                    refine ⟨count, fuel₁, position₁, same, fun enough => ?_⟩
                    simp only [List.length_cons] at enough ⊢
                    obtain ⟨place, enough₁⟩ := places (by omega)
                    exact ⟨by omega, enough₁⟩

/-- The same, with the backslash that may be added at the end of an escaped text. -/
theorem tagsOf_escapeTags (s : List Char) (fuel position : Nat) :
    ∃ count fuel₁ position₁, tagsOf (piecesFrom fuel position (escapeTags s ++ tail)) =
        tagsOf (piecesFrom fuel₁ position₁ (List.replicate count '\\' ++ tail)) ∧
      ((escapeTags s ++ tail).length < fuel →
        position₁ + count = position + (escapeTags s).length ∧ count + tail.length < fuel₁) := by
  simp only [escapeTags]
  split
  · exact tagsOf_escapeFrom isTail _ s fuel position
  · -- The added backslash counts as one of the tail.
    obtain ⟨count, fuel₁, position₁, same, places⟩ :=
      tagsOf_escapeFrom isTail.backslash (s.length + 1) s fuel position
    refine ⟨count + 1, fuel₁, position₁, ?_, fun enough => ?_⟩
    · rw [List.append_assoc, List.singleton_append, same, List.replicate_succ', List.append_assoc]
      rfl
    · simp only [List.length_append, List.length_cons, List.length_nil] at enough places ⊢
      obtain ⟨place, enough₁⟩ := places (by omega)
      exact ⟨by omega, by omega⟩
  · exact tagsOf_escapeFrom isTail _ s fuel position

end Escaped

end LayeredFiles.Console
