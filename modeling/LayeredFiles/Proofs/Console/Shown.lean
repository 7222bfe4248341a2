import LayeredFiles.Console.Status
import LayeredFiles.Console.Table
import LayeredFiles.Proofs.Console.Lines
import LayeredFiles.Proofs.Console.Pictures
import LayeredFiles.Proofs.Fault
/-
Module: LayeredFiles.Proofs.Console.Shown
Layer: Proofs
Purpose: console texts that can be shown. A text can be shown if every tag that closes a style finds it open,
  and the console can draw in the styles. Texts without an opening bracket and escaped texts have no tags, so
  the lines that tell what was done can be shown whatever their messages hold. A line that cannot be shown has
  a tag that cannot be followed, or one for a colour with a part that is no number.
Main exports: Console.Shown, Console.Shown.escapeTags, Console.Shown.line_eq, Console.IsStyle,
  Console.shown_messageText, Console.exists_statusLine, Console.yields_line, Console.yields_chainTable
-/

namespace LayeredFiles

namespace Console

/-! ### Drawing -/

/-- The console can draw in the style, also if it describes none. -/
def IsDrawable (style : List Char) : Prop := ∃ parsed, Style.parse? style = .ok parsed

theorem isDrawable_of_isSome {style : List Char} (isSome : (Style.parse? style).toOption.isSome = true) :
    IsDrawable style := by
  obtain ⟨parsed, isParsed⟩ := Option.isSome_iff_exists.1 isSome
  exact ⟨parsed, eq_ok_of_toOption isParsed⟩

theorem draw_eq_ok {text : StyledText} (drawable : ∀ span ∈ text.spans, IsDrawable span.style)
    (cutsOf : List Char → List Cut) : text.draw cutsOf = .ok () := by
  apply forM_eq_ok
  intro span mem
  obtain ⟨parsed, isParsed⟩ := drawable span (List.mem_filter.1 mem).1
  rw [isParsed]
  rfl

/-! ### Reading -/

theorem piecesFrom_noBracket {s : List Char} (noBracket : '[' ∉ s) {fuel : Nat} (position : Nat)
    (enough : s.length < fuel) : piecesFrom fuel position s = if s = [] then [] else [.text s] := by
  induction s generalizing fuel position with
  | nil => cases fuel <;> rfl
  | cons c rest ih =>
      cases fuel with
      | zero => cases enough
      | succ fuel =>
          rw [piecesFrom_of_none (leadingTag?_of_noBracket noBracket),
            ih (fun mem => noBracket (List.mem_cons_of_mem _ mem)) _ (Nat.lt_of_succ_lt_succ enough)]
          cases rest <;> rfl

section Showing

variable [Host]

/-- A text without brackets has pieces like any other, but no spans. -/
theorem readMarkup_eq (s : List Char) :
    readMarkup s = (spansOf 0 [] (pieces s)).map (fun spans => ⟨shownText (pieces s), spans⟩) := by
  unfold readMarkup
  split
  · rfl
  · rename_i noBracket
    replace noBracket : '[' ∉ s := by simpa using noBracket
    rw [pieces, piecesFrom_noBracket noBracket 0 (Nat.lt_succ_self _)]
    split
    · rename_i isNil
      rw [isNil]
      rfl
    · simp [spansOf, shownText, unescapeBrackets_of_noBracket noBracket, Except.map]

/-! ### Showing -/

/-- With these tags open the tags of the text can be followed, wherever it stands, and the console can draw in
    the styles of those that it opens. -/
def Shown (isOpen : List OpenTag) (s : List Char) : Prop :=
  ∀ fuel position, ∃ opened, followTags isOpen (piecesFrom fuel position s) = .ok opened ∧
    ∀ tag ∈ opened, IsDrawable tag.style

/-- Whether pieces can be shown depends on their tags alone. -/
theorem followTags_of_tagsOf {isOpen : List OpenTag} {pieces pieces' : List Piece}
    (same : tagsOf pieces = tagsOf pieces') : followTags isOpen pieces = followTags isOpen pieces' := by
  rw [← followTags_tagsOf, same, followTags_tagsOf]

namespace Shown

variable {isOpen : List OpenTag} {s : List Char}

theorem nil (isOpen : List OpenTag) : Shown isOpen [] := by
  intro fuel position
  cases fuel with
  | zero => exact ⟨[], rfl, by simp⟩
  | succ fuel => exact ⟨[], rfl, by simp⟩

/-- A character with which no tag begins is shown. -/
theorem cons {c : Char} (noTag : leadingTag? (c :: s) = none) (shown : Shown isOpen s) :
    Shown isOpen (c :: s) := by
  intro fuel position
  cases fuel with
  | zero => exact ⟨[], rfl, by simp⟩
  | succ fuel =>
      rw [piecesFrom_of_none noTag, followTags_of_tagsOf (tagsOf_consChar _ _)]
      exact shown fuel (position + 1)

/-- A plain text is shown in front of any text. -/
theorem append {plain : List Char} (isPlain : IsPlain plain)
    (shown : Shown isOpen s) : Shown isOpen (plain ++ s) := by
  induction plain with
  | nil => exact shown
  | cons c rest ih =>
      obtain ⟨notBackslash, notBracket⟩ := isPlain c List.mem_cons_self
      apply cons (leadingTag?_plain _ notBackslash notBracket)
      exact ih (fun c mem => isPlain c (List.mem_cons_of_mem _ mem))

/-- A text without an opening bracket is shown. -/
theorem of_noBracket (isOpen : List OpenTag) (noBracket : '[' ∉ s) : Shown isOpen s := by
  induction s with
  | nil => exact nil isOpen
  | cons c rest ih =>
      apply cons (leadingTag?_of_noBracket noBracket)
      exact ih (fun mem => noBracket (List.mem_cons_of_mem _ mem))

/-- An escaped text is shown in front of what is shown behind backslashes. -/
theorem escapeTags {tail : List Char} (isTail : IsTail tail)
    (shown : ∀ count, Shown isOpen (List.replicate count '\\' ++ tail)) (s : List Char) :
    Shown isOpen (escapeTags s ++ tail) := by
  intro fuel position
  obtain ⟨count, fuel₁, position₁, same, -⟩ := tagsOf_escapeTags isTail s fuel position
  rw [followTags_of_tagsOf same]
  exact shown count fuel₁ position₁

end Shown

end Showing

/-! ### Styles -/

/-- The tag that the name of a style opens. -/
def tagOf (style : List Char) : OpenTag := ⟨(normalStyle style).toOption.getD [], none⟩

/-- The text is the name of a style, as it stands in the tags that open and close it. -/
structure IsStyle (style : List Char) : Prop where
  isInside : IsInside style
  noSlash : style.head? ≠ some '/'
  opens : splitTag style = (style, none)
  closes : splitTag ('/' :: style) = ('/' :: style, none)
  stripped : Text.strip style = style
  named : normalStyle style = .ok (tagOf style).name
  drawable : IsDrawable (tagOf style).style

namespace IsStyle

variable {style : List Char} (isStyle : IsStyle style)
include isStyle

theorem isInside_closing : IsInside ('/' :: style) := by
  obtain ⟨c, body, rfl, starts, free⟩ := isStyle.isInside
  refine ⟨'/', c :: body, rfl, by decide, ?_⟩
  intro d mem
  rcases List.mem_cons.1 mem with isFirst | isBody
  · rw [isFirst]
    exact noBracket_of_startsTag starts
  · exact free d isBody

theorem ne_nil : style ≠ [] := by
  obtain ⟨c, body, rfl, -⟩ := isStyle.isInside
  exact List.cons_ne_nil c body

variable [Host]

theorem actOf_opening (isOpen : List OpenTag) (position : Nat) :
    actOf isOpen position style = .ok (.opens (tagOf style)) := by
  unfold actOf
  rw [isStyle.opens]
  split
  · rename_i isSlash
    cases isSlash
    exact absurd rfl isStyle.noSlash
  · rename_i same
    cases same
    rw [isStyle.named]
    rfl

theorem actOf_closing (isOpen : List OpenTag) (position : Nat) :
    actOf isOpen position ('/' :: style) =
      closeFound (.unopened (String.ofList ('[' :: ('/' :: style) ++ [']'])) position)
        (isOpen.zipIdx.find? (fun e => e.1.name = (tagOf style).name)) := by
  have nonempty := isStyle.ne_nil
  unfold actOf
  rw [isStyle.closes]
  simp only [isStyle.stripped, isStyle.named]
  rfl

theorem followTags_opening (isOpen : List OpenTag) (position : Nat) (rest : List Piece) :
    followTags isOpen (.tag position style :: rest) =
      (followTags (tagOf style :: isOpen) rest).map (tagOf style :: ·) := by
  rw [followTags, isStyle.actOf_opening]
  rfl

theorem followTags_closing (isOpen : List OpenTag) (position : Nat) (rest : List Piece) :
    followTags (tagOf style :: isOpen) (.tag position ('/' :: style) :: rest) =
      followTags isOpen rest := by
  rw [followTags, isStyle.actOf_closing, List.zipIdx_cons, List.find?_cons_of_pos (by simp)]
  rfl

/-- A tag that closes a style is a fault where no style is open. -/
theorem followTags_unopened (position : Nat) (rest : List Piece) :
    followTags [] (.tag position ('/' :: style) :: rest) =
      .error (.markup (.unopened (String.ofList ('[' :: ('/' :: style) ++ [']'])) position)) := by
  rw [followTags, isStyle.actOf_closing]
  rfl

/-- What is shown inside a style is shown behind the tag that opens it. -/
theorem shown_opening {isOpen : List OpenTag} {s : List Char}
    (shown : Shown (tagOf style :: isOpen) s) : Shown isOpen (tagText 0 style ++ s) := by
  intro fuel position
  cases fuel with
  | zero => exact ⟨[], rfl, by simp⟩
  | succ fuel =>
      rw [followTags_of_tagsOf (tagsOf_piecesFrom_tagText isStyle.isInside 0 s fuel position),
        if_neg (by decide), List.singleton_append, isStyle.followTags_opening]
      obtain ⟨opened, follows, drawable⟩ := shown fuel (position + 0 + style.length + 2)
      rw [follows]
      exact ⟨_, rfl, List.forall_mem_cons.2 ⟨isStyle.drawable, drawable⟩⟩

/-- What is shown outside a style is shown behind the tag that closes it. Behind an odd number of backslashes
    the tag is a text, and the style stays open. -/
theorem shown_closing {isOpen : List OpenTag} {s : List Char} (outside : Shown isOpen s)
    (inside : Shown (tagOf style :: isOpen) s) (count : Nat) :
    Shown (tagOf style :: isOpen) (tagText count ('/' :: style) ++ s) := by
  intro fuel position
  cases fuel with
  | zero => exact ⟨[], rfl, by simp⟩
  | succ fuel =>
      rw [followTags_of_tagsOf
        (tagsOf_piecesFrom_tagText isStyle.isInside_closing count s fuel position)]
      split
      · exact inside fuel _
      · rw [List.singleton_append, isStyle.followTags_closing]
        exact outside fuel _

end IsStyle

/-! ### Lines -/

section Lines

variable [Host]

/-- What can be shown is read, and the console can draw in all its styles. -/
theorem Shown.readMarkup {s : List Char} (shown : Shown [] s) :
    ∃ spans, readMarkup s = .ok ⟨shownText (pieces s), spans⟩ ∧ ∀ span ∈ spans, IsDrawable span.style := by
  obtain ⟨opened, follows, drawable⟩ := shown (s.length + 1) 0
  have styled := spansOf_followTags 0 [] (pieces s)
  rw [List.map_nil, show followTags [] (pieces s) = .ok opened from follows] at styled
  obtain ⟨spans, isSpans, styles⟩ := styled
  refine ⟨spans, by rw [readMarkup_eq, isSpans]; rfl, fun span mem => ?_⟩
  obtain ⟨tag, isTag, same⟩ := styles span mem
  exact same ▸ drawable tag isTag

/-- What can be shown stands on the console, in as many lines as it takes. -/
theorem Shown.line_eq {s : List Char} (shown : Shown [] s) :
    line s = .ok (String.ofList (Text.joinWith ['\n'] (consoleLines (shownText (pieces s))) ++ ['\n'])) := by
  obtain ⟨spans, isRead, drawable⟩ := shown.readMarkup
  have drawn : ∀ cutsOf, StyledText.draw ⟨shownText (pieces s), spans⟩ cutsOf = .ok () := draw_eq_ok drawable
  rw [line, isRead]
  simp only [bind, Except.bind, drawn]
  rfl

/-- A text that can be shown is shown as a line. -/
theorem Shown.line {s : List Char} (shown : Shown [] s) : ∃ text, Console.line s = .ok text :=
  ⟨_, shown.line_eq⟩

/-- A line with a tag that closes nothing cannot be shown. -/
theorem not_line_of_tagsOf {s : List Char} {fault : Fault}
    (fails : followTags [] (tagsOf (pieces s)) = .error fault) : Console.line s = .error fault := by
  have styled := spansOf_followTags 0 [] (pieces s)
  rw [List.map_nil, ← followTags_tagsOf, fails] at styled
  rw [Console.line, readMarkup_eq, styled]
  rfl

/-- A message in a style can be shown, whatever it holds. -/
theorem shown_messageText {style : String} (isStyle : IsStyle style.toList) (message : List Char) :
    Shown [] (messageText style message) := by
  have whole : messageText style message =
      tagText 0 style.toList ++ (escapeTags message ++ (tagText 0 ('/' :: style.toList) ++ [])) := by
    simp [messageText, styled, tagText]
  rw [whole]
  apply isStyle.shown_opening
  apply Shown.escapeTags
  · exact isTail_bracket _
  · intro count
    have behind := isStyle.shown_closing (Shown.nil []) (Shown.nil _) count
    simpa [tagText] using behind

end Lines

theorem isPlain_alignRight {s : List Char} (isPlain : IsPlain s) (columns : Nat) :
    IsPlain (alignRight columns s) := by
  intro c mem
  rcases List.mem_append.1 mem with isBlank | isStatus
  · rw [(List.mem_replicate.1 isBlank).2]
    decide
  · exact isPlain c isStatus

section Lines

variable [Host]

/-- A message behind a status word can be shown, if the word has neither brackets nor backslashes. -/
theorem shown_statusText {status colour : String} (isStyle : IsStyle ("bold " ++ colour).toList)
    (isPlain : IsPlain status.toList) (message : List Char) :
    Shown [] (statusText status colour message) := by
  have whole : statusText status colour message =
      tagText 0 ("bold " ++ colour).toList ++ (alignRight 12 status.toList ++
        (tagText 0 ('/' :: ("bold " ++ colour).toList) ++ (' ' :: ' ' :: (escapeTags message ++ [])))) := by
    simp [statusText, styled, tagText]
  have behind : ∀ isOpen, Shown isOpen (' ' :: ' ' :: (escapeTags message ++ [])) := by
    intro isOpen
    apply Shown.cons (leadingTag?_plain _ (by decide) (by decide))
    apply Shown.cons (leadingTag?_plain _ (by decide) (by decide))
    apply Shown.escapeTags isTail_nil
    intro count
    apply Shown.of_noBracket
    simp
  rw [whole]
  apply isStyle.shown_opening
  apply Shown.append
  · exact isPlain_alignRight isPlain 12
  · exact isStyle.shown_closing (behind []) (behind _) 0

end Lines

/-! ### The styles of the lines -/

/-- Tells whether a text is the name of a style. -/
def checkStyle (style : List Char) : Bool :=
  startsTag (style.headD ' ') && style.headD ' ' != '/' &&
    style.all (fun c => c != '[' && c != ']') && splitTag style == (style, none) &&
    splitTag ('/' :: style) == ('/' :: style, none) && Text.strip style == style &&
    (normalStyle style).toOption.isSome && (Style.parse? (tagOf style).style).toOption.isSome

theorem isStyle_of_check {style : List Char} (isOk : checkStyle style = true) : IsStyle style := by
  simp only [checkStyle, Bool.and_eq_true, bne_iff_ne, beq_iff_eq, List.all_eq_true] at isOk
  obtain ⟨⟨⟨⟨⟨⟨⟨starts, noSlash⟩, free⟩, opens⟩, closes⟩, stripped⟩, named⟩, drawable⟩ := isOk
  have isNamed : normalStyle style = .ok (tagOf style).name := by
    unfold tagOf
    cases isNormal : normalStyle style with
    | error fault =>
        rw [isNormal] at named
        cases named
    | ok name => rfl
  cases style with
  | nil => cases starts
  | cons c body =>
      refine ⟨⟨c, body, rfl, starts, ?_⟩, ?_, opens, closes, stripped, isNamed,
        isDrawable_of_isSome drawable⟩
      · intro d mem
        rw [Bool.and_eq_true, bne_iff_ne, bne_iff_ne]
        exact free d (List.mem_cons_of_mem _ mem)
      · intro isSlash
        exact noSlash (Option.some.inj isSlash)

/-- The styles of messages are styles. -/
theorem isStyle_bold {style : String} (isOne : style ∈ ["bold green", "bold red", "bold yellow"]) :
    IsStyle style.toList := by
  have all : ["bold green", "bold red", "bold yellow"].all (fun style => checkStyle style.toList) =
      true := by decide +kernel
  exact isStyle_of_check (List.all_eq_true.1 all style isOne)

theorem isStyle_statusColour (status : String) : IsStyle ("bold " ++ statusColour status).toList := by
  have all : ("white" :: statusColours.map Prod.snd).all
      (fun colour => checkStyle ("bold " ++ colour).toList) = true := by decide +kernel
  refine isStyle_of_check (List.all_eq_true.1 all _ ?_)
  unfold statusColour
  cases found : statusColours.lookup status with
  | none => exact List.mem_cons_self
  | some colour =>
      obtain ⟨before, after, whole, -⟩ := List.lookup_eq_some_iff.1 found
      refine List.mem_cons_of_mem _ (List.mem_map.2 ⟨(status, colour), ?_, rfl⟩)
      rw [whole]
      simp

/-- The status words that have a colour of their own are plain. -/
theorem isPlain_of_mem_statusColours {status : String} (isStatus : status ∈ statusColours.map Prod.fst) :
    IsPlain status.toList := by
  have all : (statusColours.map Prod.fst).all
      (fun status => status.toList.all (fun c => c != '\\' && c != '[')) = true := by decide
  exact isPlain_of_all (List.all_eq_true.1 all status isStatus)

/-! ### Lines of good and bad news -/

section News

variable [Host]

theorem exists_successLine (message : String) : ∃ text, successLine message = .ok text :=
  (shown_messageText (isStyle_bold (by simp)) message.toList).line

theorem exists_errorLine (message : String) : ∃ text, errorLine message = .ok text :=
  (shown_messageText (isStyle_bold (by simp)) message.toList).line

theorem exists_warningLine (message : String) : ∃ text, warningLine message = .ok text :=
  (shown_messageText (isStyle_bold (by simp)) message.toList).line

/-- A status word without brackets and backslashes can be shown with any message. -/
theorem exists_statusLine {status : String} (isPlain : IsPlain status.toList)
    (message : String) : ∃ text, statusLine status message = .ok text :=
  (shown_statusText (isStyle_statusColour status) isPlain message.toList).line

end News

/-! ### Why a text is not shown -/

theorem yields_readPart (s : List Char) : Yields Fault.IsUnshown (fun _ => True) (readPart s) := by
  unfold readPart
  split
  · exact True.intro
  · exact .noNumber _
  · exact .longNumber _

theorem yields_readColour (word : List Char) :
    Yields Fault.IsUnshown (fun _ => True) (readColour word) := by
  have parts : ∀ s, Yields Fault.IsUnshown (fun _ => True) (readParts s) := by
    intro s
    unfold readParts
    split
    · rename_i red green blue _
      apply (yields_readPart red).bind
      intro red _
      apply (yields_readPart green).bind
      intro green _
      apply (yields_readPart blue).bind
      intro blue _
      exact True.intro
    · exact True.intro
  unfold readColour
  split
  · exact True.intro
  · split
    · exact True.intro
    · split
      · exact True.intro
      · split
        · exact parts _
        · exact True.intro
      · exact True.intro

theorem yields_addWords (style : Style) (words : List (List Char)) :
    Yields Fault.IsUnshown (fun _ => True) (style.addWords words) := by
  fun_induction Style.addWords style words with
  | case3 style word lowered name isOn colour rest ih =>
      apply (yields_readColour _).bind
      intro isColour _
      split
      · exact ih
      · exact True.intro
  | case10 style word rest lowered name notOn notNot notLink isNone ih =>
      apply (yields_readColour _).bind
      intro isColour _
      split
      · exact ih
      · exact True.intro
  | case5 | case8 | case9 => assumption
  | _ => exact True.intro

theorem yields_parse? (s : List Char) : Yields Fault.IsUnshown (fun _ => True) (Style.parse? s) := by
  unfold Style.parse?
  split
  · exact True.intro
  · exact yields_addWords _ _

theorem yields_normalStyle (s : List Char) :
    Yields Fault.IsUnshown (fun _ => True) (normalStyle s) := by
  apply (yields_parse? s).bind
  intro style _
  cases style with
  | none => exact True.intro
  | some style => exact True.intro

theorem yields_draw (text : StyledText) (cutsOf : List Char → List Cut) :
    Yields Fault.IsUnshown (fun _ => True) (text.draw cutsOf) := by
  apply Yields.forM
  intro span
  exact (yields_parse? _).map (fun _ _ => True.intro)

section Reading

variable [Host]

theorem yields_closeFound (missing : MarkupFault) (found : Option (OpenTag × Nat)) :
    Yields Fault.IsUnshown (fun _ => True) (closeFound missing found) := by
  cases found with
  | none => exact .markup missing
  | some e =>
      have checked : Yields Fault.IsUnshown (fun _ => True) e.1.check := by
        unfold OpenTag.check
        split
        · split
          · exact .markup _
          · exact True.intro
        · exact True.intro
      exact checked.map (fun _ _ => True.intro)

theorem yields_actOf (isOpen : List OpenTag) (position : Nat) (inside : List Char) :
    Yields Fault.IsUnshown (fun _ => True) (actOf isOpen position inside) := by
  unfold actOf
  split
  · split
    · exact yields_closeFound _ _
    · apply (yields_normalStyle _).bind
      intro name _
      exact yields_closeFound _ _
  · exact (yields_normalStyle _).map (fun _ _ => True.intro)

theorem yields_spansOf (count : Nat) (isOpen : List (Nat × OpenTag)) (pieces : List Piece) :
    Yields Fault.IsUnshown (fun _ => True) (spansOf count isOpen pieces) := by
  induction pieces generalizing count isOpen with
  | nil => exact True.intro
  | cons piece rest ih =>
      cases piece with
      | text chars => exact ih _ isOpen
      | tag position inside =>
          apply (yields_actOf _ position inside).bind
          intro act _
          cases act with
          | opens tag => exact ih count _
          | closes index =>
              apply (ih count _).bind
              intro spans _
              exact True.intro

/-- A text that cannot be read has a tag that cannot be followed, or one for a colour with a part that is no
    number. -/
theorem yields_readMarkup (s : List Char) : Yields Fault.IsUnshown (fun _ => True) (readMarkup s) := by
  unfold readMarkup
  split
  · exact (yields_spansOf 0 [] _).map (fun _ _ => True.intro)
  · exact True.intro

theorem yields_line (s : List Char) : Yields Fault.IsUnshown (fun _ => True) (line s) := by
  apply (yields_readMarkup s).bind
  intro text _
  apply (yields_draw text _).bind
  intro _ _
  exact True.intro

/-- A table that cannot be shown has a cell or a title that cannot. -/
theorem yields_chainTable (title : String) (files : List String) :
    Yields Fault.IsUnshown (fun _ => True) (chainTable title files) := by
  have columns : ∀ index, Yields Fault.IsUnshown (fun _ => True) (columnOf files index) := by
    intro index
    apply Yields.mapM
    intro file
    exact yields_readMarkup _
  have texts : Yields Fault.IsUnshown (fun _ => True) (textsOf files) := by
    apply (columns 0).bind
    intro names _
    apply (columns 1).bind
    intro bases _
    apply (columns 2).bind
    intro chains _
    exact True.intro
  have drawn : ∀ (text : Option StyledText) widths (rows : List (List StyledText)) (table : String),
      Yields Fault.IsUnshown (fun _ => True) (do
        text.forM (fun title => title.draw (titleCuts (tableWidth widths)))
        rows.forM (drawRow widths)
        pure table) := by
    intro text widths rows table
    have title : Yields Fault.IsUnshown (fun _ => True)
        (text.forM (fun title => title.draw (titleCuts (tableWidth widths)))) := by
      cases text with
      | none => exact True.intro
      | some text => exact yields_draw text _
    have body : Yields Fault.IsUnshown (fun _ => True) (rows.forM (drawRow widths)) := by
      apply Yields.forM
      intro cells
      apply Yields.forM
      intro e
      exact yields_draw _ _
    apply title.bind
    intro _ _
    apply body.bind
    intro _ _
    exact True.intro
  apply texts.bind
  intro texts _
  dsimp only
  split
  · exact drawn none _ texts _
  · have titled : Yields Fault.IsUnshown (fun _ => True) ((readMarkup title.toList).map some) :=
      (yields_readMarkup _).map (fun _ _ => True.intro)
    apply titled.bind
    intro text _
    exact drawn text _ texts _

end Reading

end Console

end LayeredFiles
