import LayeredFiles.Proofs.CommandLine.Telling
import LayeredFiles.Proofs.Generator.Refusal
/-
Module: LayeredFiles.Proofs.CommandLine.Messages
Layer: Proofs
Purpose: messages in a style and behind a status word. Whatever a message holds, no part of it is read as a
  tag: the tags of the text are the two of its style, at their own places, of which backslashes at the end
  of a message can turn the second into a text. So messages can always be told, the stages of a chain and
  the fault that ends a run among them.
Main exports: Console.tagsOf_messageText, Console.tagsOf_statusText, CommandLine.messages_told
-/

namespace LayeredFiles

namespace Console

/-! ### Tags around a message -/

/-- The tags behind a plain text are those of what stands behind it. -/
theorem tagsOf_piecesFrom_plain {plain : List Char} (isPlain : IsPlain plain) (s : List Char)
    {fuel : Nat} (position : Nat) (enough : plain.length ≤ fuel) :
    tagsOf (piecesFrom fuel position (plain ++ s)) =
      tagsOf (piecesFrom (fuel - plain.length) (position + plain.length) s) := by
  induction plain generalizing fuel position with
  | nil => rfl
  | cons c rest ih =>
      obtain ⟨notBackslash, notBracket⟩ := isPlain c List.mem_cons_self
      have noTag : leadingTag? (c :: (rest ++ s)) = none :=
        leadingTag?_plain _ notBackslash notBracket
      rw [List.length_cons] at enough ⊢
      obtain ⟨fuel, rfl⟩ : ∃ fuel', fuel = fuel' + 1 := ⟨fuel - 1, by omega⟩
      rw [List.cons_append, piecesFrom_of_none noTag, tagsOf_consChar,
        ih (fun d mem => isPlain d (List.mem_cons_of_mem _ mem)) (position + 1) (by omega),
        Nat.add_right_comm position 1, Nat.add_assoc, Nat.add_sub_add_right]

/-- An escaped text has no tags. -/
theorem tagsOf_piecesFrom_escapeTags (s : List Char) (fuel position : Nat) :
    tagsOf (piecesFrom fuel position (escapeTags s)) = [] := by
  obtain ⟨count, fuel₁, position₁, same, -⟩ := tagsOf_escapeTags isTail_nil s fuel position
  rw [List.append_nil, List.append_nil] at same
  exact same.trans (tagsOf_piecesFrom_noBracket (by simp) fuel₁ position₁)

/-- A tag of a style is read where it stands, if its backslashes are even in number. -/
theorem tagsOf_piecesFrom_tag {inside : List Char} (isInside : IsInside inside) {count : Nat}
    (isEven : ¬count % 2 = 1) (s : List Char) {fuel : Nat} (position : Nat) (enough : 0 < fuel) :
    tagsOf (piecesFrom fuel position (tagText count inside ++ s)) = .tag (position + count) inside ::
      tagsOf (piecesFrom (fuel - 1) (position + (tagText count inside).length) s) := by
  obtain ⟨fuel, rfl⟩ : ∃ fuel', fuel = fuel' + 1 := ⟨fuel - 1, by omega⟩
  rw [tagsOf_piecesFrom_tagText isInside, if_neg isEven, List.singleton_append, tagsOf_tag,
    length_tagText, Nat.add_sub_cancel]
  simp only [Nat.add_assoc]

/-- Behind an escaped text a closing tag is read at its own place, or is a text. -/
theorem tagsOf_escapeTags_closing {style : List Char} (isStyle : IsStyle style) (s : List Char)
    {fuel : Nat} (position : Nat)
    (enough : (escapeTags s ++ tagText 0 ('/' :: style)).length < fuel) :
    tagsOf (piecesFrom fuel position (escapeTags s ++ tagText 0 ('/' :: style))) = [] ∨
      tagsOf (piecesFrom fuel position (escapeTags s ++ tagText 0 ('/' :: style))) =
        [.tag (position + (escapeTags s).length) ('/' :: style)] := by
  have isTail : IsTail (tagText 0 ('/' :: style)) := isTail_bracket _
  obtain ⟨count, fuel₁, position₁, same, places⟩ := tagsOf_escapeTags isTail s fuel position
  obtain ⟨place, enough₁⟩ := places enough
  have joined : List.replicate count '\\' ++ tagText 0 ('/' :: style) =
      tagText count ('/' :: style) ++ [] := by simp [tagText]
  rw [same, joined]
  by_cases isOdd : count % 2 = 1
  · left
    obtain ⟨fuel₂, rfl⟩ : ∃ fuel₂, fuel₁ = fuel₂ + 1 := ⟨fuel₁ - 1, by omega⟩
    rw [tagsOf_piecesFrom_tagText isStyle.isInside_closing, if_pos isOdd, List.nil_append]
    exact tagsOf_piecesFrom_noBracket (by simp) _ _
  · right
    rw [tagsOf_piecesFrom_tag isStyle.isInside_closing isOdd _ _ (by omega), place,
      tagsOf_piecesFrom_noBracket (by simp)]

/-- The place where the closing tag of a text in a style stands. -/
def closingPlace (style : String) (s : List Char) : Nat := (tagText 0 style.toList ++ s).length

/-- The tags of a message in a style are those of the style, unless backslashes at the end of the message
    make the closing one a text. -/
theorem tagsOf_messageText {style : String} (isStyle : IsStyle style.toList) (message : List Char) :
    tagsOf (pieces (messageText style message)) = [.tag 0 style.toList] ∨
      tagsOf (pieces (messageText style message)) = [.tag 0 style.toList,
        .tag (closingPlace style (escapeTags message)) ('/' :: style.toList)] := by
  have whole : messageText style message =
      tagText 0 style.toList ++ (escapeTags message ++ tagText 0 ('/' :: style.toList)) := by
    simp [messageText, styled, tagText]
  rw [whole, pieces, tagsOf_piecesFrom_tag isStyle.isInside (by decide) _ _ (Nat.succ_pos _),
    Nat.succ_sub_one, Nat.zero_add (tagText 0 style.toList).length, closingPlace,
    @List.length_append _ _ (escapeTags message)]
  have enough : (escapeTags message ++ tagText 0 ('/' :: style.toList)).length <
      (tagText 0 style.toList ++ (escapeTags message ++ tagText 0 ('/' :: style.toList))).length := by
    rw [@List.length_append _ (tagText 0 style.toList), length_tagText]
    omega
  rcases tagsOf_escapeTags_closing isStyle message (tagText 0 style.toList).length enough
    with none | one
  · exact Or.inl (congrArg _ none)
  · exact Or.inr (congrArg _ one)

/-- The tags of a message behind a plain status word are the two around the word. -/
theorem tagsOf_statusText {status colour : String} (isStyle : IsStyle ("bold " ++ colour).toList)
    (isPlain : IsPlain status.toList) (message : List Char) :
    tagsOf (pieces (statusText status colour message)) = [.tag 0 ("bold " ++ colour).toList,
      .tag (closingPlace ("bold " ++ colour) (alignRight 12 status.toList))
        ('/' :: ("bold " ++ colour).toList)] := by
  generalize isBold : "bold " ++ colour = style at isStyle
  have whole : statusText status colour message =
      tagText 0 style.toList ++ (alignRight 12 status.toList ++
        (tagText 0 ('/' :: style.toList) ++ ([' ', ' '] ++ escapeTags message))) := by
    simp [statusText, isBold, styled, tagText]
  have plainWord : IsPlain (alignRight 12 status.toList) := by
    intro c mem
    rcases List.mem_append.1 mem with isBlank | isStatus
    · rw [(List.mem_replicate.1 isBlank).2]
      decide
    · exact isPlain c isStatus
  have plainBlanks : IsPlain [' ', ' '] := isPlain_of_all (by decide)
  have sizes : (tagText 0 style.toList).length = style.toList.length + 2 ∧
      (tagText 0 ('/' :: style.toList)).length = style.toList.length + 3 := by
    simp
  rw [whole, pieces, tagsOf_piecesFrom_tag isStyle.isInside (by decide) _ _ (Nat.succ_pos _),
    tagsOf_piecesFrom_plain plainWord _ _ (by simp only [List.length_append]; omega),
    tagsOf_piecesFrom_tag isStyle.isInside_closing (by decide) _ _
      (by simp only [List.length_append]; omega),
    tagsOf_piecesFrom_plain plainBlanks _ _
      (by simp only [List.length_append, List.length_cons, List.length_nil]; omega),
    tagsOf_piecesFrom_escapeTags, closingPlace]
  simp

end Console

/-- What is told about a stage is told, if the settings ask for it. -/
theorem Generator.announce_eq [Host] {σ : Type} (g : Generator σ) (number total : Nat) (template : Value)
    (path : String) (s : σ) :
    ∃ line, Console.statusLine "stage" (stageMessage number total template path) = .ok line ∧
      g.chains.announce number total template path s =
        if g.settings.verbose then g.site.tell line s else s := by
  have isPlain : Console.IsPlain "stage".toList := Console.isPlain_of_all (by decide)
  obtain ⟨line, isLine⟩ :=
    Console.exists_statusLine isPlain (stageMessage number total template path)
  refine ⟨line, isLine, ?_⟩
  simp only [chains, g.report_of_line isLine s]

namespace CommandLine

open Console

/-- Whatever a message holds, it is told: no part of the escaped message is read as a tag, neither alone nor
    between the tags of a style nor behind a status word, and the tags around it do not fail. So a chain can
    tell all its stages, and a fault that is reported ends the run with its line and the code one. -/
theorem messages_told [Host] {σ : Type} (g : Generator σ) (message : String) {status : String}
    (isStatus : status ∈ statusColours.map Prod.fst) :
    tagsOf (pieces (escapeTags message.toList)) = [] ∧
    (∀ style ∈ ["bold green", "bold red", "bold yellow"],
      tagsOf (pieces (messageText style message.toList)) = [.tag 0 style.toList] ∨
      tagsOf (pieces (messageText style message.toList)) = [.tag 0 style.toList,
        .tag (closingPlace style (escapeTags message.toList)) ('/' :: style.toList)]) ∧
    tagsOf (pieces (statusText status (statusColour status) message.toList)) =
      [.tag 0 ("bold " ++ statusColour status).toList,
        .tag (closingPlace ("bold " ++ statusColour status) (alignRight 12 status.toList))
          ('/' :: ("bold " ++ statusColour status).toList)] ∧
    (∃ line, successLine message = .ok line) ∧ (∃ line, errorLine message = .ok line) ∧
    (∃ line, warningLine message = .ok line) ∧ (∃ line, statusLine status message = .ok line) ∧
    (∀ number total template path s, ∃ line,
      statusLine "stage" (Generator.stageMessage number total template path) = .ok line ∧
      g.chains.announce number total template path s =
        if g.settings.verbose then g.site.tell line s else s) ∧
    ∀ (fault : Fault) (w : World), ∃ line, errorLine ("Error: " ++ fault.message) = .ok line ∧
      reportFault fault w = if fault.isReported then (.ok 1, w.tell line) else (.error fault, w) := by
  have isPlain := isPlain_of_mem_statusColours isStatus
  refine ⟨tagsOf_piecesFrom_escapeTags _ _ _, ?_, tagsOf_statusText (isStyle_statusColour status) isPlain _,
    exists_successLine message, exists_errorLine message, exists_warningLine message,
    exists_statusLine isPlain message, g.announce_eq, ?_⟩
  · intro style isOne
    exact tagsOf_messageText (isStyle_bold isOne) _
  · intro fault w
    obtain ⟨line, isLine⟩ := exists_errorLine ("Error: " ++ fault.message)
    refine ⟨line, isLine, ?_⟩
    simp only [reportFault, isLine]
    split <;> rfl

/-- A message that would close a style and open one, with backslashes in front of what follows it. -/
theorem messages_told_of_tags :
    "error" ∈ statusColours.map Prod.fst ∧
      tagsOf (pieces (escapeTags "[/bold green][b]\\\\\\".toList)) = [] ∧
      (∃ line, successLine "[/bold green][b]\\\\\\" = .ok line) ∧
      ∃ line, statusLine "error" "[/bold green][b]\\\\\\" = .ok line := by
  have isStatus : "error" ∈ statusColours.map Prod.fst := by decide
  obtain ⟨noTags, -, -, success, -, -, told, -⟩ :=
    messages_told (Generator.standard (.default (.ofString "/home")) World.site)
      "[/bold green][b]\\\\\\" isStatus
  exact ⟨isStatus, noTags, success, told⟩

end CommandLine

end LayeredFiles
