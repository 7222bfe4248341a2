import LayeredFiles.Template.Render
import LayeredFiles.Proofs.Chain.Run
import Mathlib.Data.List.Infix
/-
Module: LayeredFiles.Proofs.Template.Literal
Layer: Proofs
Purpose: templates that put literal text around their content. The text in front of the tag and the text
  behind it hold no tags of their own, so the reader finds them whole; what the tag prints is the content
  as it is, since what is loaded from a file makes nothing safe. The content itself is never read.
Main exports: IsLiteral, aroundContent, tokens_aroundContent, read_aroundContent, renderWith_aroundContent
-/

namespace LayeredFiles.Template

open Text

/-! ### Literal text -/

/-- A text without tags, whose lines end in line feeds. -/
structure IsLiteral (s : List Char) : Prop where
  noPrint : ¬['{', '{'] <:+: s
  noBlock : ¬['{', '%'] <:+: s
  noComment : ¬['{', '#'] <:+: s
  noReturn : '\r' ∉ s

instance : DecidablePred IsLiteral := fun s =>
  decidable_of_iff (¬['{', '{'] <:+: s ∧ ¬['{', '%'] <:+: s ∧ ¬['{', '#'] <:+: s ∧ '\r' ∉ s)
    ⟨fun ⟨noPrint, noBlock, noComment, noReturn⟩ => ⟨noPrint, noBlock, noComment, noReturn⟩,
      fun literal => ⟨literal.noPrint, literal.noBlock, literal.noComment, literal.noReturn⟩⟩

namespace IsLiteral

theorem tail {c : Char} {s : List Char} (literal : IsLiteral (c :: s)) : IsLiteral s where
  noPrint found := literal.noPrint (List.infix_cons found)
  noBlock found := literal.noBlock (List.infix_cons found)
  noComment found := literal.noComment (List.infix_cons found)
  noReturn mem := literal.noReturn (List.mem_cons_of_mem c mem)

/-- Behind a brace stands no character that would make a tag of it. -/
theorem second_of_brace {d : Char} {s : List Char} (literal : IsLiteral ('{' :: d :: s)) :
    d ≠ '{' ∧ d ≠ '%' ∧ d ≠ '#' := by
  refine ⟨?_, ?_, ?_⟩
  · rintro rfl
    exact literal.noPrint ⟨[], s, rfl⟩
  · rintro rfl
    exact literal.noBlock ⟨[], s, rfl⟩
  · rintro rfl
    exact literal.noComment ⟨[], s, rfl⟩

end IsLiteral

theorem takeTag?_of_ne {c : Char} (s : List Char) (noBrace : c ≠ '{') : takeTag? (c :: s) = none := by
  unfold takeTag?
  split <;> first | rfl | (rename_i same; cases same; exact absurd rfl noBrace)

theorem takeTag?_of_second {d : Char} (s : List Char) (second : d ≠ '{' ∧ d ≠ '%' ∧ d ≠ '#') :
    takeTag? ('{' :: d :: s) = none := by
  obtain ⟨noPrint, noBlock, noComment⟩ := second
  unfold takeTag?
  split
  · rename_i same
    cases same
    exact absurd rfl noPrint
  · rename_i same
    cases same
    exact absurd rfl noComment
  · rename_i same
    cases same
    exact absurd rfl noBlock
  · rfl

/-- The text in front of the first tag goes on to the end of a literal text at least, unless its last brace
    makes a tag together with what follows. -/
theorem textBefore_takeTag? {s : List Char} (literal : IsLiteral s) (rest : List Char)
    (apart : s.getLast? ≠ some '{' ∨ rest = []) :
    textBefore takeTag? (s ++ rest) =
      (s ++ (textBefore takeTag? rest).1, (textBefore takeTag? rest).2) := by
  induction s with
  | nil => rfl
  | cons c s ih =>
      have noTag : takeTag? (c :: (s ++ rest)) = none := by
        by_cases brace : c = '{'
        · subst brace
          cases s with
          | nil =>
              rcases apart with last | rfl
              · exact absurd rfl last
              · rfl
          | cons d s => exact takeTag?_of_second _ literal.second_of_brace
        · exact takeTag?_of_ne _ brace
      have apartTail : s.getLast? ≠ some '{' ∨ rest = [] := by
        rcases apart with last | none
        · cases s with
          | nil => exact Or.inl nofun
          | cons d s => exact Or.inl (by rwa [List.getLast?_cons_cons] at last)
        · exact Or.inr none
      rw [List.cons_append, textBefore, noTag, ih literal.tail apartTail]
      rfl

/-! ### Tokens -/

/-- The tag that prints the content. -/
def contentTag : List Char := "\x7b\x7b content \x7d\x7d".toList

/-- The text of a template with some text in front of the content and some behind it. -/
def aroundContent (front behind : List Char) : List Char := front ++ contentTag ++ behind

/-- A step that finds tokens and leaves less is followed by the tokens of the rest. -/
theorem tokensFrom_of_step {p : Progress} {s rest : List Char} {found : List TokenKind} {mode : Mode}
    (step : p.step s = .more found mode rest) (shorter : rest.length < s.length) :
    tokensFrom p s = found.map (⟨p.line, ·⟩ : TokenKind → Token) ++
      tokensFrom (p.pass (s.take (s.length - rest.length)) mode) rest := by
  have nonempty : s ≠ [] := by
    rintro rfl
    exact absurd shorter (Nat.not_lt_zero _)
  rw [tokensFrom, if_neg nonempty, step]
  simp only [if_pos shorter]

theorem unifyNewlines_aroundContent {front behind : List Char} (literal : IsLiteral front)
    (literal' : IsLiteral behind) :
    unifyNewlines (aroundContent front behind) = aroundContent front behind := by
  refine unifyNewlines_eq_self (fun mem => ?_)
  rcases List.mem_append.1 mem with mem | mem
  · rcases List.mem_append.1 mem with mem | mem
    · exact literal.noReturn mem
    · exact absurd mem (by decide)
  · exact literal'.noReturn mem

/-- The text in front and the opening of the tag are passed in one step. -/
theorem textStep_aroundContent {front : List Char} (literal : IsLiteral front)
    (apart : front.getLast? ≠ some '{') (behind : List Char) (startsLine : Bool) :
    textStep startsLine (aroundContent front behind) =
      .more (dataToken front ++ [.printBegin]) (.tag false [])
        (" content \x7d\x7d".toList ++ behind) := by
  have found := textBefore_takeTag? literal (contentTag ++ behind) (Or.inl apart)
  have tag : textBefore takeTag? (contentTag ++ behind) =
      ([], some (.print, .none, " content \x7d\x7d".toList ++ behind)) := rfl
  rw [tag, List.append_nil] at found
  rw [textStep, aroundContent, List.append_assoc, found]
  rfl

/-- Behind the tag there is nothing but text. -/
theorem tokensFrom_literal {p : Progress} (isText : p.mode = .text) {s : List Char}
    (literal : IsLiteral s) : tokensFrom p s = (dataToken s).map (⟨p.line, ·⟩ : TokenKind → Token) := by
  by_cases empty : s = []
  · rw [empty, tokensFrom, if_pos rfl]
    rfl
  · have found := textBefore_takeTag? literal [] (Or.inr rfl)
    rw [List.append_nil] at found
    have step : p.step s = .more (dataToken s) .text [] := by
      rw [Progress.step, isText]
      simp only [textStep, found, textBefore, List.append_nil]
    rw [tokensFrom_of_step step (List.length_pos_iff.2 empty), tokensFrom, if_pos rfl,
      List.append_nil]

/-- Inside the tag a blank, the name, another blank and the end are passed one after another. -/
theorem tagStep_blank (offset : Nat) (afterDot : Bool) (behind : List Char) :
    tagStep offset afterDot false [] (" content \x7d\x7d".toList ++ behind) =
      .more [] (.tag false []) ("content \x7d\x7d".toList ++ behind) := rfl

theorem tagStep_name (offset : Nat) (afterDot : Bool) (behind : List Char) :
    tagStep offset afterDot false [] ("content \x7d\x7d".toList ++ behind) =
      .more [.name "content"] (.tag false []) (" \x7d\x7d".toList ++ behind) := by
  cases afterDot with
  | false => rfl
  | true => rfl

theorem tagStep_blank' (offset : Nat) (afterDot : Bool) (behind : List Char) :
    tagStep offset afterDot false [] (" \x7d\x7d".toList ++ behind) =
      .more [] (.tag false []) ("\x7d\x7d".toList ++ behind) := rfl

theorem tagStep_end (offset : Nat) (afterDot : Bool) (behind : List Char) :
    tagStep offset afterDot false [] ("\x7d\x7d".toList ++ behind) =
      .more [.printEnd] .text behind := rfl

/-- A step inside the tag. -/
theorem tokensFrom_of_tagStep {p : Progress} (isTag : p.mode = .tag false []) {s rest : List Char}
    {found : List TokenKind} {mode : Mode}
    (step : tagStep p.offset (p.last = some '.') false [] s = .more found mode rest)
    (shorter : rest.length < s.length) :
    ∃ next, next.mode = mode ∧
      tokensFrom p s = found.map (⟨p.line, ·⟩ : TokenKind → Token) ++ tokensFrom next rest := by
  have step' : p.step s = .more found mode rest := by
    rw [Progress.step, isTag]
    exact step
  exact ⟨_, rfl, tokensFrom_of_step step' shorter⟩

/-- The tokens inside the tag: the name of the content and the end. -/
theorem tokensFrom_tag {p : Progress} (isTag : p.mode = .tag false []) (behind : List Char) :
    ∃ line line' next, next.mode = .text ∧
      tokensFrom p (" content \x7d\x7d".toList ++ behind) =
        ⟨line, .name "content"⟩ :: ⟨line', .printEnd⟩ :: tokensFrom next behind := by
  obtain ⟨p₁, isTag₁, passed⟩ := tokensFrom_of_tagStep isTag (tagStep_blank _ _ behind)
    (by simp)
  obtain ⟨p₂, isTag₂, passed₁⟩ := tokensFrom_of_tagStep isTag₁ (tagStep_name _ _ behind)
    (by simp)
  obtain ⟨p₃, isTag₃, passed₂⟩ := tokensFrom_of_tagStep isTag₂ (tagStep_blank' _ _ behind)
    (by simp)
  obtain ⟨p₄, isText, passed₃⟩ := tokensFrom_of_tagStep isTag₃ (tagStep_end _ _ behind)
    (by rw [List.length_append]; exact Nat.lt_add_of_pos_left (by simp))
  refine ⟨p₁.line, p₃.line, p₄, isText, ?_⟩
  rw [passed, passed₁, passed₂, passed₃]
  rfl

/-- The tokens of the whole: text, the tag, and text again. -/
theorem tokens_aroundContent {front behind : List Char} (literal : IsLiteral front)
    (apart : front.getLast? ≠ some '{') (literal' : IsLiteral behind) :
    ∃ l₁ l₂ l₃ l₄, tokens (aroundContent front behind) =
      (dataToken front).map (⟨l₁, ·⟩ : TokenKind → Token) ++
        [⟨l₁, .printBegin⟩, ⟨l₂, .name "content"⟩, ⟨l₃, .printEnd⟩] ++
        (dataToken behind).map (⟨l₄, ·⟩ : TokenKind → Token) := by
  have step : (⟨.text, 0, 1, none⟩ : Progress).step (aroundContent front behind) =
      .more (dataToken front ++ [.printBegin]) (.tag false [])
        (" content \x7d\x7d".toList ++ behind) := by
    simp only [Progress.step]
    exact textStep_aroundContent literal apart behind _
  have shorter : (" content \x7d\x7d".toList ++ behind).length <
      (aroundContent front behind).length := by
    have tag : contentTag = ['{', '{'] ++ " content \x7d\x7d".toList := rfl
    rw [aroundContent, tag]
    generalize " content \x7d\x7d".toList = inside
    simp only [List.length_append, List.length_cons, List.length_nil]
    omega
  obtain ⟨p, isTag, passed⟩ : ∃ p : Progress, p.mode = .tag false [] ∧
      tokensFrom ⟨.text, 0, 1, none⟩ (aroundContent front behind) =
        (dataToken front ++ [TokenKind.printBegin]).map (⟨1, ·⟩ : TokenKind → Token) ++
          tokensFrom p (" content \x7d\x7d".toList ++ behind) :=
    ⟨_, rfl, tokensFrom_of_step step shorter⟩
  obtain ⟨line, line', next, isText, inside⟩ := tokensFrom_tag isTag behind
  refine ⟨1, line, line', next.line, ?_⟩
  rw [tokens, unifyNewlines_aroundContent literal literal', passed, inside,
    tokensFrom_literal isText literal']
  simp

/-! ### The template -/

/-- The statement that prints some text, if there is any. -/
def dataStmt (text : List Char) : List Stmt := if text = [] then [] else [.data text]

/-- The statements of a template around its content. -/
def aroundBody (front behind : List Char) : List Stmt :=
  dataStmt front ++ .print (.name "content") :: dataStmt behind

/-- Around the content a template reads as what it is. -/
theorem readTemplate_aroundContent {front behind : List Char} (literal : IsLiteral front)
    (apart : front.getLast? ≠ some '{') (literal' : IsLiteral behind) :
    readTemplate (aroundContent front behind) = .ok (aroundBody front behind) := by
  obtain ⟨l₁, l₂, l₃, l₄, found⟩ := tokens_aroundContent literal apart literal'
  rw [readTemplate, found]
  by_cases noFront : front = []
  · by_cases noneBehind : behind = []
    · rw [noFront, noneBehind]
      rfl
    · rw [noFront, aroundBody, dataToken, dataToken, dataStmt, dataStmt, if_neg noneBehind,
        if_neg noneBehind]
      rfl
  · by_cases noneBehind : behind = []
    · rw [noneBehind, aroundBody, dataToken, dataToken, dataStmt, dataStmt, if_neg noFront,
        if_neg noFront]
      rfl
    · rw [aroundBody, dataToken, dataToken, dataStmt, dataStmt, if_neg noFront, if_neg noFront,
        if_neg noneBehind, if_neg noneBehind]
      rfl

/-- Nothing in such a template is refused. -/
theorem read_aroundContent {front behind : List Char} (literal : IsLiteral front)
    (apart : front.getLast? ≠ some '{') (literal' : IsLiteral behind) :
    Parsed.read (aroundContent front behind) false = .ok ⟨aroundBody front behind, false⟩ := by
  have checked : checkBody ⟨[], [], false, true⟩ false (aroundBody front behind) = .ok () := by
    unfold aroundBody dataStmt
    split
    · split
      · rfl
      · rfl
    · split
      · rfl
      · rfl
  rw [Parsed.read, readTemplate_aroundContent literal apart literal']
  simp only [checked]

theorem run_data (env : Env) (text : List Char) : run env (.data text) = .ok (env, text) := by
  rw [run]

/-- The tag prints the content as it is. -/
theorem run_print_content {env : Env} {content : String} (plain : env.escapes = false)
    (isOpen : env.isClosed = false) (isContent : env.value "content" = .str content) :
    run env (.print (.name "content")) = .ok (env, content.toList) := by
  have value : eval env (.name "content") = .ok (.str content) := by
    rw [eval, isOpen, isContent]
    rfl
  have print : printed false (.str content) = .ok content.toList := rfl
  rw [run, value, plain]
  simp only [bind, Except.bind, print]
  rfl

theorem runBody_cons {env env' : Env} {stmt : Stmt} {text : List Char}
    (ran : run env stmt = .ok (env', text)) (rest : List Stmt) :
    runBody env (stmt :: rest) =
      (runBody env' rest).map (fun done => (done.1, text ++ done.2)) := by
  rw [runBody, ran]
  simp only [bind, Except.bind]
  cases runBody env' rest with
  | error fault => rfl
  | ok done => rfl

theorem runBody_dataStmt_append (env : Env) (text : List Char) (rest : List Stmt) :
    runBody env (dataStmt text ++ rest) =
      (runBody env rest).map (fun done => (done.1, text ++ done.2)) := by
  by_cases empty : text = []
  · rw [empty, dataStmt, if_pos rfl, List.nil_append]
    cases runBody env rest with
    | error fault => rfl
    | ok done => rfl
  · rw [dataStmt, if_neg empty, List.singleton_append]
    exact runBody_cons (run_data env text) rest

/-- What is printed is the text in front, the content as it is, and the text behind. -/
theorem runBody_aroundBody (front behind : List Char) {env : Env} {content : String}
    (plain : env.escapes = false) (isOpen : env.isClosed = false)
    (isContent : env.value "content" = .str content) :
    runBody env (aroundBody front behind) = .ok (env, front ++ content.toList ++ behind) := by
  have last : runBody env (dataStmt behind) = .ok (env, behind) := by
    have whole := runBody_dataStmt_append env behind []
    rw [List.append_nil] at whole
    rw [whole, runBody]
    simp only [Except.map, List.append_nil]
  rw [aroundBody, runBody_dataStmt_append, runBody_cons (run_print_content plain isOpen isContent),
    last]
  simp only [Except.map, List.append_assoc]

/-- In a context a template around the content gives the content between its texts. -/
theorem renderWith_aroundContent (front behind : List Char) {context : Entries} {content : String}
    (names : Parsed.checkNames context = .ok ())
    (isContent : context.get? contentKey = some (.str content)) :
    (⟨aroundBody front behind, false⟩ : Parsed).renderWith (.dict context) =
      .ok (front ++ content.toList ++ behind) := by
  have value : (⟨[], context, false, false⟩ : Env).value "content" = .str content := by
    rw [Env.value]
    simp only [List.lookup_nil, Entries.find?]
    rw [show (Value.str "content") = contentKey from rfl, isContent]
    rfl
  have ran : runBody ⟨[], context, false, false⟩ (aroundBody front behind) =
      .ok (⟨[], context, false, false⟩, front ++ content.toList ++ behind) :=
    runBody_aroundBody front behind rfl rfl value
  simp only [Parsed.renderWith, Parsed.contextOf, names, Except.map, bind, Except.bind, Parsed.render,
    ran]

end LayeredFiles.Template
