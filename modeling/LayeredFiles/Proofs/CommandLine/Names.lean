import LayeredFiles.Proofs.CommandLine.Ending
import LayeredFiles.Proofs.Console.Rows
/-
Module: LayeredFiles.Proofs.CommandLine.Names
Layer: Proofs
Purpose: names, paths and errors as a command line tells them. A table of names shows them cell by cell, and a
  batch tells what became of its files line by line; a name is shown as it is just if the text that it stands
  in is literal, for neither of the two escapes what it shows.
Main exports: CommandLine.line_resultLine_iff, CommandLine.names_told
-/

namespace LayeredFiles

theorem ChainResult.isClear_word (r : ChainResult) : Console.IsClear r.word.toList := by
  unfold word
  split
  · exact Console.isClear_of_all (by decide)
  · exact Console.isClear_of_all (by decide)

namespace CommandLine

/-! ### Lines about results -/

/-- The characters of the line about a result if its text is shown as it is. -/
def resultChars (r : ChainResult) : List Char := "  ".toList ++ r.word.toList ++ ' ' :: r.said.toList

/-- The line about a result if its text is shown as it is. -/
def shownResult (r : ChainResult) : String := "  " ++ r.word ++ " " ++ r.said ++ "\n"

section Lines

variable [Host]

/-- The line about a result fits into the console, and its text has no tabs, nothing that a console does not
    show and no codes of pictures. -/
structure FillsLine (r : ChainResult) : Prop where
  clear : Console.IsClear r.said.toList
  noCode : Console.HoldsNoCode r.said.toList
  fits : Console.FitsConsole (resultChars r)

/-- The line about a result shows its text as it is just if the text is literal. -/
theorem line_resultLine_iff {r : ChainResult} (fills : FillsLine r) :
    Console.line (resultLine r).toList = .ok (shownResult r) ↔ Console.IsLiteral r.said.toList := by
  have shown : shownResult r = String.ofList (resultChars r ++ ['\n']) := by
    rw [← String.toList_inj, shownResult, resultChars]
    simp only [String.toList_append, String.toList_ofList, List.append_assoc]
    rfl
  have noTag : Console.leadingTag? (' ' :: r.said.toList) = none :=
    Console.leadingTag?_plain _ (by decide) (by decide)
  have blank : Console.IsLiteral (' ' :: r.said.toList) ↔ Console.IsLiteral r.said.toList := by
    rw [Console.isLiteral_cons_iff noTag]
    exact and_iff_right (fun escapes => by cases escapes.1)
  have clearBlank : Console.IsClear (' ' :: r.said.toList) := by
    apply Console.IsClear.append (s := [' ']) (Console.isClear_of_all (by decide)) fills.clear
  have noColon : ':' ∉ "  ".toList ++ r.style.toList ++ r.word.toList := by
    unfold ChainResult.style ChainResult.word
    split
    · decide
    · decide
  have isFront : Console.IsPlain "  ".toList := Console.isPlain_of_all (by decide)
  have clearFront : Console.IsClear ("  ".toList ++ r.word.toList) :=
    (Console.isClear_of_all (by decide)).append r.isClear_word
  rw [toList_resultLine, shown, ← blank]
  exact Console.line_word_iff r.isStyle_style isFront r.isPlain_word clearFront clearBlank noColon
    (fills.noCode.cons (by decide)) fills.fits

/-! ### Runs -/

/-- Lines that are shown are told one after another. -/
theorem sayLines_eq {α : Type} {items : List α} {text shown : α → String}
    (shows : ∀ a ∈ items, Console.line (text a).toList = .ok (shown a)) (w : World) :
    sayLines (items.map text) w = (.ok (), (items.map shown).foldl (fun w line => w.tell line) w) := by
  induction items generalizing w with
  | nil => rfl
  | cons a rest ih =>
      have first := shows a List.mem_cons_self
      have others := ih (fun b mem => shows b (List.mem_cons_of_mem _ mem)) (w.tell (shown a))
      simp only [List.map_cons, sayLines, Work.andThen, say, first, List.foldl_cons, others]

end Lines

theorem titled_default : Console.defaultTitle ≠ "" := by decide

theorem isLiteral_default : Console.IsLiteral Console.defaultTitle.toList :=
  Console.isLiteral_of_noBracket (by decide)

theorem holdsNoCode_default [Host] : Console.HoldsNoCode Console.defaultTitle.toList :=
  Console.holdsNoCode_of_noColon (by decide)

/-- The text of a table of names. -/
def tableOf (files : List String) : String :=
  String.ofList ((Console.tableText Console.defaultTitle.toList (files.map Console.cellsOf) ++
    [[]]).flatMap (· ++ ['\n']))

section Runs

variable [Host]

theorem executeBy_parse {files : List String} (fill : Console.FillTable files) (drive : BatchDriver)
    (home : NormalPath) (env : Environment) (c : Choices) (w : World) :
    executeBy drive home env ⟨.parse files, c⟩ w = (.ok 0, w.tell (tableOf files)) := by
  have isTable := Console.chainTable_eq titled_default isLiteral_default holdsNoCode_default fill
  simp only [executeBy, Work.andThen, say, isTable]
  rfl

/-- How a batch is told whose results are literal. -/
theorem tellResults_eq {results : List ChainResult}
    (literal : ∀ r ∈ results, FillsLine r ∧ Console.IsLiteral r.said.toList) (w : World) :
    ∃ line, tellResults results w = (.ok (if results.all ChainResult.isMade then 0 else 1),
      ((results.map shownResult).foldl (fun w line => w.tell line) w).tell line) := by
  have shows : ∀ r ∈ results, Console.line (resultLine r).toList = .ok (shownResult r) := fun r mem =>
    (line_resultLine_iff (literal r mem).1).2 (literal r mem).2
  obtain ⟨line, isVerdict⟩ := verdict_eq results
    ((results.map shownResult).foldl (fun w line => w.tell line) w)
  refine ⟨line, ?_⟩
  rw [← isVerdict, tellResults]
  simp only [Work.andThen, sayLines_eq shows]

theorem runBy_of_executeBy {drive : BatchDriver} {home : NormalPath} {env : Environment}
    {texts : List String} {request : Request} {w w' : World} {code : Nat}
    (asks : Request.ofTexts texts = .ok request)
    (ended : executeBy drive home env request w = (.ok code, w')) :
    runBy drive home env texts w = (.ok (.done code), w') := by
  simp only [runBy, asks, ended]
  rfl

end Runs

/-- What a command line tells of names, whatever runs the jobs of batches. A table of printable names with
    literal cells, no wider than the console, has a line for each name, in their order, that shows the name,
    its base and its chain. A batch whose results are literal, in lines that fit, has a line for each file, in
    their order, that shows the file and the path that was made or the error. A cell and the text about a
    result are shown as they are just if they are literal. None of them holds the code of a picture. -/
theorem names_told [Host] {drive : BatchDriver} (answers : drive.Answers) (home : NormalPath)
    (env : Environment) (texts : List String) (w : World) :
    (∀ (files : List String) (c : Choices), Request.ofTexts texts = .ok ⟨.parse files, c⟩ →
      Console.FillTable files →
      runBy drive home env texts w = (.ok (.done 0), w.tell (tableOf files))) ∧
    (∀ (files : List String) (c : Choices) (settings : Settings) (context : Entries),
      Request.ofTexts texts = .ok ⟨.process files, c⟩ → settingsFor home env c = .ok settings →
      contextFor w.disk c = .ok context →
      ∃ results w', drive (Generator.standard settings World.site).chains (.int settings.batch.maxParallel)
          (timeoutValue settings.batch) (jobsFor context files) w = (.ok results, w') ∧
        results.map ChainResult.file = files.map .str ∧
        ((∀ r ∈ results, FillsLine r ∧ Console.IsLiteral r.said.toList) →
          ∃ line, runBy drive home env texts w =
            (.ok (.done (if results.all ChainResult.isMade then 0 else 1)),
              ((results.map shownResult).foldl (fun w line => w.tell line) w').tell line))) ∧
    (∀ cell : List Char, Console.HoldsNoCode cell →
      (Console.plainText cell = .ok cell ↔ Console.IsLiteral cell)) ∧
    ∀ r : ChainResult, FillsLine r →
      (Console.line (resultLine r).toList = .ok (shownResult r) ↔ Console.IsLiteral r.said.toList) := by
  refine ⟨?_, ?_, fun _ => Console.plainText_eq_iff, fun _ => line_resultLine_iff⟩
  · intro files c asks fill
    exact runBy_of_executeBy asks (executeBy_parse fill drive home env c w)
  · intro files c settings context asks isSet isContext
    obtain ⟨results, w', driven, isFiles⟩ := exists_results answers isSet context files w
    refine ⟨results, w', driven, isFiles, fun literal => ?_⟩
    obtain ⟨line, told⟩ := tellResults_eq literal w'
    refine ⟨line, runBy_of_executeBy asks ?_⟩
    rw [executeBy_process_eq isSet isContext driven, told]

theorem printableCell (name : String) (printable : name.toList.all Text.isPrintable = true) :
    ∀ file ∈ [name], Console.IsPrintable file.toList := by
  intro file mem
  obtain rfl := List.mem_singleton.1 mem
  exact Console.isPrintable_of_all printable

/-- Brackets that make no tag are shown in a table and in a line. -/
theorem names_told_of_brackets :
    oneByOne.Answers ∧
      run (.ofString "/home") [] ["parse", "a[0]._t"] emptyWorld =
        (.ok (.done 0), emptyWorld.tell (tableOf ["a[0]._t"])) ∧
      ∃ line, run (.ofString "/home") [] ["process", "a[0]"] emptyWorld =
        (.ok (.done 0), (emptyWorld.tell "  OK a[0] -> a[0] (0.00s)\n").tell line) := by
  refine ⟨oneByOne_answers, ?_, ?_⟩
  · obtain ⟨table, -⟩ := names_told oneByOne_answers (.ofString "/home") [] ["parse", "a[0]._t"] emptyWorld
    have asks : Request.ofTexts ["parse", "a[0]._t"] = .ok ⟨.parse ["a[0]._t"], .none⟩ := by rfl
    refine table _ _ asks ⟨printableCell _ (by decide), ?_, ?_, by decide +kernel⟩
    · intro file mem
      obtain rfl := List.mem_singleton.1 mem
      decide
    · intro file mem cell isCell
      obtain rfl := List.mem_singleton.1 mem
      have noColons : (Console.cellsOf "a[0]._t").all (fun cell => !cell.contains ':') = true := by decide
      exact Console.holdsNoCode_of_noColon (by simpa using List.all_eq_true.1 noColons cell isCell)
  · obtain ⟨-, batch, -⟩ := names_told oneByOne_answers (.ofString "/home") [] ["process", "a[0]"] emptyWorld
    have asks : Request.ofTexts ["process", "a[0]"] = .ok ⟨.process ["a[0]"], .none⟩ := by rfl
    have noChain : (ChainName.parse "a[0]").hasChain = false := by decide
    have made : runJobs (Generator.standard (.default (.ofString "/home")) World.site).chains
        (jobsFor [] ["a[0]"]) emptyWorld =
          ([⟨.str "a[0]", .made "a[0]", .zero false⟩], emptyWorld) := by
      simp [runJobs, runJob, jobsFor, process, pathOf, processName, noChain, resultOf]
    obtain ⟨results, w', driven, -, told⟩ := batch _ _ _ _ asks (settingsFor_none _) (contextFor_none _)
    rw [oneByOne_eq (settingsFor_none (.ofString "/home")), made] at driven
    cases driven
    have shown : shownResult ⟨.str "a[0]", .made "a[0]", .zero false⟩ =
        "  OK a[0] -> a[0] (0.00s)\n" := by decide +kernel
    obtain ⟨line, isRun⟩ := told (by
      intro r mem
      obtain rfl := List.mem_singleton.1 mem
      refine ⟨⟨Console.isClear_of_all (by decide +kernel),
        Console.holdsNoCode_of_noColon (by decide +kernel), ?_⟩, by decide +kernel⟩
      intro line isLine
      have oneLine : Text.splitOn '\n' (resultChars ⟨.str "a[0]", .made "a[0]", .zero false⟩) =
          ["  OK a[0] -> a[0] (0.00s)".toList] := by decide +kernel
      rw [oneLine, List.mem_singleton] at isLine
      rw [isLine]
      exact ⟨by decide, by decide⟩)
    refine ⟨line, ?_⟩
    rw [List.map_singleton, List.foldl_cons, List.foldl_nil, shown] at isRun
    exact isRun

/-- A run breaks off at a name with a tag that closes nothing, a table leaves out the tag of a name, and so
    does the line about a file. -/
theorem names_not_told :
    (¬∀ (texts files : List String) (c : Choices) (w : World),
      Request.ofTexts texts = .ok ⟨.parse files, c⟩ → (∀ file ∈ files, Console.IsPrintable file.toList) →
      ∃ ending, (run (.ofString "/home") [] texts w).1 = .ok ending) ∧
    (¬∀ (texts files : List String) (c : Choices) (w : World) (text : String),
      Request.ofTexts texts = .ok ⟨.parse files, c⟩ → (∀ file ∈ files, Console.IsPrintable file.toList) →
      run (.ofString "/home") [] texts w = (.ok (.done 0), w.tell text) →
      ∀ file ∈ files, file.toList <:+: text.toList) ∧
    ¬∀ r : ChainResult, Console.IsPrintable r.said.toList → FillsLine r →
      Console.line (resultLine r).toList = .ok (shownResult r) := by
  refine ⟨?_, ?_, ?_⟩
  · intro ends
    have asks : Request.ofTexts ["parse", "a[/b]"] = .ok ⟨.parse ["a[/b]"], .none⟩ := by rfl
    have broken : (run (.ofString "/home") [] ["parse", "a[/b]"] emptyWorld).1.toOption = none := by
      decide +kernel
    obtain ⟨ending, ended⟩ := ends _ _ _ emptyWorld asks (printableCell _ (by decide))
    rw [ended] at broken
    cases broken
  · intro kept
    have asks : Request.ofTexts ["parse", "a[b]"] = .ok ⟨.parse ["a[b]"], .none⟩ := by rfl
    have texts : (Console.textsOf ["a[b]"]).toOption =
        some [[⟨['a'], [⟨1, 1, "bold".toList⟩]⟩, ⟨['a'], [⟨1, 1, "bold".toList⟩]⟩, ⟨['-'], []⟩]] := by
      decide +kernel
    have isDrawable : Console.IsDrawable "bold".toList := Console.isDrawable_of_isSome (by decide +kernel)
    have table := Console.chainTable_of_texts titled_default isLiteral_default holdsNoCode_default
      (eq_ok_of_toOption texts) (by simpa using isDrawable)
    -- The text is looked at as a list of characters: to decode it again takes the kernel long.
    generalize isLines : (Console.tableLines _ (some Console.defaultTitle.toList) _ ++ [[]]).flatMap
      (· ++ ['\n']) = chars at table
    have noBracket : '[' ∉ chars := by
      rw [← isLines]
      decide +kernel
    have ended : executeBy oneByOne (.ofString "/home") [] ⟨.parse ["a[b]"], .none⟩ emptyWorld =
        (.ok 0, emptyWorld.tell (String.ofList chars)) := by
      simp only [executeBy, Work.andThen, say, table]
    have inside := kept _ _ _ _ _ asks (printableCell _ (by decide)) (runBy_of_executeBy asks ended) "a[b]"
      (List.mem_singleton_self _)
    have bracket : '[' ∈ "a[b]".toList := by decide
    rw [@String.toList_ofList chars] at inside
    exact noBracket (inside.subset bracket)
  · intro shown
    have printable : Console.IsPrintable
        (ChainResult.said ⟨.str "a[b]", .made "a[b]", .zero false⟩).toList :=
      Console.isPrintable_of_all (by decide +kernel)
    have oneLine : Text.splitOn '\n' (resultChars ⟨.str "a[b]", .made "a[b]", .zero false⟩) =
        ["  OK a[b] -> a[b] (0.00s)".toList] := by decide +kernel
    have fills : FillsLine ⟨.str "a[b]", .made "a[b]", .zero false⟩ := by
      refine ⟨printable.isClear, Console.holdsNoCode_of_noColon (by decide +kernel), fun line isLine => ?_⟩
      rw [oneLine, List.mem_singleton] at isLine
      rw [isLine]
      exact ⟨by decide, by decide⟩
    have literal := (line_resultLine_iff fills).1 (shown _ printable fills)
    revert literal
    decide +kernel

end CommandLine

end LayeredFiles
