import LayeredFiles.Proofs.CommandLine.Settings
import LayeredFiles.Proofs.CommandLine.Telling
import LayeredFiles.Proofs.Context
import LayeredFiles.Proofs.Generator.Refusal
/-
Module: LayeredFiles.Proofs.CommandLine.Ending
Layer: Proofs
Purpose: how command lines end, whatever runs the jobs of their batches. A run ends with a code unless a fault
  comes up that is not reported; and there are three ways to one: a name in a table or a line is read as a tag
  that cannot be followed, a context is nested too deep or holds a value that cannot be made, or a destination
  is no text. A batch whose lines can be shown ends with the code that its results ask for.
Main exports: CommandLine.Unreported, CommandLine.BatchDriver.Answers, CommandLine.yields_executeBy,
  CommandLine.RunEnds, CommandLine.ends_runBy, CommandLine.run_ends
-/

namespace LayeredFiles

namespace CommandLine

/-! ### Faults that are not reported -/

/-- How a request comes to a fault that is not reported. -/
inductive Unreported [Host] (disk : Disk) (request : Request) : Fault → Prop
  /-- A tag in a name, a path or an error text cannot be followed. Only `generate` shows no such text. -/
  | shown {fault : Fault} (isMarkup : fault.IsMarkup)
      (shows : ∀ name destination, request.command ≠ .generate name destination) :
      Unreported disk request fault
  /-- The context is a YAML document with a value that cannot be made, or nested too deep. -/
  | context {path : String} {fault : Fault} (asked : request.choices.context = some path)
      (breaks : BreaksContext disk path fault) (hasTree : fault ≠ .arithmetic .endless)
      (unsaid : fault.isReported = false) : Unreported disk request fault
  /-- The destination is no text. -/
  | destination {name destination : Value} {fault : Fault}
      (asked : request.command = .generate name destination)
      (noPath : pathOf destination = .error fault) : Unreported disk request fault

/-! ### Contexts -/

/-- No context that the options name is a document that holds itself. Such a one has a value, but no tree of
    values is it. -/
def HasTree [Host] (disk : Disk) (c : Choices) : Prop :=
  ∀ path, c.context = some path → loadContext disk path ≠ .error (.arithmetic .endless)

/-- What is reported, or comes from the document that the options name as the context. -/
def ReportedOrBreaks [Host] (disk : Disk) (c : Choices) (fault : Fault) : Prop :=
  fault.isReported = true ∨ ∃ path, c.context = some path ∧ loadContext disk path = .error fault ∧
    BreaksContext disk path fault

/-- A context is made, or it is reported why not, unless the document breaks. -/
theorem yields_contextFor [Host] (disk : Disk) (c : Choices) :
    Yields (ReportedOrBreaks disk c) (fun _ => True) (contextFor disk c) := by
  have assigned : ∀ bound : Entries, Yields (ReportedOrBreaks disk c) (fun _ => True)
      (readAssignments (c.assignments.map .str) >>= fun assigned =>
        pure (Entries.update bound assigned)) := by
    intro bound
    have read : Yields (ReportedOrBreaks disk c) (fun _ => True)
        (readAssignments (c.assignments.map .str)) :=
      (yields_readAssignments c.assignments).mono (fun _ malformed => Or.inl malformed.isReported)
        (fun _ _ => True.intro)
    apply read.bind
    intro entries _
    exact True.intro
  unfold contextFor
  split
  · exact assigned []
  · rename_i path given
    have asked : c.context = some path := (Option.filter_eq_some_iff.1 given).1
    have loaded : Yields (ReportedOrBreaks disk c) (fun _ => True) (loadContext disk path) :=
      (yields_loadContext disk path).failing.mono
        (fun _ failed => failed.2.imp Fault.isReported_of_isAnnounced
          (fun breaks => ⟨path, asked, failed.1, breaks⟩))
        (fun _ _ => True.intro)
    apply loaded.bind
    intro bound _
    exact assigned bound

/-! ### Commands -/

/-- Whatever jobs there are, the driver gives their results, one for each file and in their order, if the batch
    has valid settings. -/
def BatchDriver.Answers (drive : BatchDriver) : Prop :=
  ∀ (can : Capabilities World) (batch : BatchSettings) (jobs : List ChainJob) (w : World), batch.IsValid →
    ∃ results w', drive can (.int batch.maxParallel) (timeoutValue batch) jobs w = (.ok results, w') ∧
      results.map ChainResult.file = jobs.map ChainJob.file

/-- Jobs that run one after another have results. -/
theorem oneByOne_answers : oneByOne.Answers := by
  intro can batch jobs w valid
  refine ⟨_, _, valid.runBatch_eq can jobs w, ?_⟩
  exact map_file_runJobs can jobs w

/-- The files of a batch are made, and then it is told what became of them. -/
theorem processFilesBy_eq [Host] {drive : BatchDriver} {settings : Settings} {context : Entries}
    {files : List String} {w w' : World} {results : List ChainResult}
    (driven : drive (Generator.standard settings World.site).chains (.int settings.batch.maxParallel)
      (timeoutValue settings.batch) (jobsFor context files) w = (.ok results, w')) :
    processFilesBy drive settings context files w = tellResults results w' := by
  simp only [processFilesBy, Work.andThen]
  unfold jobsFor at driven
  rw [driven]
  rfl

theorem yields_processFilesBy [Host] {drive : BatchDriver} (answers : drive.Answers) {settings : Settings}
    (valid : settings.batch.IsValid) (context : Entries) (files : List String) (w : World) :
    Yields Fault.IsUnshown (fun code => code = 0 ∨ code = 1)
      (processFilesBy drive settings context files w).1 := by
  obtain ⟨results, w', driven, -⟩ := answers (Generator.standard settings World.site).chains settings.batch
    (jobsFor context files) w valid
  rw [processFilesBy_eq driven]
  exact (tellResults_ends _ _).yields

theorem yields_generateFile [Host] (settings : Settings) (context : Entries)
    (generator destination : Value) (w : World) :
    Yields (Fault.ReportedOrNoPath destination) (fun code => code = 0)
      (generateFile settings context generator destination w).1 := by
  apply yields_andThen (Generator.yields_create _ generator destination context w)
  intro _ w' _
  exact rfl

/-- What is reported, or is a tag that cannot be followed. -/
def ReportedOrMarkup (fault : Fault) : Prop := fault.isReported = true ∨ fault.IsMarkup

/-- Names are found, or it is reported that a path is too long. -/
theorem yields_namesIn (disk : Disk) (path : String) :
    Yields ReportedOrMarkup (fun _ => True) (Template.Library.namesIn disk path) := by
  unfold Template.Library.namesIn
  split
  · exact True.intro
  · split
    · exact True.intro
    · exact Or.inl rfl
    · exact True.intro

theorem yields_listing (lib : Template.Library) (disk : Disk) :
    Yields ReportedOrMarkup (fun _ => True) (listing lib disk) := by
  have generators : Yields ReportedOrMarkup (fun _ => True) (lib.generators disk) :=
    (yields_namesIn disk _).map (fun _ _ => True.intro)
  apply generators.bind
  intro names _
  split
  · exact True.intro
  · exact True.intro

theorem yields_partialsListing (lib : Template.Library) (disk : Disk) :
    Yields ReportedOrMarkup (fun _ => True) (partialsListing lib disk) := by
  have generators : Yields ReportedOrMarkup (fun _ => True) (lib.generators disk) :=
    (yields_namesIn disk _).map (fun _ _ => True.intro)
  have partials : Yields ReportedOrMarkup (fun _ => True) (lib.partials disk) :=
    (yields_namesIn disk _).map (fun _ _ => True.intro)
  apply generators.bind
  intro names _
  apply partials.bind
  intro partials _
  split
  · exact True.intro
  · exact True.intro
  · exact True.intro

theorem reportedOrMarkup_of_isUnshown {fault : Fault} (isUnshown : fault.IsUnshown) :
    ReportedOrMarkup fault := by
  cases reported : fault.isReported with
  | true => exact Or.inl reported
  | false => exact Or.inr (isUnshown.isMarkup reported)

theorem yields_sayFound [Host] {lines : Except Fault (List String)}
    (found : Yields ReportedOrMarkup (fun _ => True) lines) (w : World) :
    Yields ReportedOrMarkup (fun _ => True) (sayFound lines w).1 := by
  unfold sayFound
  cases lines with
  | error fault => exact found
  | ok lines =>
      exact (yields_sayLines lines w).mono (fun _ => reportedOrMarkup_of_isUnshown) (fun _ _ => True.intro)

theorem yields_listTemplates [Host] (settings : Settings) (w : World) :
    Yields ReportedOrMarkup (fun code => code = 0) (listTemplates settings w).1 := by
  apply yields_andThen (yields_sayFound (yields_listing _ w.disk) w)
  intro _ w' _
  apply yields_andThen (yields_sayFound (yields_partialsListing _ w.disk) w')
  intro _ w'' _
  exact rfl

/-! ### What commands begin with -/

section Prepare

variable [Host]

/-- The settings and the context that a command which makes files begins with. -/
def prepare (home : NormalPath) (env : Environment) (c : Choices) : Work (Settings × Entries) :=
  fun w => ((do
    let settings ← settingsFor home env c
    let context ← contextFor w.disk c
    pure (settings, context)), w)

variable (drive : BatchDriver) (home : NormalPath) (env : Environment) (c : Choices) (w : World)

theorem executeBy_process (files : List String) :
    executeBy drive home env ⟨.process files, c⟩ w =
      ((prepare home env c).andThen (fun p => processFilesBy drive p.1 p.2 files)) w := by
  simp only [executeBy, Work.andThen, prepare]
  cases settingsFor home env c with
  | error fault => rfl
  | ok settings => cases contextFor w.disk c <;> rfl

theorem executeBy_generate (generator destination : Value) :
    executeBy drive home env ⟨.generate generator destination, c⟩ w =
      ((prepare home env c).andThen (fun p => generateFile p.1 p.2 generator destination)) w := by
  simp only [executeBy, Work.andThen, prepare]
  cases settingsFor home env c with
  | error fault => rfl
  | ok settings => cases contextFor w.disk c <;> rfl

/-- Settings are valid and the context is made, or it is reported why not, unless a document breaks. -/
theorem yields_prepare :
    Yields (ReportedOrBreaks w.disk c) (fun p => p.1.batch.IsValid) (prepare home env c w).1 := by
  have settled : Yields (ReportedOrBreaks w.disk c) (fun settings => settings.batch.IsValid)
      (settingsFor home env c) :=
    (yields_settingsFor home env c).mono (fun _ malformed => Or.inl malformed.isReported)
      (fun _ valid => valid)
  apply settled.bind
  intro settings valid
  apply (yields_contextFor w.disk c).bind
  intro context _
  exact valid

end Prepare

/-- Where no variable and no option says anything, the settings are the usual ones. -/
theorem settingsFor_none (home : NormalPath) : settingsFor home [] .none = .ok (.default home) := by
  rfl

theorem contextFor_none [Host] (disk : Disk) : contextFor disk .none = .ok [] := by
  rfl

/-! ### Requests -/

/-- With settings that are made a driver gives a result for each file. -/
theorem exists_results {drive : BatchDriver} (answers : drive.Answers) {home : NormalPath} {env : Environment}
    {c : Choices} {settings : Settings} (isSet : settingsFor home env c = .ok settings) (context : Entries)
    (files : List String) (w : World) [Host] :
    ∃ results w', drive (Generator.standard settings World.site).chains (.int settings.batch.maxParallel)
        (timeoutValue settings.batch) (jobsFor context files) w = (.ok results, w') ∧
      results.map ChainResult.file = files.map .str := by
  have valid := yields_settingsFor home env c
  rw [isSet] at valid
  obtain ⟨results, w', driven, isFiles⟩ := answers (Generator.standard settings World.site).chains
    settings.batch (jobsFor context files) w valid
  rw [jobsFor, List.map_map] at isFiles
  exact ⟨results, w', driven, isFiles⟩

/-- Jobs that run one after another have the results of their chains. -/
theorem oneByOne_eq {home : NormalPath} {env : Environment} {c : Choices} {settings : Settings}
    (isSet : settingsFor home env c = .ok settings) (can : Capabilities World) (jobs : List ChainJob)
    (w : World) : oneByOne can (.int settings.batch.maxParallel) (timeoutValue settings.batch) jobs w =
      (.ok (runJobs can jobs w).1, (runJobs can jobs w).2) := by
  have valid := yields_settingsFor home env c
  rw [isSet] at valid
  exact BatchSettings.IsValid.runBatch_eq valid can jobs w

section Requests

variable [Host] {drive : BatchDriver}

/-- A request ends with the code zero or one, or with a fault. If that is not reported, it came up in one of
    three ways. -/
theorem yields_executeBy (answers : drive.Answers) (home : NormalPath) (env : Environment)
    {request : Request} {w : World} (hasTree : HasTree w.disk request.choices) :
    Yields (fun fault => fault.isReported = true ∨ Unreported w.disk request fault)
      (fun code => code = 0 ∨ code = 1) (executeBy drive home env request w).1 := by
  obtain ⟨command, c⟩ := request
  have prepared : ∀ command, Yields (fun fault => fault.isReported = true ∨
      Unreported w.disk ⟨command, c⟩ fault) (fun p => p.1.batch.IsValid) (prepare home env c w).1 := by
    intro command
    refine (yields_prepare home env c w).mono ?_ (fun _ valid => valid)
    intro fault refused
    cases reported : fault.isReported with
    | true => exact Or.inl rfl
    | false =>
        obtain ⟨path, asked, fails, breaks⟩ := refused.resolve_left (by simp [reported])
        refine Or.inr (.context asked breaks ?_ reported)
        rintro rfl
        exact hasTree path asked fails
  have unshown : ∀ {command} (fault : Fault), fault.IsUnshown →
      (∀ name destination, command ≠ .generate name destination) →
      fault.isReported = true ∨ Unreported w.disk ⟨command, c⟩ fault := by
    intro command fault isUnshown shows
    exact (reportedOrMarkup_of_isUnshown isUnshown).imp_right (fun isMarkup => .shown isMarkup shows)
  cases command with
  | parse files =>
      apply yields_andThen (yields_say (Console.yields_chainTable _ files) w |>.mono
        (fun fault isUnshown => unshown fault isUnshown (by simp)) (fun _ _ => True.intro))
      intro _ w' _
      exact Or.inl rfl
  | process files =>
      rw [executeBy_process]
      apply yields_andThen (prepared _)
      intro p w' valid
      exact (yields_processFilesBy answers valid p.2 files w').mono
        (fun fault isUnshown => unshown fault isUnshown (by simp)) (fun _ isCode => isCode)
  | generate generator destination =>
      rw [executeBy_generate]
      apply yields_andThen (prepared _)
      intro p w' _
      exact (yields_generateFile p.1 p.2 generator destination w').mono
        (fun _ refused => refused.imp_right (.destination rfl)) (fun _ isZero => Or.inl isZero)
  | list =>
      simp only [executeBy]
      rcases (yields_settingsFor home env c).cases with ⟨fault, refused, malformed⟩ |
        ⟨settings, isOk, -⟩
      · rw [refused]
        exact Or.inl malformed.isReported
      · rw [isOk]
        exact (yields_listTemplates settings w).mono
          (fun _ refused => refused.imp_right (fun isMarkup => .shown isMarkup (by simp)))
          (fun _ isZero => Or.inl isZero)

/-- A batch whose settings and context are there and whose jobs have results tells what became of them. -/
theorem executeBy_process_eq {home : NormalPath} {env : Environment} {c : Choices} {settings : Settings}
    {context : Entries} {files : List String} {w w' : World} {results : List ChainResult}
    (isSet : settingsFor home env c = .ok settings) (isContext : contextFor w.disk c = .ok context)
    (driven : drive (Generator.standard settings World.site).chains (.int settings.batch.maxParallel)
      (timeoutValue settings.batch) (jobsFor context files) w = (.ok results, w')) :
    executeBy drive home env ⟨.process files, c⟩ w = tellResults results w' := by
  have executed : executeBy drive home env ⟨.process files, c⟩ w =
      processFilesBy drive settings context files w := by
    simp only [executeBy, isSet, isContext]
  exact executed.trans (processFilesBy_eq driven)

end Requests

/-! ### Runs -/

section Runs

variable [Host] {drive : BatchDriver} {home : NormalPath} {env : Environment} {texts : List String}
  {request : Request} {w : World}

theorem runBy_of_code (asks : Request.ofTexts texts = .ok request) {code : Nat}
    (ended : (executeBy drive home env request w).1 = .ok code) :
    (runBy drive home env texts w).1 = .ok (.done code) := by
  simp only [runBy, asks]
  cases result : executeBy drive home env request w with
  | mk answer w' =>
      rw [result] at ended
      obtain rfl : answer = .ok code := ended
      rfl

theorem runBy_of_reported (asks : Request.ofTexts texts = .ok request) {fault : Fault}
    (ended : (executeBy drive home env request w).1 = .error fault) (reported : fault.isReported = true) :
    (runBy drive home env texts w).1 = .ok (.done 1) := by
  simp only [runBy, asks]
  cases result : executeBy drive home env request w with
  | mk answer w' =>
      rw [result] at ended
      obtain rfl : answer = .error fault := ended
      obtain ⟨line, told⟩ := reportFault_eq reported w'
      simp only [told]
      rfl

theorem runBy_of_unreported (asks : Request.ofTexts texts = .ok request) {fault : Fault}
    (ended : (executeBy drive home env request w).1 = .error fault) (unsaid : fault.isReported = false) :
    (runBy drive home env texts w).1 = .error fault := by
  simp only [runBy, asks]
  cases result : executeBy drive home env request w with
  | mk answer w' =>
      rw [result] at ended
      obtain rfl : answer = .error fault := ended
      simp only [reportFault, unsaid]
      rfl

/-- How a run with a batch ends. -/
structure RunEnds (results : List ChainResult) (ending : Except Fault Nat) : Prop where
  /-- If all lines can be shown, the code is zero if all files were made, and else one. -/
  shown : (∀ r ∈ results, CanBeShown r) →
    ending = .ok (if results.all ChainResult.isMade then 0 else 1)
  /-- If one cannot be shown, the code is one where that is reported, as it is of a colour that is no number;
      any other tag ends the run. -/
  hidden : (∃ r ∈ results, ¬CanBeShown r) →
    ending = .ok 1 ∨ ∃ fault, fault.IsMarkup ∧ ending = .error fault

/-- A run with a batch ends as the batch does. -/
theorem BatchEnds.run {results : List ChainResult}
    (ends : BatchEnds results (executeBy drive home env request w).1)
    (asks : Request.ofTexts texts = .ok request) :
    RunEnds results ((runBy drive home env texts w).1.map Ending.code) := by
  constructor
  · intro all
    rw [runBy_of_code asks (ends.shown all)]
    rfl
  · intro one
    obtain ⟨fault, isUnshown, isFault⟩ := ends.hidden one
    cases reported : fault.isReported with
    | true =>
        left
        rw [runBy_of_reported asks isFault reported]
        rfl
    | false =>
        right
        refine ⟨fault, isUnshown.isMarkup reported, ?_⟩
        rw [runBy_of_unreported asks isFault reported]
        rfl

theorem ends_runBy {c : Choices} {settings : Settings} {context : Entries} {files : List String} {w' : World}
    {results : List ChainResult} (asks : Request.ofTexts texts = .ok ⟨.process files, c⟩)
    (isSet : settingsFor home env c = .ok settings) (isContext : contextFor w.disk c = .ok context)
    (driven : drive (Generator.standard settings World.site).chains (.int settings.batch.maxParallel)
      (timeoutValue settings.batch) (jobsFor context files) w = (.ok results, w')) :
    RunEnds results ((runBy drive home env texts w).1.map Ending.code) := by
  have ends := tellResults_ends results w'
  rw [← executeBy_process_eq isSet isContext driven] at ends
  exact ends.run asks

end Runs

theorem code_refused (refusal : Refusal) :
    (Ending.refused refusal).code = 0 ∨ (Ending.refused refusal).code = 2 := by
  cases refusal with
  | help => exact Or.inl rfl
  | usage program fault => exact Or.inr rfl

/-- Whatever runs the jobs of batches, if it always gives results: a run ends with the code zero, one or two,
    unless a fault that is not reported comes up in one of three ways. Of contexts that hold themselves
    nothing is said. A batch whose settings and context are there ends as its results ask for: with the code
    zero if all files were made and else with one, if every line about a result can be shown. This holds of
    whatever results there are to be told, and without opening brackets in its texts a result can be shown. -/
theorem run_ends [Host] {drive : BatchDriver} (answers : drive.Answers) (home : NormalPath) (env : Environment)
    (texts : List String) (w : World) :
    ((∀ request, Request.ofTexts texts = .ok request → HasTree w.disk request.choices) →
      (∃ ending, (runBy drive home env texts w).1 = .ok ending ∧
        (ending.code = 0 ∨ ending.code = 1 ∨ ending.code = 2)) ∨
      ∃ request fault, Request.ofTexts texts = .ok request ∧
        (runBy drive home env texts w).1 = .error fault ∧ fault.isReported = false ∧
        Unreported w.disk request fault) ∧
    (∀ (files : List String) (c : Choices) (settings : Settings) (context : Entries),
      Request.ofTexts texts = .ok ⟨.process files, c⟩ → settingsFor home env c = .ok settings →
      contextFor w.disk c = .ok context →
      ∃ results w', drive (Generator.standard settings World.site).chains (.int settings.batch.maxParallel)
          (timeoutValue settings.batch) (jobsFor context files) w = (.ok results, w') ∧
        results.map ChainResult.file = files.map .str ∧
        RunEnds results ((runBy drive home env texts w).1.map Ending.code)) ∧
    (∀ (results : List ChainResult) (w' : World), BatchEnds results (tellResults results w').1) ∧
    ∀ r : ChainResult, '[' ∉ r.file.display.toList → '[' ∉ (detailOf r).toList → CanBeShown r := by
  refine ⟨?_, ?_, tellResults_ends, fun _ => canBeShown_of_noBracket⟩
  · intro hasTree
    cases asks : Request.ofTexts texts with
    | error refusal =>
        left
        refine ⟨.refused refusal, by simp only [runBy, asks], ?_⟩
        exact (code_refused refusal).imp_right Or.inr
    | ok request =>
        rcases (yields_executeBy answers home env (hasTree request asks)).cases with
          ⟨fault, failed, how⟩ | ⟨code, ended, isCode⟩
        · cases reported : fault.isReported with
          | true => exact Or.inl ⟨.done 1, runBy_of_reported asks failed reported, Or.inr (Or.inl rfl)⟩
          | false =>
              have how := how.resolve_left (by simp [reported])
              exact Or.inr ⟨request, fault, rfl, runBy_of_unreported asks failed reported, reported, how⟩
        · left
          refine ⟨.done code, runBy_of_code asks ended, ?_⟩
          rcases isCode with rfl | rfl
          · exact Or.inl rfl
          · exact Or.inr (Or.inl rfl)
  · intro files c settings context asks isSet isContext
    obtain ⟨results, w', driven, isFiles⟩ := exists_results answers isSet context files w
    exact ⟨results, w', driven, isFiles, ends_runBy asks isSet isContext driven⟩

/-- One file needs nothing and the template of the other is gone, so the code is one. -/
theorem run_ends_of_gone_template :
    oneByOne.Answers ∧
      (run (.ofString "/home") [] ["process", "a", "b._gone"] emptyWorld).1.map Ending.code = .ok 1 := by
  have asks : Request.ofTexts ["process", "a", "b._gone"] = .ok ⟨.process ["a", "b._gone"], .none⟩ := by
    rfl
  obtain ⟨-, batch, -, canBeShown⟩ :=
    run_ends oneByOne_answers (.ofString "/home") [] ["process", "a", "b._gone"] emptyWorld
  obtain ⟨results, w', driven, -, ends⟩ :=
    batch ["a", "b._gone"] .none _ _ asks (settingsFor_none _) (contextFor_none _)
  rw [oneByOne_eq (settingsFor_none (.ofString "/home"))] at driven
  cases driven
  have noBrackets : (runJobs (Generator.standard (.default (.ofString "/home")) World.site).chains
      (jobsFor [] ["a", "b._gone"]) emptyWorld).1.all (fun r =>
        !r.file.display.toList.contains '[' && !(detailOf r).toList.contains '[') = true := by
    decide
  have notAll : (runJobs (Generator.standard (.default (.ofString "/home")) World.site).chains
      (jobsFor [] ["a", "b._gone"]) emptyWorld).1.all ChainResult.isMade = false := by decide
  refine ⟨oneByOne_answers, (ends.shown ?_).trans (by rw [notAll]; rfl)⟩
  intro r mem
  have noBracket := List.all_eq_true.1 noBrackets r mem
  simp only [Bool.and_eq_true, Bool.not_eq_true', List.contains_eq_mem, decide_eq_false_iff_not]
    at noBracket
  exact canBeShown r noBracket.1 noBracket.2

/-- A name with a tag that closes nothing: the file is made, and the run breaks off when it is told. -/
theorem run_breaks_at_tag :
    let made := (runJobs (Generator.standard (.default (.ofString "/home")) World.site).chains
      (jobsFor [] ["a[/b]"]) emptyWorld).1
    Request.ofTexts ["process", "a[/b]"] = .ok ⟨.process ["a[/b]"], .none⟩ ∧
      settingsFor (.ofString "/home") [] .none = .ok (.default (.ofString "/home")) ∧
      contextFor emptyWorld.disk .none = .ok [] ∧
      made.all ChainResult.isMade = true ∧
      ∃ fault, fault.isReported = false ∧
        (run (.ofString "/home") [] ["process", "a[/b]"] emptyWorld).1 = .error fault := by
  have asks : Request.ofTexts ["process", "a[/b]"] = .ok ⟨.process ["a[/b]"], .none⟩ := by rfl
  have noChain : (ChainName.parse "a[/b]").hasChain = false := by decide
  have made : (runJobs (Generator.standard (.default (.ofString "/home")) World.site).chains
      (jobsFor [] ["a[/b]"]) emptyWorld).1 = [⟨.str "a[/b]", .made "a[/b]", .zero false⟩] := by
    simp [runJobs, runJob, jobsFor, process, pathOf, processName, noChain, resultOf]
  have tags : Console.tagsOf
      (Console.pieces (resultLine ⟨.str "a[/b]", .made "a[/b]", .zero false⟩).toList) =
        [.tag 2 "green".toList, .tag 11 ('/' :: "green".toList), .tag 21 ('/' :: "b".toList),
          .tag 30 ('/' :: "b".toList)] := by decide +kernel
  have green : Console.IsStyle "green".toList := Console.isStyle_of_check (by decide +kernel)
  have bold : Console.IsStyle "b".toList := Console.isStyle_of_check (by decide +kernel)
  have fails : Console.followTags [] (Console.tagsOf
      (Console.pieces (resultLine ⟨.str "a[/b]", .made "a[/b]", .zero false⟩).toList)) =
        .error (.markup (.unopened (String.ofList ('[' :: ('/' :: "b".toList) ++ [']'])) 21)) := by
    rw [tags, green.followTags_opening, green.followTags_closing, bold.followTags_unopened]
    rfl
  have hidden := Console.not_line_of_tagsOf fails
  have ended := executeBy_process_eq (settingsFor_none (.ofString "/home")) (contextFor_none emptyWorld.disk)
    (oneByOne_eq (settingsFor_none (.ofString "/home")) _ (jobsFor [] ["a[/b]"]) emptyWorld)
  rw [made] at ended
  have broken : (executeBy oneByOne (.ofString "/home") [] ⟨.process ["a[/b]"], .none⟩ emptyWorld).1 =
      .error (.markup (.unopened (String.ofList ('[' :: ('/' :: "b".toList) ++ [']'])) 21)) := by
    rw [ended]
    simp only [tellResults, List.map_cons, sayLines, Work.andThen, say, hidden]
  refine ⟨asks, settingsFor_none _, contextFor_none _, by rw [made]; rfl, _, ?_,
    runBy_of_unreported asks broken rfl⟩
  rfl

end CommandLine

end LayeredFiles
