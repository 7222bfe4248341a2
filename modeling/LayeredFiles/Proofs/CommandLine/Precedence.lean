import LayeredFiles.Proofs.Chain.Journal
import LayeredFiles.Proofs.CommandLine.Contexts
import LayeredFiles.Proofs.Yaml.Loading
/-
Module: LayeredFiles.Proofs.CommandLine.Precedence
Layer: Proofs
Purpose: what a batch is run with, and when it is not run at all. Options count before variables and these
  before what is usual, field by field. Settings and contexts that cannot be made end the run before anything
  is asked of a renderer or of the disk, also where an option stands for the variable that is refused.
  Contexts that hold themselves are left aside: they have a value, but it is no tree.
Main exports: CommandLine.Follows, CommandLine.follows_of_settingsFor, CommandLine.batchOver,
  CommandLine.followed, CommandLine.Refuses, CommandLine.refuses_iff, CommandLine.process_runs_or_refuses
-/

namespace LayeredFiles

open Number

/-! ### Fields of batches -/

namespace Settings

theorem eq_of_parallelValue_int {i j : Int} (passed : parallelValue (.int i) = .ok j) : j = i := by
  simp only [parallelValue, wholeNumber, bind, Except.bind] at passed
  split at passed
  · cases passed
    rfl
  · cases passed

theorem eq_of_timeoutValue_float {x : Binary64} {limit : Option Binary64}
    (passed : timeoutValue (.float x) = .ok limit) : limit = some x := by
  simp only [timeoutValue, realNumber, bind, Except.bind] at passed
  split at passed
  · cases passed
    rfl
  · cases passed

/-- The number of files at once is the one that is given, or the usual one. -/
theorem maxParallel_of_validateBatch {entries : Entries} {batch : BatchSettings} (given : Option Int)
    (passed : validateBatch (.dict entries) = .ok batch)
    (isGiven : Entries.find? entries "max_parallel" = given.map .int) :
    batch.maxParallel = given.getD BatchSettings.default.maxParallel := by
  obtain ⟨fields, both, rfl⟩ := of_map (of_reported passed)
  rcases of_check (of_both both).1 with ⟨absent, isUsual⟩ | ⟨v, there, isValue⟩
  · rw [isGiven, Option.map_eq_none_iff] at absent
    rw [absent]
    exact isUsual
  · rw [isGiven, Option.map_eq_some_iff] at there
    obtain ⟨i, rfl, rfl⟩ := there
    exact eq_of_parallelValue_int isValue

/-- The limit of time is the one that is given; there is none if it is not given or given as none. -/
theorem chainTimeout_of_validateBatch {entries : Entries} {batch : BatchSettings}
    (given : Option Binary64) (passed : validateBatch (.dict entries) = .ok batch)
    (isGiven : Entries.find? entries "chain_timeout" = given.map .float ∨
      Entries.find? entries "chain_timeout" = some ((given.map .float).getD .null)) :
    batch.chainTimeout = given := by
  obtain ⟨fields, both, rfl⟩ := of_map (of_reported passed)
  have field := of_check (of_both both).2
  cases given with
  | none =>
      rcases field with ⟨-, isUsual⟩ | ⟨v, there, isValue⟩
      · exact isUsual
      · obtain rfl : v = .null := by
          rcases isGiven with none | null
          · rw [none] at there
            cases there
          · rw [null] at there
            exact (Option.some.inj there).symm
        exact (Except.ok.inj isValue).symm
  | some x =>
      have isFloat : Entries.find? entries "chain_timeout" = some (.float x) := by simpa using isGiven
      rcases field with ⟨absent, -⟩ | ⟨v, there, isValue⟩
      · rw [isFloat] at absent
        cases absent
      · rw [isFloat] at there
        cases there
        exact eq_of_timeoutValue_float isValue

end Settings

/-! ### What settings follow -/

namespace Environment

/-- A batch that variables ask for has the numbers in them. -/
theorem of_batch {env : Environment} {batch : BatchSettings} (isBatch : env.batch = .ok batch) :
    ∃ parallel timeout, env.int? "TEMPLATE_CHAIN_MAX_PARALLEL" = .ok parallel ∧
      env.float? "TEMPLATE_CHAIN_TIMEOUT" = .ok timeout ∧
      batch.maxParallel = parallel.getD BatchSettings.default.maxParallel ∧
      batch.chainTimeout = timeout := by
  obtain ⟨parallel, isParallel, rest⟩ := bind_eq_ok_iff.1 isBatch
  obtain ⟨timeout, isTimeout, passed⟩ := bind_eq_ok_iff.1 rest
  refine ⟨parallel, timeout, isParallel, isTimeout, ?_, ?_⟩
  · apply Settings.maxParallel_of_validateBatch parallel passed
    cases parallel <;> cases timeout <;> rfl
  · apply Settings.chainTimeout_of_validateBatch timeout passed
    left
    cases parallel <;> cases timeout <;> rfl

end Environment

namespace CommandLine

/-- An option stands for its own field of the batch alone. -/
theorem of_overridden {batch changed : BatchSettings} {c : Choices}
    (isChanged : overridden batch c = .ok changed) :
    changed.maxParallel = c.parallel.getD batch.maxParallel ∧
      changed.chainTimeout = c.timeout.or batch.chainTimeout := by
  unfold overridden at isChanged
  split at isChanged
  · rename_i noParallel noTimeout
    cases isChanged
    simp [noParallel, noTimeout]
  · refine ⟨?_, ?_⟩
    · exact Settings.maxParallel_of_validateBatch (some (c.parallel.getD batch.maxParallel)) isChanged rfl
    · have isGiven := Settings.chainTimeout_of_validateBatch
        (c.timeout.orElse (fun _ => batch.chainTimeout)) isChanged (Or.inr rfl)
      rw [isGiven]
      cases c.timeout <;> rfl

/-- Settings that follow options first, variables second and what is usual last. An empty path as an option
    says nothing, and neither does an empty variable. -/
structure Follows (home : NormalPath) (env : Environment) (c : Choices) (settings : Settings) : Prop where
  templates : settings.templatesPath = (((c.templates.filter (· ≠ "")).or
    (env.get? "TEMPLATE_CHAIN_TEMPLATES_PATH")).map .ofString).getD home
  parallel : ∃ said, env.int? "TEMPLATE_CHAIN_MAX_PARALLEL" = .ok said ∧
    settings.batch.maxParallel = (c.parallel.or said).getD 4
  timeout : ∃ said, env.float? "TEMPLATE_CHAIN_TIMEOUT" = .ok said ∧
    settings.batch.chainTimeout = c.timeout.or said
  verbose : settings.verbose = (c.verbose || (env.get? "TEMPLATE_CHAIN_VERBOSE").any Environment.isYes)

/-- Settings that are made follow options first, variables second and what is usual last. -/
theorem follows_of_settingsFor {home : NormalPath} {env : Environment} {c : Choices} {settings : Settings}
    (isSet : settingsFor home env c = .ok settings) : Follows home env c settings := by
  obtain ⟨set, fromEnvironment, rest⟩ := bind_eq_ok_iff.1 isSet
  obtain ⟨changed, isChanged, isWhole⟩ := bind_eq_ok_iff.1 rest
  obtain ⟨batch, isBatch, isSettings⟩ := bind_eq_ok_iff.1 fromEnvironment
  cases isSettings
  cases isWhole
  obtain ⟨parallel, timeout, isParallel, isTimeout, sameParallel, sameTimeout⟩ :=
    Environment.of_batch isBatch
  obtain ⟨parallelOver, timeoutOver⟩ := of_overridden isChanged
  refine ⟨?_, ⟨parallel, isParallel, ?_⟩, ⟨timeout, isTimeout, ?_⟩, ?_⟩
  · cases c.templates.filter (· ≠ "") <;> rfl
  · rw [parallelOver, sameParallel]
    cases c.parallel <;> rfl
  · rw [timeoutOver, sameTimeout]
  · cases env.get? "TEMPLATE_CHAIN_VERBOSE" <;> simp [Bool.or_comm]

/-! ### Batches over any state -/

section View

variable {σ τ : Type} {can : Capabilities σ} {other : Capabilities τ} {view : σ → τ}

theorem runJobs_view (acts : can.ActsAs other view) (jobs : List ChainJob) (s : σ) :
    runJobs other jobs (view s) = Prod.map id view (runJobs can jobs s) := by
  induction jobs generalizing s with
  | nil => rfl
  | cons job rest ih =>
      have first : process other job.file job.context (view s) =
          Prod.map id view (process can job.file job.context s) := by
        unfold process
        cases pathOf job.file with
        | error fault => rfl
        | ok path => exact processName_view acts path job.context s
      simp only [runJobs, runJob, first, Prod.map, id, ih]

theorem runBatch_view (acts : can.ActsAs other view) (limit timeout : Value) (jobs : List ChainJob)
    (s : σ) : runBatch other limit timeout jobs (view s) =
      Prod.map id view (runBatch can limit timeout jobs s) := by
  unfold runBatch
  cases checkParallel limit with
  | error fault => rfl
  | ok =>
      cases leavesNoTime timeout with
      | error fault => rfl
      | ok noTime =>
          cases noTime with
          | true => rfl
          | false => simp only [runJobs_view acts, Prod.map, id]

end View

section Over

variable [Host]

/-- The batch that a request asks for, over any state: its settings, its context and then its results. -/
def batchOver {σ : Type} (can : Settings → Capabilities σ) (disk : σ → Disk) (home : NormalPath)
    (env : Environment) (c : Choices) (files : List String) (s : σ) :
    Except Fault (List ChainResult) × σ :=
  match settingsFor home env c with
  | .error fault => (.error fault, s)
  | .ok settings =>
    match contextFor (disk s) c with
    | .error fault => (.error fault, s)
    | .ok context =>
      runBatch (can settings) (.int settings.batch.maxParallel) (timeoutValue settings.batch)
        (jobsFor context files) s

section Batch

variable (home : NormalPath) (env : Environment) (c : Choices) (files : List String) (w : World)

/-- The batch of a request in a world. -/
def batchIn : Work (List ChainResult) :=
  batchOver (fun settings => (Generator.standard settings World.site).chains) World.disk home env c files

/-- The same batch with a journal of what it asks of the renderer and the disk. -/
def followed : Except Fault (List ChainResult) × World × List Action :=
  batchOver (fun settings => (Generator.standard settings World.site).chains.journaled)
    (fun s => s.1.disk) home env c files (w, [])

/-- Keeping the journal changes nothing else. -/
theorem batchIn_eq_followed :
    batchIn home env c files w = Prod.map id Prod.fst (followed home env c files w) := by
  unfold batchIn followed batchOver
  cases settingsFor home env c with
  | error fault => rfl
  | ok settings =>
      cases contextFor w.disk c with
      | error fault => rfl
      | ok context => exact runBatch_view (Capabilities.journaled_actsAs _) _ _ _ (w, [])

/-- A request for a batch runs it and tells what became of its files. -/
theorem execute_process_eq_batchIn :
    execute home env ⟨.process files, c⟩ w = (batchIn home env c files).andThen tellResults w := by
  rw [execute, executeBy_process]
  simp only [Work.andThen, prepare, batchIn, batchOver]
  cases settingsFor home env c with
  | error fault => rfl
  | ok settings =>
      cases contextFor w.disk c with
      | error fault => rfl
      | ok context => rfl

end Batch

end Over

/-! ### Refusals -/

/-- What a batch is refused for: the variables, the options on top of them, the file of the context, or an
    assignment. -/
inductive Refuses [Host] (home : NormalPath) (env : Environment) (disk : Disk) (c : Choices) :
    Fault → Prop
  | environment {fault : Fault} (fails : Settings.ofEnvironment home env = .error fault) :
      Refuses home env disk c fault
  | options {set : Settings} {fault : Fault} (isSet : Settings.ofEnvironment home env = .ok set)
      (fails : overridden set.batch c = .error fault) : Refuses home env disk c fault
  | file {settings : Settings} {path : String} {fault : Fault}
      (isSet : settingsFor home env c = .ok settings) (isPath : c.context = some path) (given : path ≠ "")
      (fails : loadContext disk path = .error fault) (hasTree : fault ≠ .arithmetic .endless) :
      Refuses home env disk c fault
  | assignment {settings : Settings} {bound : Entries} {fault : Fault}
      (isSet : settingsFor home env c = .ok settings) (binds : FileBinds disk c bound)
      (fails : readAssignments (c.assignments.map .str) = .error fault) : Refuses home env disk c fault

section Refuses

variable {home : NormalPath} {env : Environment} {c : Choices} {w : World}

theorem settingsFor_eq_error_iff {fault : Fault} :
    settingsFor home env c = .error fault ↔ Settings.ofEnvironment home env = .error fault ∨
      ∃ set, Settings.ofEnvironment home env = .ok set ∧ overridden set.batch c = .error fault := by
  unfold settingsFor
  cases Settings.ofEnvironment home env with
  | error other => exact ⟨Or.inl, fun refused => refused.resolve_right (by simp)⟩
  | ok set =>
      cases isChanged : overridden set.batch c with
      | error other => simp [bind, Except.bind, isChanged]
      | ok changed => simp [bind, Except.bind, isChanged, pure, Except.pure]

theorem contextFor_eq_error_iff [Host] {disk : Disk} {fault : Fault} :
    contextFor disk c = .error fault ↔
      (∃ path, c.context = some path ∧ path ≠ "" ∧ loadContext disk path = .error fault) ∨
        ∃ bound, FileBinds disk c bound ∧ readAssignments (c.assignments.map .str) = .error fault := by
  constructor
  · intro refused
    rcases fileBinds_or_fails disk c with ⟨bound, binds⟩ | ⟨path, other, isPath, given, fails⟩
    · right
      refine ⟨bound, binds, ?_⟩
      rw [contextFor_of_fileBinds binds] at refused
      cases read : readAssignments (c.assignments.map .str) with
      | error other =>
          rw [read] at refused
          cases refused
          rfl
      | ok assigned =>
          rw [read] at refused
          cases refused
    · left
      rw [contextFor_of_loadContext_error isPath given fails] at refused
      cases refused
      exact ⟨path, isPath, given, fails⟩
  · rintro (⟨path, isPath, given, fails⟩ | ⟨bound, binds, fails⟩)
    · exact contextFor_of_loadContext_error isPath given fails
    · rw [contextFor_of_fileBinds binds, fails]
      rfl

/-- No assignment holds itself. -/
theorem ne_endless_of_readAssignments {items : List String} {fault : Fault}
    (fails : readAssignments (items.map .str) = .error fault) : fault ≠ .arithmetic .endless := by
  have malformed := yields_readAssignments items
  rw [fails] at malformed
  rintro rfl
  cases malformed

section Accepts

variable [Host]

/-- A batch is refused for what its settings fail with, or its context with settings that are made. -/
theorem refuses_iff {disk : Disk} {fault : Fault} : Refuses home env disk c fault ↔
    settingsFor home env c = .error fault ∨ (∃ settings, settingsFor home env c = .ok settings) ∧
      contextFor disk c = .error fault ∧ fault ≠ .arithmetic .endless := by
  rw [contextFor_eq_error_iff, settingsFor_eq_error_iff]
  constructor
  · intro refuses
    cases refuses with
    | environment fails => exact Or.inl (Or.inl fails)
    | options isSet fails => exact Or.inl (Or.inr ⟨_, isSet, fails⟩)
    | file isSet isPath given fails hasTree =>
        exact Or.inr ⟨⟨_, isSet⟩, Or.inl ⟨_, isPath, given, fails⟩, hasTree⟩
    | assignment isSet binds fails =>
        exact Or.inr ⟨⟨_, isSet⟩, Or.inr ⟨_, binds, fails⟩, ne_endless_of_readAssignments fails⟩
  · rintro ((fails | ⟨set, isSet, fails⟩) |
      ⟨⟨settings, isSet⟩, ⟨path, isPath, given, fails⟩ | ⟨bound, binds, fails⟩, hasTree⟩)
    · exact .environment fails
    · exact .options isSet fails
    · exact .file isSet isPath given fails hasTree
    · exact .assignment isSet binds fails

/-- A batch that is refused asks for nothing. -/
theorem batchOver_of_refuses {σ : Type} (can : Settings → Capabilities σ) (disk : σ → Disk) (s : σ)
    {fault : Fault} (refuses : Refuses home env (disk s) c fault) (files : List String) :
    batchOver can disk home env c files s = (.error fault, s) := by
  unfold batchOver
  rcases refuses_iff.1 refuses with fails | ⟨⟨settings, isSet⟩, fails, -⟩
  · rw [fails]
  · simp only [isSet, fails]

theorem followed_of_refuses {fault : Fault} (refuses : Refuses home env w.disk c fault)
    (files : List String) : followed home env c files w = (.error fault, w, []) := by
  unfold followed
  rw [batchOver_of_refuses]
  exact refuses

/-- Where nothing is refused and the context does not hold itself, there are settings and a context. -/
theorem exists_of_not_refuses {disk : Disk} (hasTree : HasTree disk c)
    (accepts : ∀ fault, ¬Refuses home env disk c fault) :
    ∃ settings context, settingsFor home env c = .ok settings ∧ contextFor disk c = .ok context := by
  cases isSet : settingsFor home env c with
  | error fault => exact absurd (refuses_iff.2 (Or.inl isSet)) (accepts fault)
  | ok settings =>
      cases isContext : contextFor disk c with
      | error fault =>
          refine absurd (refuses_iff.2 (Or.inr ⟨⟨settings, isSet⟩, isContext, ?_⟩)) (accepts fault)
          rintro rfl
          rcases contextFor_eq_error_iff.1 isContext with ⟨path, isPath, -, fails⟩ | ⟨bound, -, fails⟩
          · exact hasTree path isPath fails
          · exact ne_endless_of_readAssignments fails rfl
      | ok context => exact ⟨settings, context, rfl, rfl⟩

/-- What a batch is refused for is reported, unless the context is a document that breaks. -/
theorem Refuses.reportedOrBreaks {disk : Disk} {fault : Fault} (refuses : Refuses home env disk c fault) :
    ReportedOrBreaks disk c fault := by
  rcases refuses_iff.1 refuses with fails | ⟨-, fails, -⟩
  · have malformed := yields_settingsFor home env c
    rw [fails] at malformed
    exact Or.inl malformed.isReported
  · have reported := yields_contextFor disk c
    rw [fails] at reported
    exact reported

end Accepts

end Refuses

/-! ### Runs of batches -/

section Runs

variable [Host] {home : NormalPath} {env : Environment} {texts files : List String} {c : Choices}
  {w : World}

/-- A run whose request fails reports the fault, if that is one of those that are reported. -/
theorem run_of_execute_error {request : Request} (asks : Request.ofTexts texts = .ok request) {fault : Fault}
    {w' : World} (failed : execute home env request w = (.error fault, w')) :
    run home env texts w = Prod.map (Except.map .done) id (reportFault fault w') := by
  unfold execute at failed
  simp only [run, runBy, asks, failed]
  rfl

/-- A fault that is reported ends a run with the code one, and only a line about it is shown. -/
theorem run_of_reported_eq {request : Request} (asks : Request.ofTexts texts = .ok request) {fault : Fault}
    {w' : World} (failed : execute home env request w = (.error fault, w'))
    (reported : fault.isReported = true) :
    ∃ line, Console.errorLine ("Error: " ++ fault.message) = .ok line ∧
      run home env texts w = (.ok (.done 1), w'.tell line) := by
  obtain ⟨line, isLine⟩ := Console.exists_errorLine ("Error: " ++ fault.message)
  refine ⟨line, isLine, ?_⟩
  rw [run_of_execute_error asks failed, reportFault, if_pos reported, isLine]
  rfl

theorem run_of_unreported_eq {request : Request} (asks : Request.ofTexts texts = .ok request) {fault : Fault}
    {w' : World} (failed : execute home env request w = (.error fault, w'))
    (unsaid : fault.isReported = false) : run home env texts w = (.error fault, w') := by
  rw [run_of_execute_error asks failed, reportFault, unsaid]
  rfl

/-- A request for a batch is refused without any effect, or the batch runs with settings that follow options
    first, variables second and what is usual last. Of a context that holds itself nothing is said. -/
theorem process_runs_or_refuses (asks : Request.ofTexts texts = .ok ⟨.process files, c⟩) :
    (execute home env ⟨.process files, c⟩ w = (batchIn home env c files).andThen tellResults w ∧
      batchIn home env c files w = Prod.map id Prod.fst (followed home env c files w)) ∧
    (∀ fault, Refuses home env w.disk c fault →
      followed home env c files w = (.error fault, w, []) ∧
      (fault.isReported = true →
        ∃ line, Console.errorLine ("Error: " ++ fault.message) = .ok line ∧
          run home env texts w = (.ok (.done 1), w.tell line)) ∧
      (fault.isReported = false → run home env texts w = (.error fault, w) ∧
        ∃ path, c.context = some path ∧ loadContext w.disk path = .error fault ∧
          BreaksContext w.disk path fault)) ∧
    (HasTree w.disk c → (∀ fault, ¬Refuses home env w.disk c fault) →
      ∃ settings context, settingsFor home env c = .ok settings ∧ contextFor w.disk c = .ok context ∧
        Follows home env c settings ∧
        followed home env c files w = runBatch (Generator.standard settings World.site).chains.journaled
          (.int settings.batch.maxParallel) (timeoutValue settings.batch) (jobsFor context files) (w, [])) ∧
    ∀ settings changed, settingsFor home env c = .ok settings →
      (∀ parallel, settingsFor home env { c with parallel := parallel } = .ok changed →
        changed.batch.chainTimeout = settings.batch.chainTimeout) ∧
      ∀ timeout, settingsFor home env { c with timeout := timeout } = .ok changed →
        changed.batch.maxParallel = settings.batch.maxParallel := by
  refine ⟨⟨execute_process_eq_batchIn home env c files w, batchIn_eq_followed home env c files w⟩,
    ?_, ?_, ?_⟩
  · intro fault refuses
    have asked := followed_of_refuses refuses files
    have isBatch : batchIn home env c files w = (.error fault, w) := by
      rw [batchIn_eq_followed, asked]
      rfl
    have failed : execute home env ⟨.process files, c⟩ w = (.error fault, w) := by
      rw [execute_process_eq_batchIn, Work.andThen, isBatch]
    refine ⟨asked, run_of_reported_eq asks failed, ?_⟩
    intro unsaid
    exact ⟨run_of_unreported_eq asks failed unsaid,
      refuses.reportedOrBreaks.resolve_left (by simp [unsaid])⟩
  · intro hasTree accepts
    obtain ⟨settings, context, isSet, isContext⟩ := exists_of_not_refuses hasTree accepts
    refine ⟨settings, context, isSet, isContext, follows_of_settingsFor isSet, ?_⟩
    simp only [followed, batchOver, isSet, isContext]
  · intro settings changed isSet
    have follows := follows_of_settingsFor isSet
    refine ⟨?_, ?_⟩
    · intro parallel isChanged
      obtain ⟨said, isSaid, isTimeout⟩ := follows.timeout
      obtain ⟨said', isSaid', isTimeout'⟩ := (follows_of_settingsFor isChanged).timeout
      cases isSaid.symm.trans isSaid'
      rw [isTimeout, isTimeout']
    · intro timeout isChanged
      obtain ⟨said, isSaid, isParallel⟩ := follows.parallel
      obtain ⟨said', isSaid', isParallel'⟩ := (follows_of_settingsFor isChanged).parallel
      cases isSaid.symm.trans isSaid'
      rw [isParallel, isParallel']

end Runs

/-- Variables that ask for no file at once. -/
def noFileAtOnce : Environment := [("TEMPLATE_CHAIN_MAX_PARALLEL", "0")]

/-- Variables that ask for three files at once and for other templates. -/
def threeAtOnce : Environment :=
  [("TEMPLATE_CHAIN_MAX_PARALLEL", "3"), ("TEMPLATE_CHAIN_TEMPLATES_PATH", "t")]

/-- Options that ask for two files at once, with an empty path of templates. -/
def twoAtOnce : Choices := { Choices.none with templates := some "", parallel := some 2 }

/-- What is made of the three and the two. -/
def twoSettings : Settings := ⟨.ofString "t", "utf-8", false, ⟨2, none⟩⟩

/-- Options that ask for a context with a word that is no truth value. -/
def wordChoices : Choices := { Choices.none with context := some "y.yaml" }

theorem asks_twoAtOnce :
    Request.ofTexts ["process", "a", "--templates", "", "--parallel", "2"] =
      .ok ⟨.process ["a"], twoAtOnce⟩ := by
  rfl

theorem asks_wordChoices :
    Request.ofTexts ["process", "a", "-c", "y.yaml"] = .ok ⟨.process ["a"], wordChoices⟩ := by
  rfl

theorem settingsFor_threeAtOnce :
    settingsFor (.ofString "/home") threeAtOnce twoAtOnce = .ok twoSettings :=
  eq_ok_of_toOption (by decide)

theorem refuses_noFileAtOnce [Host] (disk : Disk) :
    ∃ fault, Refuses (.ofString "/home") noFileAtOnce disk twoAtOnce fault ∧ fault.isReported = true := by
  have isNone : (Settings.ofEnvironment (.ofString "/home") noFileAtOnce).toOption = none := by
    decide
  cases fails : Settings.ofEnvironment (.ofString "/home") noFileAtOnce with
  | ok settings =>
      rw [fails] at isNone
      cases isNone
  | error fault =>
      have refuses : Refuses (.ofString "/home") noFileAtOnce disk twoAtOnce fault := .environment fails
      refine ⟨fault, refuses, ?_⟩
      rcases refuses.reportedOrBreaks with reported | ⟨path, isPath, -⟩
      · exact reported
      · cases isPath

theorem settingsFor_wordChoices :
    settingsFor (.ofString "/home") [] wordChoices = .ok (.default (.ofString "/home")) := by
  rfl

theorem refuses_wordChoices :
    Refuses (.ofString "/home") [] (World.disk ⟨wordDisk, ""⟩) wordChoices (.key "x") :=
  .file settingsFor_wordChoices rfl (by decide) loadContext_wordDisk (fun same => by cases same)

/-- Two files at once are refused where the variable asks for none, and a word that is no truth value ends the
    run. Two count before three, and the templates are those of the variable. -/
theorem process_runs_or_refuses_of_two :
    (∃ line, run (.ofString "/home") noFileAtOnce ["process", "a", "--templates", "", "--parallel", "2"]
      emptyWorld = (.ok (.done 1), emptyWorld.tell line)) ∧
    run (.ofString "/home") [] ["process", "a", "-c", "y.yaml"] ⟨wordDisk, ""⟩ =
      (.error (.key "x"), ⟨wordDisk, ""⟩) ∧
    followed (.ofString "/home") threeAtOnce twoAtOnce ["a"] emptyWorld =
      runBatch (Generator.standard twoSettings World.site).chains.journaled (.int 2) .null
        (jobsFor [] ["a"]) (emptyWorld, []) ∧
    ∀ timeout changed,
      settingsFor (.ofString "/home") threeAtOnce { twoAtOnce with timeout := timeout } = .ok changed →
        changed.batch.maxParallel = 2 := by
  refine ⟨?_, ?_, ?_, ?_⟩
  · obtain ⟨fault, refuses, reported⟩ := refuses_noFileAtOnce emptyWorld.disk
    obtain ⟨-, refused, -⟩ :=
      @process_runs_or_refuses plainHost (.ofString "/home") noFileAtOnce _ _ _ emptyWorld asks_twoAtOnce
    obtain ⟨line, -, ended⟩ := (refused fault refuses).2.1 reported
    exact ⟨line, ended⟩
  · obtain ⟨-, refused, -⟩ :=
      @process_runs_or_refuses plainHost (.ofString "/home") [] _ _ _ ⟨wordDisk, ""⟩ asks_wordChoices
    exact ((refused _ refuses_wordChoices).2.2 rfl).1
  · obtain ⟨-, -, runs, -⟩ :=
      @process_runs_or_refuses plainHost (.ofString "/home") threeAtOnce _ _ _ emptyWorld asks_twoAtOnce
    have isContext : contextFor emptyWorld.disk twoAtOnce = .ok [] := rfl
    have accepts : ∀ fault, ¬Refuses (.ofString "/home") threeAtOnce emptyWorld.disk twoAtOnce fault := by
      intro fault refuses
      rcases refuses_iff.1 refuses with fails | ⟨-, fails, -⟩
      · rw [settingsFor_threeAtOnce] at fails
        cases fails
      · rw [isContext] at fails
        cases fails
    have hasTree : HasTree emptyWorld.disk twoAtOnce := fun path isPath => by cases isPath
    obtain ⟨settings, context, isSet, made, -, batch⟩ := runs hasTree accepts
    cases settingsFor_threeAtOnce.symm.trans isSet
    cases isContext.symm.trans made
    exact batch
  · obtain ⟨-, -, -, apart⟩ :=
      @process_runs_or_refuses plainHost (.ofString "/home") threeAtOnce _ _ _ emptyWorld asks_twoAtOnce
    intro timeout changed isChanged
    exact (apart twoSettings changed settingsFor_threeAtOnce).2 timeout isChanged

/-- A batch does not always run where nothing that is reported refuses it. -/
theorem batch_not_run : ¬∀ (home : NormalPath) (env : Environment) (texts files : List String) (c : Choices)
    (w : World), Request.ofTexts texts = .ok ⟨.process files, c⟩ →
    (¬∃ fault, Refuses home env w.disk c fault ∧ fault.isReported = true) →
    ∃ results, (followed home env c files w).1 = .ok results := by
  intro runs
  have isSet := settingsFor_wordChoices
  have breaks : contextFor wordDisk wordChoices = .error (.key "x") :=
    contextFor_of_loadContext_error rfl (by decide) loadContext_wordDisk
  have unsaid : ¬∃ fault, Refuses (.ofString "/home") [] wordDisk wordChoices fault ∧
      fault.isReported = true := by
    rintro ⟨fault, refuses, reported⟩
    rcases refuses_iff.1 refuses with fails | ⟨-, fails, -⟩
    · rw [isSet] at fails
      cases fails
    · rw [breaks] at fails
      cases fails
      cases reported
  obtain ⟨results, ran⟩ := runs _ _ _ _ _ ⟨wordDisk, ""⟩ asks_wordChoices unsaid
  rw [followed_of_refuses refuses_wordChoices] at ran
  cases ran

end CommandLine

end LayeredFiles
