import LayeredFiles.Batch.Run
import LayeredFiles.Proofs.Chain.Run
import Mathlib.Logic.Relation
/-
Module: LayeredFiles.Proofs.Batch.Thread
Layer: Proofs
Purpose: the work on one job as a thread does it, one action at a time. Between two actions of a thread
  other threads may act on the same state, so a thread keeps what it needs to go on: the stages that are
  left, the text they start from and what it has done so far. A thread that nobody disturbs does what
  `process` does; a disturbed one still does, action by action, what the chain of its job allows, and it
  writes to no file but those of that chain.
Main exports: Progress, Thread, Thread.start, Thread.advance, Thread.Alone, Thread.alone_start,
  ChainJob.Allows, Thread.WorksOn, Thread.WorksOn.advance, Thread.WorksOn.allows_of_ended,
  ChainJob.base?, Thread.WorksOn.base_of_mem_writes
-/

namespace LayeredFiles

variable {σ : Type}

/-! ### Threads -/

/-- Where the work on a chain stands. -/
inductive Progress where
  /-- The first of these stages is to be rendered with the content; `written` was written last. -/
  | rendering (stages : List Stage) (content : Value) (written : String)
  /-- The stage was rendered to the text, which is to be written. -/
  | writing (stage : Stage) (rest : List Stage) (text : Value)
  /-- The stage has written its text, which is to be told. -/
  | announcing (stage : Stage) (rest : List Stage) (text : Value)
  /-- Nothing is left to do. -/
  | ended (ending : Except Fault String)

namespace Progress

/-- Where the work stands when the rendering of a stage was answered like this. -/
def afterRender (stage : Stage) (rest : List Stage) : Except Fault Value → Progress
  | .error cause => .ended (.error (renderFault stage cause))
  | .ok text => .writing stage rest text

/-- Where the work stands when the writing of a stage's text was answered like this. -/
def afterWrite (stage : Stage) (rest : List Stage) (text : Value) : Except Fault Unit → Progress
  | .error cause => .ended (.error (.stage .writing stage.index stage.template stage.path cause))
  | .ok () => .announcing stage rest text

/-- How the work ended, if it did. -/
def ending? : Progress → Option (Except Fault String)
  | .ended ending => some ending
  | _ => none

theorem eq_ended_of_ending? {progress : Progress} {ending : Except Fault String}
    (ended : progress.ending? = some ending) : progress = .ended ending := by
  cases progress with
  | ended ending' => exact congrArg Progress.ended (Option.some.inj ended)
  | rendering | writing | announcing => cases ended

/-- The most actions that may be left. -/
def actionsLeft : Progress → Nat
  | .rendering stages _ _ => 3 * stages.length + 1
  | .writing _ rest _ => 3 * rest.length + 3
  | .announcing _ rest _ => 3 * rest.length + 2
  | .ended _ => 0

end Progress

/-- The work of one thread: the number of stages and the context of its chain, where it stands and what
    it has done so far. -/
@[ext] structure Thread where
  total : Nat
  context : Entries
  progress : Progress
  actions : List Action

namespace Thread

/-- The thread of a job before it does anything. A file that carries no chain, or is no path at all, and
    a context that is none leave nothing to do. -/
def start (job : ChainJob) : Thread :=
  match pathOf job.file with
  | .error fault => ⟨0, [], .ended (.error fault), []⟩
  | .ok path =>
    let name := ChainName.parse path
    if name.hasChain then
      match entriesOf job.context with
      | .error fault => ⟨0, [], .ended (.error fault), []⟩
      | .ok context =>
        ⟨name.templates.length, context,
          .rendering (plan name.base (name.templates.map .str)) (initialContent context) name.base, []⟩
    else ⟨0, [], .ended (.ok path), []⟩

/-- The thread after an action that leaves its work at `progress`. -/
def did (thread : Thread) (action : Action) (progress : Progress) : Thread :=
  { thread with progress := progress, actions := thread.actions ++ [action] }

/-- The next action of a thread; a thread that has ended does nothing. -/
def advance (can : Capabilities σ) (thread : Thread) (s : σ) : Thread × σ :=
  match thread.progress with
  | .ended _ => (thread, s)
  | .rendering [] _ written => ({ thread with progress := .ended (.ok written) }, s)
  | .rendering (stage :: rest) content _ =>
    let context := stageContext thread.context content stage.template
    let (answer, s) := can.render stage.template context s
    (thread.did (.call ⟨stage.template, context, answer⟩) (.afterRender stage rest answer), s)
  | .writing stage rest text =>
    let (answer, s) := can.write stage.path text s
    (thread.did (.write ⟨stage.path, text, answer⟩) (.afterWrite stage rest text answer), s)
  | .announcing stage rest text =>
    ({ thread with progress := .rendering rest text stage.path },
      can.announce (stage.index + 1) thread.total stage.template stage.path s)

/-- How the thread ended, if it did. -/
def ending? (thread : Thread) : Option (Except Fault String) := thread.progress.ending?

/-- The texts that the thread has written or tried to write. -/
def writes (thread : Thread) : List Write := writesOf thread.actions

/-- The text that the thread rendered last, if its last rendering went well. -/
def lastText? (thread : Thread) : Option Value :=
  (callsOf thread.actions).getLast?.bind (fun call => call.answer.toOption)

section Advance

variable (can : Capabilities σ) {thread : Thread} (s : σ) {stage : Stage} {rest : List Stage}
  {content text : Value} {written : String}

theorem advance_of_ended {ending : Except Fault String} (ended : thread.ending? = some ending) :
    thread.advance can s = (thread, s) := by
  simp only [advance, Progress.eq_ended_of_ending? ended]

theorem advance_of_no_stage (standing : thread.progress = .rendering [] content written) :
    thread.advance can s = ({ thread with progress := .ended (.ok written) }, s) := by
  simp only [advance, standing]

theorem advance_of_rendering {answer : Except Fault Value} {s' : σ}
    (standing : thread.progress = .rendering (stage :: rest) content written)
    (rendered : can.render stage.template (stageContext thread.context content stage.template) s =
      (answer, s')) :
    thread.advance can s =
      (thread.did
        (.call ⟨stage.template, stageContext thread.context content stage.template, answer⟩)
        (.afterRender stage rest answer), s') := by
  simp only [advance, standing, rendered]

theorem advance_of_writing {answer : Except Fault Unit} {s' : σ}
    (standing : thread.progress = .writing stage rest text)
    (wrote : can.write stage.path text s = (answer, s')) :
    thread.advance can s =
      (thread.did (.write ⟨stage.path, text, answer⟩) (.afterWrite stage rest text answer), s') := by
  simp only [advance, standing, wrote]

theorem advance_of_announcing (standing : thread.progress = .announcing stage rest text) :
    thread.advance can s = ({ thread with progress := .rendering rest text stage.path },
      can.announce (stage.index + 1) thread.total stage.template stage.path s) := by
  simp only [advance, standing]

@[simp] theorem total_advance : (thread.advance can s).1.total = thread.total := by
  unfold advance
  split <;> rfl

@[simp] theorem context_advance : (thread.advance can s).1.context = thread.context := by
  unfold advance
  split <;> rfl

/-- All that an action of a thread can be to others: a rendering or a write that it adds to what it has
    done, an announcement, or nothing. -/
theorem advance_cases (thread : Thread) :
    (∃ template context, (thread.advance can s).1.actions =
        thread.actions ++ [.call ⟨template, context, (can.render template context s).1⟩] ∧
      (thread.advance can s).2 = (can.render template context s).2) ∨
    (∃ path text, (thread.advance can s).1.actions =
        thread.actions ++ [.write ⟨path, text, (can.write path text s).1⟩] ∧
      (thread.advance can s).2 = (can.write path text s).2) ∨
    (thread.advance can s).1.actions = thread.actions ∧ ((thread.advance can s).2 = s ∨
      ∃ number total template path,
        (thread.advance can s).2 = can.announce number total template path s) := by
  cases standing : thread.progress with
  | ended ending =>
      have ended : thread.ending? = some ending := congrArg Progress.ending? standing
      rw [advance_of_ended can s ended]
      exact Or.inr (Or.inr ⟨rfl, Or.inl rfl⟩)
  | rendering stages content written =>
      cases stages with
      | nil =>
          rw [advance_of_no_stage can s standing]
          exact Or.inr (Or.inr ⟨rfl, Or.inl rfl⟩)
      | cons stage rest =>
          rw [advance_of_rendering can s standing rfl]
          exact Or.inl ⟨_, _, rfl, rfl⟩
  | writing stage rest text =>
      rw [advance_of_writing can s standing rfl]
      exact Or.inr (Or.inl ⟨_, _, rfl, rfl⟩)
  | announcing stage rest text =>
      rw [advance_of_announcing can s standing]
      exact Or.inr (Or.inr ⟨rfl, Or.inr ⟨_, _, _, _, rfl⟩⟩)

/-- Every action of a thread brings it nearer to its end. -/
theorem actionsLeft_advance_lt (unended : thread.ending? = none) :
    (thread.advance can s).1.progress.actionsLeft < thread.progress.actionsLeft := by
  cases standing : thread.progress with
  | ended ending => simp [ending?, standing, Progress.ending?] at unended
  | rendering stages content written =>
      cases stages with
      | nil => simp [advance_of_no_stage can s standing, Progress.actionsLeft]
      | cons stage rest =>
          rw [advance_of_rendering can s standing rfl]
          cases (can.render stage.template _ s).1 with
          | error cause => simp [did, Progress.afterRender, Progress.actionsLeft]
          | ok text =>
              simp only [did, Progress.afterRender, Progress.actionsLeft, List.length_cons]
              omega
  | writing stage rest text =>
      rw [advance_of_writing can s standing rfl]
      cases (can.write stage.path text s).1 with
      | error cause => simp [did, Progress.afterWrite, Progress.actionsLeft]
      | ok => simp [did, Progress.afterWrite, Progress.actionsLeft]
  | announcing stage rest text =>
      simp [advance_of_announcing can s standing, Progress.actionsLeft]

end Advance

/-! ### Threads that nobody disturbs -/

/-- A thread goes on while no other one does. -/
def Alone (can : Capabilities σ) : Thread × σ → Thread × σ → Prop :=
  Relation.ReflTransGen (fun now next =>
    now.1.ending? = none ∧ next = now.1.advance can now.2)

theorem alone_step (can : Capabilities σ) {thread : Thread} (s : σ)
    (unended : thread.ending? = none) : Alone can (thread, s) (thread.advance can s) :=
  Relation.ReflTransGen.single ⟨unended, rfl⟩

/-- Any number of steps of a thread that nobody disturbs. -/
theorem alone_iterate (can : Capabilities σ) (count : Nat) (now : Thread × σ) :
    Alone can now ((fun now : Thread × σ => now.1.advance can now.2)^[count] now) := by
  induction count generalizing now with
  | zero => exact .refl
  | succ count ih =>
      rw [Function.iterate_succ_apply]
      cases ended : now.1.ending? with
      | none => exact (alone_step can now.2 ended).trans (ih _)
      | some ending =>
          rw [advance_of_ended can now.2 ended]
          exact ih now

/-- An undisturbed thread runs its next stage as a stage is run. Behind it, it has ended or the other
    stages are left. -/
theorem alone_stage (can : Capabilities σ) {stage : Stage} {rest : List Stage} {content : Value}
    {written : String} {thread : Thread} (s : σ)
    (standing : thread.progress = .rendering (stage :: rest) content written) :
    match runStage can thread.context stage content s with
    | (.error fault, s') =>
      ∃ last, Alone can (thread, s) (last, s') ∧ last.ending? = some (.error fault)
    | (.ok text, s') =>
      ∃ next, Alone can (thread, s)
          (next, can.announce (stage.index + 1) thread.total stage.template stage.path s') ∧
        next.progress = .rendering rest text stage.path ∧ next.total = thread.total ∧
        next.context = thread.context := by
  have unended : thread.ending? = none := congrArg Progress.ending? standing
  simp only [runStage]
  cases rendered : can.render stage.template (stageContext thread.context content stage.template) s with
  | mk answer s₁ =>
      have first := alone_step can s unended
      rw [advance_of_rendering can s standing rendered] at first
      cases answer with
      | error cause => exact ⟨_, first, rfl⟩
      | ok text =>
          cases wrote : can.write stage.path text s₁ with
          | mk answer s₂ =>
              have second := first.trans (alone_step can s₁ rfl)
              rw [advance_of_writing can s₁ rfl wrote] at second
              simp only [wrote]
              cases answer with
              | error cause => exact ⟨_, second, rfl⟩
              | ok => exact ⟨_, second.trans (alone_step can s₂ rfl), rfl, rfl, rfl⟩

/-- An undisturbed thread that has stages left runs them as a chain is run. -/
theorem alone_rendering (can : Capabilities σ) (stages : List Stage) (content : Value)
    (written : String) (thread : Thread) (s : σ)
    (standing : thread.progress = .rendering stages content written) :
    ∃ last, Alone can (thread, s) (last,
        (runStages can thread.total thread.context stages content written s).2) ∧
      last.ending? =
        some (runStages can thread.total thread.context stages content written s).1 := by
  induction stages generalizing content written thread s with
  | nil =>
      have unended : thread.ending? = none := congrArg Progress.ending? standing
      have last := alone_step can s unended
      rw [advance_of_no_stage can s standing] at last
      exact ⟨_, last, rfl⟩
  | cons stage rest ih =>
      have front := alone_stage can s standing
      simp only [runStages]
      cases ran : runStage can thread.context stage content s with
      | mk answer s' =>
          rw [ran] at front
          cases answer with
          | error fault => exact front
          | ok text =>
              obtain ⟨next, reached, left, sameTotal, sameContext⟩ := front
              obtain ⟨last, alone, ending⟩ := ih text stage.path next _ left
              rw [sameTotal, sameContext] at alone ending
              exact ⟨last, reached.trans alone, ending⟩

/-- An undisturbed thread makes the file of its job as `process` does. -/
theorem alone_start (can : Capabilities σ) (job : ChainJob) (s : σ) :
    ∃ last, Alone can (start job, s) (last, (process can job.file job.context s).2) ∧
      last.ending? = some (process can job.file job.context s).1 := by
  simp only [start, process, processName]
  cases pathOf job.file with
  | error fault => exact ⟨_, .refl, rfl⟩
  | ok path =>
      by_cases chained : (ChainName.parse path).hasChain = true
      · simp only [if_pos chained]
        cases entriesOf job.context with
        | error fault => exact ⟨_, .refl, rfl⟩
        | ok context =>
            simp only [applyChain, List.length_map]
            exact alone_rendering can _ _ _ ⟨_, context, _, []⟩ s rfl
      · simp only [if_neg chained]
        exact ⟨_, .refl, rfl⟩

end Thread

/-! ### What the chain of a job allows -/

/-- The actions that may follow from where the work stands, and how it then ends. -/
inductive Progress.Leads (context : Entries) :
    Progress → List Action → Except Fault String → Prop where
  | rendering {stages : List Stage} {content : Value} {written : String} {actions : List Action}
      {ending : Except Fault String}
      (run : StagesRun context stages content written actions ending) :
      Leads context (.rendering stages content written) actions ending
  | writeFailed (stage : Stage) (rest : List Stage) (text : Value) (cause : Fault) :
      Leads context (.writing stage rest text) [.write ⟨stage.path, text, .error cause⟩]
        (.error (.stage .writing stage.index stage.template stage.path cause))
  | written {stage : Stage} {rest : List Stage} {text : Value} {actions : List Action}
      {ending : Except Fault String}
      (run : StagesRun context rest text stage.path actions ending) :
      Leads context (.writing stage rest text) (.write ⟨stage.path, text, .ok ()⟩ :: actions) ending
  | announcing {stage : Stage} {rest : List Stage} {text : Value} {actions : List Action}
      {ending : Except Fault String}
      (run : StagesRun context rest text stage.path actions ending) :
      Leads context (.announcing stage rest text) actions ending
  | ended (ending : Except Fault String) : Leads context (.ended ending) [] ending

theorem exists_stagesRun (context : Entries) (stages : List Stage) (content : Value)
    (written : String) : ∃ actions ending, StagesRun context stages content written actions ending := by
  cases stages with
  | nil => exact ⟨_, _, .done content written⟩
  | cons stage rest => exact ⟨_, _, .renderFailed stage rest content written .index⟩

/-- The writes of stages go to their paths. -/
theorem StagesRun.path_of_mem_writes {context : Entries} {stages : List Stage} {content : Value}
    {written : String} {actions : List Action} {ending : Except Fault String}
    (run : StagesRun context stages content written actions ending) :
    ∀ write ∈ writesOf actions, write.path ∈ stages.map Stage.path := by
  induction run with
  | done content written => simp [writesOf]
  | renderFailed stage rest content written cause => simp [writesOf]
  | writeFailed stage rest content written text cause => simp [writesOf]
  | stage stage rest content written text actions ending _ ih =>
      intro write mem
      rcases List.mem_cons.1 mem with rfl | mem
      · exact List.mem_cons_self
      · exact List.mem_cons_of_mem _ (ih write mem)

/-- From wherever the work stands it can go on to some end. -/
theorem Progress.exists_leads (context : Entries) (progress : Progress) :
    ∃ actions ending, progress.Leads context actions ending := by
  cases progress with
  | rendering stages content written =>
      obtain ⟨actions, ending, run⟩ := exists_stagesRun context stages content written
      exact ⟨actions, ending, .rendering run⟩
  | writing stage rest text => exact ⟨_, _, .writeFailed stage rest text .index⟩
  | announcing stage rest text =>
      obtain ⟨actions, ending, run⟩ := exists_stagesRun context rest text stage.path
      exact ⟨actions, ending, .announcing run⟩
  | ended ending => exact ⟨_, _, .ended ending⟩

/-- Whatever may follow an action of a thread may follow, with that action in front, from where the
    thread stood before. -/
theorem Thread.leads_of_advance (can : Capabilities σ) (thread : Thread) (s : σ) :
    ∃ done, (thread.advance can s).1.actions = thread.actions ++ done ∧
      ∀ actions ending, (thread.advance can s).1.progress.Leads thread.context actions ending →
        thread.progress.Leads thread.context (done ++ actions) ending := by
  cases standing : thread.progress with
  | ended ending =>
      have ended : thread.ending? = some ending := congrArg Progress.ending? standing
      rw [advance_of_ended can s ended, standing]
      exact ⟨[], by simp, fun actions ending leads => leads⟩
  | rendering stages content written =>
      cases stages with
      | nil =>
          rw [advance_of_no_stage can s standing]
          refine ⟨[], by simp, fun actions ending leads => ?_⟩
          cases leads with
          | ended => exact .rendering (.done content written)
      | cons stage rest =>
          rw [advance_of_rendering can s standing rfl]
          refine ⟨_, rfl, fun actions ending leads => ?_⟩
          cases answer : (can.render stage.template
              (stageContext thread.context content stage.template) s).1 with
          | error cause =>
              rw [answer] at leads
              cases leads with
              | ended => exact .rendering (.renderFailed stage rest content written cause)
          | ok text =>
              rw [answer] at leads
              cases leads with
              | writeFailed _ _ _ cause =>
                  exact .rendering (.writeFailed stage rest content written text cause)
              | written run =>
                  exact .rendering (.stage stage rest content written text _ ending run)
  | writing stage rest text =>
      rw [advance_of_writing can s standing rfl]
      refine ⟨_, rfl, fun actions ending leads => ?_⟩
      cases answer : (can.write stage.path text s).1 with
      | error cause =>
          rw [answer] at leads
          cases leads with
          | ended => exact .writeFailed stage rest text cause
      | ok =>
          rw [answer] at leads
          cases leads with
          | announcing run => exact .written run
  | announcing stage rest text =>
      rw [advance_of_announcing can s standing]
      refine ⟨[], by simp, fun actions ending leads => ?_⟩
      cases leads with
      | rendering run => exact .announcing run

/-- The chain of a job allows these actions and this ending, whoever answers them. -/
def ChainJob.Allows (job : ChainJob) (actions : List Action) (ending : Except Fault String) : Prop :=
  (Thread.start job).progress.Leads (Thread.start job).context actions ending

/-- The path that the chain of a job ends in, if its file is a path. -/
def ChainJob.base? (job : ChainJob) : Option String :=
  (pathOf job.file).toOption.map (fun path => (ChainName.parse path).base)

/-- The file of the job carries a chain. -/
def ChainJob.hasChain (job : ChainJob) : Bool :=
  match job.file with
  | .str path => (ChainName.parse path).hasChain
  | _ => false

namespace Thread

/-- A thread has nothing to do, or it has the stages of the chain that the file of its job carries. If
    there is a chain and nothing to do, the context is at fault. -/
theorem start_cases (job : ChainJob) :
    (∃ ending, start job = ⟨0, [], .ended ending, []⟩ ∧
      (job.hasChain = true → ∃ fault, ending = .error fault)) ∨
    ∃ path base templates context, job.file = .str path ∧
      ChainName.parse path = ⟨base, templates⟩ ∧ templates ≠ [] ∧
      entriesOf job.context = .ok context ∧
      start job = ⟨templates.length, context,
        .rendering (plan base (templates.map .str)) (initialContent context) base, []⟩ := by
  simp only [start, ChainJob.hasChain]
  cases file : job.file with
  | str path =>
      simp only [pathOf]
      by_cases chained : (ChainName.parse path).hasChain = true
      · simp only [if_pos chained]
        cases entriesOf job.context with
        | error fault => exact Or.inl ⟨_, rfl, fun _ => ⟨fault, rfl⟩⟩
        | ok context =>
            have nonempty : (ChainName.parse path).templates ≠ [] := by
              simpa [ChainName.hasChain] using chained
            exact Or.inr ⟨path, _, _, context, rfl, rfl, nonempty, rfl, rfl⟩
      · simp only [if_neg chained]
        exact Or.inl ⟨_, rfl, fun carries => absurd carries chained⟩
  | _ => exact Or.inl ⟨_, rfl, nofun⟩

/-- At first a thread has done nothing. -/
theorem actions_start (job : ChainJob) : (start job).actions = [] := by
  rcases start_cases job with ⟨ending, started, -⟩ | ⟨_, _, _, _, _, _, _, _, started⟩
  · rw [started]
  · rw [started]

/-- A thread is on its way through what the chain of a job allows. -/
structure WorksOn (thread : Thread) (job : ChainJob) : Prop where
  total : thread.total = (start job).total
  context : thread.context = (start job).context
  /-- What may follow completes what was done to something that is allowed. -/
  leads : ∀ actions ending, thread.progress.Leads thread.context actions ending →
    job.Allows (thread.actions ++ actions) ending

theorem worksOn_start (job : ChainJob) : (start job).WorksOn job where
  total := rfl
  context := rfl
  leads actions ending leads := by
    rw [actions_start]
    exact leads

namespace WorksOn

variable {thread : Thread} {job : ChainJob} (works : thread.WorksOn job)
include works

theorem advance (can : Capabilities σ) (s : σ) : (thread.advance can s).1.WorksOn job where
  total := (total_advance can s).trans works.total
  context := (context_advance can s).trans works.context
  leads actions ending leads := by
    obtain ⟨done, added, before⟩ := leads_of_advance can thread s
    rw [context_advance] at leads
    rw [added, List.append_assoc]
    exact works.leads (done ++ actions) ending (before actions ending leads)

/-- A thread that has ended has done what the chain of its job allows. -/
theorem allows_of_ended {ending : Except Fault String} (ended : thread.ending? = some ending) :
    job.Allows thread.actions ending := by
  have leads := works.leads [] ending
  rw [List.append_nil, Progress.eq_ended_of_ending? ended] at leads
  exact leads (.ended ending)

/-- A thread writes the files of its chain, each of which reads back as the base of the job. -/
theorem base_of_mem_writes {write : Write} (mem : write ∈ thread.writes) :
    job.base? = some (ChainName.parse write.path).base := by
  obtain ⟨actions, ending, leads⟩ := thread.progress.exists_leads thread.context
  have allowed := works.leads actions ending leads
  have inWhole : write ∈ writesOf (thread.actions ++ actions) := by
    rw [writesOf_append]
    exact List.mem_append_left _ mem
  rcases start_cases job with ⟨ending, started, -⟩ |
    ⟨path, base, templates, context, file, parsed, nonempty, -, started⟩
  · rw [ChainJob.Allows, started] at allowed
    generalize thread.actions ++ actions = whole at allowed inWhole
    cases allowed with
    | ended => simp [writesOf] at inWhole
  · rw [ChainJob.Allows, started] at allowed
    cases allowed with
    | rendering run =>
        have isStage := run.path_of_mem_writes write inWhole
        rw [map_path_plan, mem_stagePaths] at isStage
        obtain ⟨k, -, place⟩ := isStage
        rw [← place, ChainName.parse_stagePath_of_parse parsed nonempty]
        simp [ChainJob.base?, file, pathOf, parsed, Except.toOption]

end WorksOn

end Thread

end LayeredFiles
