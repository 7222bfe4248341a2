import LayeredFiles.Proofs.Batch.Crew
import LayeredFiles.Proofs.Chain.Contract
import Mathlib.Data.List.Pairwise
import Mathlib.Logic.Function.Basic
/-
Module: LayeredFiles.Proofs.Batch.Independence
Layer: Proofs
Purpose: chains whose files have different bases do not get in each other's way. No path can be a file of
  two of them, since every file of a chain reads back as the base of the chain. Where answers depend on
  what is asked alone and files are kept by the texts of their paths, all interleavings of such chains
  end in the same way and leave the same files, those of the chains run one after another.
Main exports: PathStore, keyed, PathStore.keyed, PathStore.foresee, PathStore.unique_of_allows,
  BasesDiffer, Crew.eq_of_write_path_eq, Crew.threads_eq_of_done, Crew.content_eq_of_done,
  Crew.interleavings_agree
-/

namespace LayeredFiles

variable {σ : Type} {can : Capabilities σ}

/-! ### Files kept by their paths -/

/-- Files that are kept by the texts of their paths, for capabilities whose answers are functions of what
    they are asked. A write that fails may leave anything under its own path, but nothing elsewhere. -/
structure PathStore (can : Capabilities σ) where
  text : Value → Entries → Except Fault Value
  accepts : String → Value → Except Fault Unit
  /-- What is kept under a path, if anything. -/
  content : σ → String → Option Value
  /-- What the write of a value leaves under its path, where something was kept before. -/
  left : String → Value → Option Value → Option Value
  left_of_accepted : ∀ path new old, accepts path new = .ok () → left path new old = some new
  render_answer : ∀ template context s, (can.render template context s).1 = text template context
  render_content : ∀ template context s, content (can.render template context s).2 = content s
  write_answer : ∀ path new s, (can.write path new s).1 = accepts path new
  write_content : ∀ path new s, content (can.write path new s).2 =
    Function.update (content s) path (left path new (content s path))
  announce_content : ∀ number total template path s,
    content (can.announce number total template path s) = content s

/-- Capabilities over nothing but the map from paths to what is kept there. What is not accepted is not
    written. -/
def keyed (text : Value → Entries → Except Fault Value) (accepts : String → Value → Except Fault Unit) :
    Capabilities (String → Option Value) where
  render template context kept := (text template context, kept)
  write path new kept :=
    match accepts path new with
    | .error fault => (.error fault, kept)
    | .ok () => (.ok (), Function.update kept path (some new))
  announce _ _ _ _ kept := kept

namespace PathStore

/-- The map is a store. -/
def keyed (text : Value → Entries → Except Fault Value)
    (accepts : String → Value → Except Fault Unit) : PathStore (LayeredFiles.keyed text accepts) where
  text := text
  accepts := accepts
  content kept := kept
  left path new old :=
    match accepts path new with
    | .error _ => old
    | .ok () => some new
  left_of_accepted path new old accepted := by rw [accepted]
  render_answer _ _ _ := rfl
  render_content _ _ _ := rfl
  write_answer path new kept := by
    simp only [LayeredFiles.keyed]
    cases accepts path new <;> rfl
  write_content path new kept := by
    simp only [LayeredFiles.keyed]
    cases accepts path new with
    | error fault => simp
    | ok => rfl
  announce_content _ _ _ _ _ := rfl

@[simp] theorem content_keyed (text : Value → Entries → Except Fault Value)
    (accepts : String → Value → Except Fault Unit) (kept : String → Option Value) :
    (PathStore.keyed text accepts).content kept = kept := rfl

variable (store : PathStore can)

/-- What is kept after a write. -/
def after (kept : String → Option Value) (write : Write) : String → Option Value :=
  Function.update kept write.path (store.left write.path write.content (kept write.path))

/-- Of some writes only those to a path matter for what is kept there. -/
theorem foldl_after_filter (writes : List Write) (path : String)
    (kept kept' : String → Option Value) (same : kept path = kept' path) :
    writes.foldl store.after kept path =
      (writes.filter (fun write => write.path = path)).foldl store.after kept' path := by
  induction writes generalizing kept kept' with
  | nil => exact same
  | cons write rest ih =>
      by_cases here : write.path = path
      · rw [List.filter_cons_of_pos (by simpa using here), List.foldl_cons, List.foldl_cons]
        refine ih _ _ ?_
        simp [after, here, same]
      · rw [List.filter_cons_of_neg (by simpa using here), List.foldl_cons]
        refine ih _ _ ?_
        simp [after, Function.update_of_ne (Ne.symm here), same]

/-- The writes to a store tell what it keeps. -/
theorem tells (start : σ) :
    Crew.Tells can
      (fun writes s => store.content s = writes.foldl store.after (store.content start)) where
  render writes template context s holds := by rw [store.render_content, holds]
  write writes path new s holds := by
    rw [store.write_content, List.foldl_append, ← holds]
    rfl
  announce writes number total template path s holds := by rw [store.announce_content, holds]

/-- The answer of an action is the one that the store gives. -/
def Gives : Action → Prop
  | .call call => call.answer = store.text call.template call.context
  | .write write => write.answer = store.accepts write.path write.content

theorem gives_advance {thread : Thread} (gives : ∀ action ∈ thread.actions, store.Gives action)
    (s : σ) : ∀ action ∈ (thread.advance can s).1.actions, store.Gives action := by
  rcases thread.advance_cases can s with ⟨template, context, actions, -⟩ | ⟨path, text, actions, -⟩ |
    ⟨actions, -⟩
  · rw [actions, List.forall_mem_append, List.forall_mem_singleton]
    exact ⟨gives, store.render_answer template context s⟩
  · rw [actions, List.forall_mem_append, List.forall_mem_singleton]
    exact ⟨gives, store.write_answer path text s⟩
  · rw [actions]
    exact gives

end PathStore

/-! ### Answers decide what a chain does -/

namespace PathStore

variable (store : PathStore can)

/-- What stages do and how they end, as the answers of the store have it. -/
def foresee (context : Entries) :
    List Stage → Value → String → List Action × Except Fault String
  | [], _, written => ([], .ok written)
  | stage :: rest, content, _ =>
    let given := stageContext context content stage.template
    match store.text stage.template given with
    | .error cause =>
      ([.call ⟨stage.template, given, .error cause⟩], .error (renderFault stage cause))
    | .ok text =>
      match store.accepts stage.path text with
      | .error cause =>
        ([.call ⟨stage.template, given, .ok text⟩, .write ⟨stage.path, text, .error cause⟩],
          .error (.stage .writing stage.index stage.template stage.path cause))
      | .ok () =>
        let others := foresee context rest text stage.path
        (.call ⟨stage.template, given, .ok text⟩ :: .write ⟨stage.path, text, .ok ()⟩ :: others.1,
          others.2)

/-- Stages whose actions are answered by the store do what was foreseen. -/
theorem foresee_of_stagesRun {context : Entries} {stages : List Stage} {content : Value}
    {written : String} {actions : List Action} {ending : Except Fault String}
    (run : StagesRun context stages content written actions ending)
    (gives : ∀ action ∈ actions, store.Gives action) :
    store.foresee context stages content written = (actions, ending) := by
  induction run with
  | done content written => rfl
  | renderFailed stage rest content written cause =>
      simp only [List.forall_mem_cons, Gives] at gives
      obtain ⟨rendered, -⟩ := gives
      simp only [foresee, ← rendered]
  | writeFailed stage rest content written text cause =>
      simp only [List.forall_mem_cons, Gives] at gives
      obtain ⟨rendered, wrote, -⟩ := gives
      simp only [foresee, ← rendered, ← wrote]
  | stage stage rest content written text actions ending _ ih =>
      simp only [List.forall_mem_cons, Gives] at gives
      obtain ⟨rendered, wrote, others⟩ := gives
      simp only [foresee, ← rendered, ← wrote, ih others]

/-- The answers of the store leave a job one way to its end. -/
theorem unique_of_allows {job : ChainJob} {actions actions' : List Action}
    {ending ending' : Except Fault String} (allowed : job.Allows actions ending)
    (allowed' : job.Allows actions' ending') (gives : ∀ action ∈ actions, store.Gives action)
    (gives' : ∀ action ∈ actions', store.Gives action) :
    actions = actions' ∧ ending = ending' := by
  rcases Thread.start_cases job with ⟨only, started, -⟩ | ⟨_, _, _, _, _, _, _, _, started⟩
  · rw [ChainJob.Allows, started] at allowed allowed'
    cases allowed with
    | ended =>
        cases allowed' with
        | ended => exact ⟨rfl, rfl⟩
  · rw [ChainJob.Allows, started] at allowed allowed'
    cases allowed with
    | rendering run =>
        cases allowed' with
        | rendering run' =>
            have foreseen := store.foresee_of_stagesRun run gives
            rw [store.foresee_of_stagesRun run' gives', Prod.mk.injEq] at foreseen
            exact ⟨foreseen.1.symm, foreseen.2.symm⟩

end PathStore

/-! ### Chains with different bases -/

/-- The chains of the jobs end in different paths. -/
def BasesDiffer (jobs : List ChainJob) : Prop := (jobs.filterMap ChainJob.base?).Nodup

instance (jobs : List ChainJob) : Decidable (BasesDiffer jobs) :=
  inferInstanceAs (Decidable (List.Nodup _))

/-- What is found at one place of a list only tells the place. -/
theorem index_eq_of_nodup_filterMap {α β : Type} {f : α → Option β} {l : List α}
    (differ : (l.filterMap f).Nodup) {i j : Nat} {a a' : α} {b : β} (isElement : l[i]? = some a)
    (isElement' : l[j]? = some a') (found : f a = some b) (found' : f a' = some b) : i = j := by
  rw [List.Nodup, List.pairwise_filterMap, List.pairwise_iff_getElem] at differ
  obtain ⟨iInRange, rfl⟩ := List.getElem?_eq_some_iff.1 isElement
  obtain ⟨jInRange, rfl⟩ := List.getElem?_eq_some_iff.1 isElement'
  rcases Nat.lt_trichotomy i j with before | same | behind
  · exact absurd rfl (differ i j iInRange jInRange before b found b found')
  · exact same
  · exact absurd rfl (differ j i jInRange iInRange behind b found' b found)

namespace Crew

variable {jobs : List ChainJob} {s : σ} {crew crew' : Crew σ}

/-- No path is written by two threads of chains with different bases. -/
theorem eq_of_write_path_eq (differ : BasesDiffer jobs) (steps : Steps can (start jobs s) crew)
    {i j : Nat} {thread other : Thread} (isThread : crew.threads[i]? = some thread)
    (isOther : crew.threads[j]? = some other) {write write' : Write} (mem : write ∈ thread.writes)
    (mem' : write' ∈ other.writes) (same : write.path = write'.path) : i = j := by
  obtain ⟨job, isJob⟩ := exists_job_of_steps steps isThread
  obtain ⟨job', isJob'⟩ := exists_job_of_steps steps isOther
  have isBase := (worksOn_of_steps steps isThread isJob).base_of_mem_writes mem
  have isBase' := (worksOn_of_steps steps isOther isJob').base_of_mem_writes mem'
  rw [← same] at isBase'
  exact index_eq_of_nodup_filterMap differ isJob isJob' isBase isBase'

/-- All actions of a crew are answered as the store has it. -/
theorem gives_of_steps (store : PathStore can) (steps : Steps can (start jobs s) crew) {i : Nat}
    {thread : Thread} (isThread : crew.threads[i]? = some thread) :
    ∀ action ∈ thread.actions, store.Gives action := by
  refine forall_thread_of_steps (fun _ thread => ∀ action ∈ thread.actions, store.Gives action)
    (fun _ _ s gives => store.gives_advance gives s) steps (fun i thread isThread => ?_)
    i thread isThread
  rw [start, List.getElem?_map] at isThread
  obtain ⟨job, -, rfl⟩ := Option.map_eq_some_iff.1 isThread
  simp [Thread.actions_start]

/-- Crews that have come to their ends have done the same, however they were interleaved. -/
theorem threads_eq_of_done (store : PathStore can) (steps : Steps can (start jobs s) crew)
    (steps' : Steps can (start jobs s) crew') (done : crew.Done) (done' : crew'.Done) :
    crew.threads = crew'.threads := by
  have sameLength : crew.threads.length = crew'.threads.length := by
    rw [length_threads_of_steps steps, length_threads_of_steps steps']
  refine List.ext_getElem sameLength (fun i inRange inRange' => ?_)
  have isThread := List.getElem?_eq_getElem inRange
  have isThread' := List.getElem?_eq_getElem inRange'
  obtain ⟨job, isJob⟩ := exists_job_of_steps steps isThread
  have works := worksOn_of_steps steps isThread isJob
  have works' := worksOn_of_steps steps' isThread' isJob
  obtain ⟨ending, ended⟩ := Option.ne_none_iff_exists'.1 (done _ (List.getElem_mem inRange))
  obtain ⟨ending', ended'⟩ := Option.ne_none_iff_exists'.1 (done' _ (List.getElem_mem inRange'))
  obtain ⟨sameActions, rfl⟩ := store.unique_of_allows (works.allows_of_ended ended)
    (works'.allows_of_ended ended') (gives_of_steps store steps isThread)
    (gives_of_steps store steps' isThread')
  exact Thread.ext (works.total.trans works'.total.symm) (works.context.trans works'.context.symm)
    ((Progress.eq_ended_of_ending? ended).trans (Progress.eq_ended_of_ending? ended').symm)
    sameActions

/-- However they were interleaved, the threads end as the jobs do one after another. -/
theorem endings_eq_processAll (store : PathStore can) (steps : Steps can (start jobs s) crew)
    (done : crew.Done) : crew.endings = (processAll can jobs s).1.map some := by
  obtain ⟨ordered, inOrder, endings, -⟩ := steps_processAll can jobs s
  rw [← endings, Crew.endings,
    threads_eq_of_done store steps inOrder done (done_of_endings endings)]
  rfl

/-- The writes to a path that a log holds are those of the one thread whose chain may write there. -/
theorem filter_log_eq (differ : BasesDiffer jobs) (steps : Steps can (start jobs s) crew)
    {log : List (Nat × Write)} (isLog : crew.IsLog log) {path : String} {i : Nat} {job : ChainJob}
    (isJob : jobs[i]? = some job) (isBase : job.base? = some (ChainName.parse path).base) :
    (log.map Prod.snd).filter (fun write => write.path = path) =
      (ownWrites i log).filter (fun write => write.path = path) := by
  rw [ownWrites, List.filter_map, List.filter_map, List.filter_filter]
  congr 1
  refine List.filter_congr (fun entry mem => ?_)
  obtain ⟨thread, job', -, isJob', works, isWrite⟩ := exists_thread_of_mem_log steps isLog mem
  have isBase' := works.base_of_mem_writes isWrite
  by_cases here : entry.2.path = path
  · rw [here] at isBase'
    have owner := index_eq_of_nodup_filterMap differ isJob' isJob isBase' isBase
    simp [here, owner]
  · simp [here]

/-- A path that is no file of any chain is not in the log. -/
theorem filter_log_eq_nil (steps : Steps can (start jobs s) crew) {log : List (Nat × Write)}
    (isLog : crew.IsLog log) {path : String}
    (apart : ∀ job ∈ jobs, job.base? ≠ some (ChainName.parse path).base) :
    (log.map Prod.snd).filter (fun write => write.path = path) = [] := by
  refine List.filter_eq_nil_iff.2 (fun write isLogged here => ?_)
  obtain ⟨entry, mem, rfl⟩ := List.mem_map.1 isLogged
  obtain ⟨thread, job, -, isJob, works, isWrite⟩ := exists_thread_of_mem_log steps isLog mem
  have isBase := works.base_of_mem_writes isWrite
  rw [show entry.2.path = path by simpa using here] at isBase
  exact apart job (List.mem_of_getElem? isJob) isBase

/-- Crews that have come to their ends leave the same files, however they were interleaved. -/
theorem content_eq_of_done (store : PathStore can) (differ : BasesDiffer jobs)
    (steps : Steps can (start jobs s) crew) (steps' : Steps can (start jobs s) crew')
    (done : crew.Done) (done' : crew'.Done) : store.content crew.state = store.content crew'.state := by
  have sameThreads := threads_eq_of_done store steps steps' done done'
  obtain ⟨log, isLog, told⟩ := exists_log (store.tells s) rfl steps
  obtain ⟨log', isLog', told'⟩ := exists_log (store.tells s) rfl steps'
  funext path
  rw [told, told', store.foldl_after_filter (log.map Prod.snd) path _ _ rfl,
    store.foldl_after_filter (log'.map Prod.snd) path _ _ rfl]
  by_cases owned : ∃ job ∈ jobs, job.base? = some (ChainName.parse path).base
  · obtain ⟨job, mem, isBase⟩ := owned
    obtain ⟨i, isJob⟩ := List.mem_iff_getElem?.1 mem
    rw [filter_log_eq differ steps isLog isJob isBase,
      filter_log_eq differ steps' isLog' isJob isBase]
    have inRange : i < crew.threads.length := by
      rw [length_threads_of_steps steps, start, List.length_map]
      exact (List.getElem?_eq_some_iff.1 isJob).1
    have isThread := List.getElem?_eq_getElem inRange
    rw [← isLog.own i _ isThread, ← isLog'.own i _ (by rw [← sameThreads]; exact isThread)]
  · have apart : ∀ job ∈ jobs, job.base? ≠ some (ChainName.parse path).base :=
      fun job mem isBase => owned ⟨job, mem, isBase⟩
    rw [filter_log_eq_nil steps isLog apart, filter_log_eq_nil steps' isLog' apart]

/-- Chains with different bases are independent of one another. Their threads write no path in common.
    However far an interleaving has got, it can go on until every thread has ended; then every chain has
    ended as it does when the jobs are worked on one after another, and every path holds what it holds
    then. -/
theorem interleavings_agree (store : PathStore can) (differ : BasesDiffer jobs)
    (steps : Steps can (start jobs s) crew) :
    (∀ (i j : Nat) (thread other : Thread), i ≠ j → crew.threads[i]? = some thread →
      crew.threads[j]? = some other →
      ∀ write ∈ thread.writes, ∀ write' ∈ other.writes, write.path ≠ write'.path) ∧
    (∃ last, Steps can crew last ∧ last.Done) ∧
    ∀ last, Steps can crew last → last.Done →
      last.endings = (processAll can jobs s).1.map some ∧
      store.content last.state = store.content (processAll can jobs s).2 := by
  refine ⟨fun i j thread other apart isThread isOther write mem write' mem' same => ?_,
    exists_done can crew, fun last others done => ?_⟩
  · exact apart (eq_of_write_path_eq differ steps isThread isOther mem mem' same)
  · have steps := steps.trans others
    obtain ⟨ordered, inOrder, endings, state⟩ := steps_processAll can jobs s
    rw [content_eq_of_done store differ steps inOrder done (done_of_endings endings), state]
    exact ⟨endings_eq_processAll store steps done, rfl⟩

/-- Three jobs, the second of which fails at its second template and the third of which has nothing to do,
    taking turns. -/
theorem interleavings_agree_of_three :
    let can := keyed (fun template context => (wrapText template context).map .str)
      (fun _ _ => .ok ())
    let jobs : List ChainJob :=
      [⟨.str "out/a._p._q", .null⟩, ⟨.str "out/b._gone._r", .null⟩, ⟨.str "c", .null⟩]
    let crew := [0, 1, 1, 0, 0, 1, 0, 1, 0, 0, 0].foldl (act can) (start jobs (fun _ => none))
    BasesDiffer jobs ∧ crew.Done ∧
      crew.endings = (processAll can jobs (fun _ => none)).1.map some ∧
      crew.state = (processAll can jobs (fun _ => none)).2 := by
  intro can jobs crew
  have differ : BasesDiffer jobs := by decide
  have ended : crew.threads.all (fun thread => thread.ending?.isSome) = true := by decide
  have done : crew.Done := by
    intro thread mem unended
    have isSome := List.all_eq_true.1 ended thread mem
    rw [unended] at isSome
    cases isSome
  have steps : Steps can (start jobs (fun _ => none)) crew := steps_iff_exists_schedule.2 ⟨_, rfl⟩
  obtain ⟨-, -, agree⟩ := interleavings_agree (PathStore.keyed _ _) differ steps
  have agreed := agree crew .refl done
  rw [PathStore.content_keyed, PathStore.content_keyed] at agreed
  exact ⟨differ, done, agreed⟩

end Crew

end LayeredFiles
