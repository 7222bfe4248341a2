import LayeredFiles.Proofs.Batch.Thread
import Mathlib.Algebra.BigOperators.Group.List.Basic
import Mathlib.Algebra.GroupWithZero.Nat
/-
Module: LayeredFiles.Proofs.Batch.Crew
Layer: Proofs
Purpose: threads side by side. A crew is a list of threads over one state; in a step any thread that has
  not ended takes its next action, so the sequences of steps are the interleavings of the threads'
  actions. An action is not divided: nobody sees a file half written. Every crew comes to an end, whoever
  goes first. The writes of a crew form one log in the order in which they happened, of which every
  thread's writes are the part that is its own. Working through the jobs one after another is one of the
  interleavings.
Main exports: Crew, Crew.Step, Crew.Steps, Crew.forall_thread_of_steps, Crew.worksOn_of_steps,
  Crew.steps_iff_exists_schedule, Crew.exists_done, Crew.IsLog, Crew.exists_log, processAll,
  runJobs_eq_processAll, Crew.steps_processAll
-/

namespace LayeredFiles

variable {σ : Type}

/-- Threads that work on one state. -/
structure Crew (σ : Type) where
  threads : List Thread
  state : σ

namespace Crew

/-- The threads of some jobs, none of which has done anything. -/
def start (jobs : List ChainJob) (s : σ) : Crew σ := ⟨jobs.map Thread.start, s⟩

/-- A thread takes its next action. -/
inductive Step (can : Capabilities σ) : Crew σ → Crew σ → Prop where
  | advance (crew : Crew σ) (i : Nat) (thread : Thread) (isThread : crew.threads[i]? = some thread)
      (unended : thread.ending? = none) :
      Step can crew ⟨crew.threads.set i (thread.advance can crew.state).1,
        (thread.advance can crew.state).2⟩

/-- Any interleaving of the actions of the threads. -/
abbrev Steps (can : Capabilities σ) : Crew σ → Crew σ → Prop := Relation.ReflTransGen (Step can)

/-- How the threads ended, as far as they did. -/
def endings (crew : Crew σ) : List (Option (Except Fault String)) :=
  crew.threads.map Thread.ending?

/-- Every thread has ended. -/
def Done (crew : Crew σ) : Prop := ∀ thread ∈ crew.threads, thread.ending? ≠ none

variable {can : Capabilities σ}

/-! ### Threads of a crew -/

theorem length_threads_of_steps {crew crew' : Crew σ} (steps : Steps can crew crew') :
    crew'.threads.length = crew.threads.length := by
  induction steps with
  | refl => rfl
  | tail _ step ih =>
      cases step with
      | advance i thread isThread unended => simpa using ih

/-- What holds at every place of a list still does when one place has got something for which it holds. -/
theorem forall_of_set {α : Type} {Holds : Nat → α → Prop} {l : List α}
    (first : ∀ (i : Nat) (a : α), l[i]? = some a → Holds i a) {k : Nat} {new : α}
    (holds : Holds k new) : ∀ (i : Nat) (a : α), (l.set k new)[i]? = some a → Holds i a := by
  intro i a isElement
  by_cases here : k = i
  · subst here
    have inRange := (List.getElem?_eq_some_iff.1 isElement).1
    rw [List.length_set] at inRange
    rw [List.getElem?_set_self inRange, Option.some.injEq] at isElement
    exact isElement ▸ holds
  · rw [List.getElem?_set_ne here] at isElement
    exact first i a isElement

/-- What every action of a thread keeps, the threads of a crew keep. -/
theorem forall_thread_of_steps (Holds : Nat → Thread → Prop)
    (keeps : ∀ i thread s, Holds i thread → Holds i (thread.advance can s).1) {crew crew' : Crew σ}
    (steps : Steps can crew crew')
    (first : ∀ i thread, crew.threads[i]? = some thread → Holds i thread) :
    ∀ i thread, crew'.threads[i]? = some thread → Holds i thread := by
  induction steps with
  | refl => exact first
  | tail _ step ih =>
      cases step with
      | advance k worker isThread unended => exact forall_of_set ih (keeps _ _ _ (ih _ _ isThread))

/-- Every thread of a crew works on its job. -/
theorem worksOn_of_steps {jobs : List ChainJob} {s : σ} {crew : Crew σ}
    (steps : Steps can (start jobs s) crew) {i : Nat} {thread : Thread} {job : ChainJob}
    (isThread : crew.threads[i]? = some thread) (isJob : jobs[i]? = some job) :
    thread.WorksOn job := by
  refine forall_thread_of_steps (fun i thread => ∀ job, jobs[i]? = some job → thread.WorksOn job)
    ?_ steps ?_ i thread isThread job isJob
  · intro i thread s works job isJob
    exact (works job isJob).advance can s
  · intro i thread isThread job isJob
    rw [start, List.getElem?_map, isJob, Option.map_some, Option.some.injEq] at isThread
    exact isThread ▸ Thread.worksOn_start job

/-- The place of a thread has a job. -/
theorem exists_job_of_steps {jobs : List ChainJob} {s : σ} {crew : Crew σ}
    (steps : Steps can (start jobs s) crew) {i : Nat} {thread : Thread}
    (isThread : crew.threads[i]? = some thread) : ∃ job, jobs[i]? = some job := by
  have inRange := (List.getElem?_eq_some_iff.1 isThread).1
  rw [length_threads_of_steps steps, start, List.length_map] at inRange
  exact ⟨jobs[i], List.getElem?_eq_getElem inRange⟩

/-! ### Schedules -/

/-- The thread `i` takes its next action, if there is such a thread and it has not ended. -/
def act (can : Capabilities σ) (crew : Crew σ) (i : Nat) : Crew σ :=
  match crew.threads[i]? with
  | some thread =>
    ⟨crew.threads.set i (thread.advance can crew.state).1, (thread.advance can crew.state).2⟩
  | none => crew

theorem steps_act (can : Capabilities σ) (crew : Crew σ) (i : Nat) :
    Steps can crew (crew.act can i) := by
  unfold act
  split
  · rename_i thread isThread
    cases ended : thread.ending? with
    | none => exact .single (.advance crew i thread isThread ended)
    | some ending =>
        obtain ⟨inRange, same⟩ := List.getElem?_eq_some_iff.1 isThread
        rw [Thread.advance_of_ended can crew.state ended, ← same, List.set_getElem_self]
  · exact .refl

/-- The interleavings are the crews that the schedules lead to, which say whose turn it is. -/
theorem steps_iff_exists_schedule {crew crew' : Crew σ} :
    Steps can crew crew' ↔ ∃ schedule : List Nat, schedule.foldl (act can) crew = crew' := by
  constructor
  · intro steps
    induction steps with
    | refl => exact ⟨[], rfl⟩
    | tail _ step ih =>
        obtain ⟨schedule, rfl⟩ := ih
        cases step with
        | advance i thread isThread unended =>
            refine ⟨schedule ++ [i], ?_⟩
            rw [List.foldl_append, List.foldl_cons, List.foldl_nil, act, isThread]
  · rintro ⟨schedule, rfl⟩
    induction schedule generalizing crew with
    | nil => exact .refl
    | cons i rest ih => exact (steps_act can crew i).trans ih

/-! ### Every crew comes to an end -/

/-- The most actions that the threads may have left. -/
def actionsLeft (crew : Crew σ) : Nat :=
  (crew.threads.map (fun thread => thread.progress.actionsLeft)).sum

/-- A change at one place of a list changes a sum by what that place adds. -/
theorem sum_map_set {α : Type} (f : α → Nat) {l : List α} {i : Nat} {a : α}
    (isElement : l[i]? = some a) (a' : α) :
    ((l.set i a').map f).sum + f a = (l.map f).sum + f a' := by
  obtain ⟨inRange, rfl⟩ := List.getElem?_eq_some_iff.1 isElement
  -- The sum is that of the elements in front, the one at the place and those behind.
  have before := List.sum_take_add_sum_drop (l.map f) i
  rw [List.drop_eq_getElem_cons (by simpa using inRange), List.sum_cons, List.getElem_map] at before
  simp only [List.map_set, List.sum_set, List.length_map, if_pos inRange]
  omega

/-- Every step brings a crew nearer to its end. -/
theorem actionsLeft_lt_of_step {crew crew' : Crew σ} (step : Step can crew crew') :
    crew'.actionsLeft < crew.actionsLeft := by
  cases step with
  | advance i thread isThread unended =>
      have fewer := Thread.actionsLeft_advance_lt can crew.state unended
      have balance := sum_map_set (fun thread => thread.progress.actionsLeft) isThread
        (thread.advance can crew.state).1
      simp only [actionsLeft]
      omega

/-- Whatever was done so far, a crew can come to its end. -/
theorem exists_done (can : Capabilities σ) (crew : Crew σ) : ∃ last, Steps can crew last ∧ last.Done := by
  by_cases done : crew.Done
  · exact ⟨crew, .refl, done⟩
  · simp only [Done, not_forall, not_not] at done
    obtain ⟨thread, mem, unended⟩ := done
    obtain ⟨i, isThread⟩ := List.mem_iff_getElem?.1 mem
    have step : Step can crew _ := .advance crew i thread isThread unended
    have fewer := actionsLeft_lt_of_step step
    obtain ⟨last, steps, done⟩ := exists_done can
      ⟨crew.threads.set i (thread.advance can crew.state).1, (thread.advance can crew.state).2⟩
    exact ⟨last, steps.head step, done⟩
termination_by crew.actionsLeft

/-! ### The log of a crew -/

/-- The writes in a log that are those of the thread `i`. -/
def ownWrites (i : Nat) (log : List (Nat × Write)) : List Write :=
  (log.filter (fun entry => entry.1 = i)).map Prod.snd

theorem ownWrites_append (i : Nat) (first rest : List (Nat × Write)) :
    ownWrites i (first ++ rest) = ownWrites i first ++ ownWrites i rest := by
  simp [ownWrites]

theorem ownWrites_tagged (i k : Nat) (writes : List Write) :
    ownWrites i (writes.map (fun write => (k, write))) = if k = i then writes else [] := by
  by_cases same : k = i
  · simp [ownWrites, List.filter_map, Function.comp_def, same]
  · simp [ownWrites, List.filter_map, Function.comp_def, same]

/-- What can be told of a state and the writes that led to it. Rendering and announcing leave it as it
    is, and a write adds itself. -/
structure Tells (can : Capabilities σ) (Holds : List Write → σ → Prop) : Prop where
  render : ∀ writes template context s, Holds writes s →
    Holds writes (can.render template context s).2
  write : ∀ writes path text s, Holds writes s →
    Holds (writes ++ [⟨path, text, (can.write path text s).1⟩]) (can.write path text s).2
  announce : ∀ writes number total template path s, Holds writes s →
    Holds writes (can.announce number total template path s)

theorem Tells.advance {Holds : List Write → σ → Prop} (tells : Tells can Holds) (thread : Thread)
    {writes : List Write} {s : σ} (holds : Holds writes s) :
    ∃ new, (thread.advance can s).1.writes = thread.writes ++ new ∧
      Holds (writes ++ new) (thread.advance can s).2 := by
  simp only [Thread.writes]
  rcases thread.advance_cases can s with ⟨template, context, actions, state⟩ |
    ⟨path, text, actions, state⟩ | ⟨actions, same | ⟨number, total, template, path, told⟩⟩
  · rw [actions, state, writesOf_append]
    exact ⟨[], rfl, by simpa using tells.render _ _ _ _ holds⟩
  · rw [actions, state, writesOf_append]
    exact ⟨_, rfl, tells.write _ _ _ _ holds⟩
  · rw [actions, same]
    exact ⟨[], by simp, by simpa using holds⟩
  · rw [actions, told]
    exact ⟨[], by simp, by simpa using tells.announce _ _ _ _ _ _ holds⟩

/-- The writes of the threads of a crew, in the order in which they happened. -/
structure IsLog (crew : Crew σ) (log : List (Nat × Write)) : Prop where
  own : ∀ i thread, crew.threads[i]? = some thread → thread.writes = ownWrites i log
  inRange : ∀ entry ∈ log, entry.1 < crew.threads.length

/-- Every crew has a log, and the log tells of the state. -/
theorem exists_log {Holds : List Write → σ → Prop} (tells : Tells can Holds) {jobs : List ChainJob}
    {s : σ} (first : Holds [] s) {crew : Crew σ} (steps : Steps can (start jobs s) crew) :
    ∃ log, crew.IsLog log ∧ Holds (log.map Prod.snd) crew.state := by
  induction steps with
  | refl =>
      refine ⟨[], ⟨fun i thread isThread => ?_, fun _ mem => nomatch mem⟩, first⟩
      rw [start, List.getElem?_map] at isThread
      obtain ⟨job, -, rfl⟩ := Option.map_eq_some_iff.1 isThread
      rw [Thread.writes, Thread.actions_start]
      rfl
  | tail _ step ih =>
      obtain ⟨log, ⟨own, inRange⟩, holds⟩ := ih
      cases step with
      | advance k worker isWorker unended =>
          obtain ⟨new, added, holds⟩ := tells.advance worker holds
          refine ⟨log ++ new.map (fun write => (k, write)),
            ⟨fun i thread isThread => ?_, fun entry mem => ?_⟩, ?_⟩
          · rw [ownWrites_append, ownWrites_tagged]
            rw [List.getElem?_set] at isThread
            split at isThread
            · rename_i same
              subst same
              split at isThread
              · cases isThread
                rw [added, own _ _ isWorker, if_pos rfl]
              · cases isThread
            · rename_i other
              rw [if_neg other, List.append_nil]
              exact own i thread isThread
          · rw [List.length_set]
            rcases List.mem_append.1 mem with old | mem
            · exact inRange entry old
            · obtain ⟨write, -, rfl⟩ := List.mem_map.1 mem
              exact (List.getElem?_eq_some_iff.1 isWorker).1
          · simpa [Function.comp_def] using holds

/-- What is in the log was written by its thread, which works on a job. -/
theorem exists_thread_of_mem_log {jobs : List ChainJob} {s : σ} {crew : Crew σ}
    (steps : Steps can (start jobs s) crew) {log : List (Nat × Write)} (isLog : crew.IsLog log)
    {entry : Nat × Write} (mem : entry ∈ log) :
    ∃ thread job, crew.threads[entry.1]? = some thread ∧ jobs[entry.1]? = some job ∧
      thread.WorksOn job ∧ entry.2 ∈ thread.writes := by
  have isThread := List.getElem?_eq_getElem (isLog.inRange entry mem)
  obtain ⟨job, isJob⟩ := exists_job_of_steps steps isThread
  refine ⟨_, job, isThread, isJob, worksOn_of_steps steps isThread isJob, ?_⟩
  rw [isLog.own _ _ isThread]
  exact List.mem_map.2 ⟨entry, List.mem_filter.2 ⟨mem, by simp⟩, rfl⟩

/-! ### One after another -/

/-- What an undisturbed thread does, it can do in a crew. -/
theorem steps_of_alone {now last : Thread × σ} (alone : Thread.Alone can now last) {crew : Crew σ}
    {i : Nat} (isThread : crew.threads[i]? = some now.1) (isState : crew.state = now.2) :
    Steps can crew ⟨crew.threads.set i last.1, last.2⟩ := by
  obtain ⟨inRange, same⟩ := List.getElem?_eq_some_iff.1 isThread
  induction alone with
  | refl =>
      rw [← same, List.set_getElem_self, ← isState]
  | @tail now _ _ step ih =>
      obtain ⟨unended, rfl⟩ := step
      refine ih.tail ?_
      have advanced : Step can ⟨crew.threads.set i now.1, now.2⟩ _ :=
        .advance _ i now.1 (List.getElem?_set_self inRange) unended
      simpa using advanced

end Crew

/-- How some jobs end if they are worked on one after another, and what is left. -/
def processAll (can : Capabilities σ) : List ChainJob → σ → List (Except Fault String) × σ
  | [], s => ([], s)
  | job :: rest, s =>
    let (ending, s) := process can job.file job.context s
    let (endings, s) := processAll can rest s
    (ending :: endings, s)

/-- The results of jobs that are run one after another are those of their endings. -/
theorem runJobs_eq_processAll (can : Capabilities σ) (jobs : List ChainJob) (s : σ) :
    runJobs can jobs s =
      (List.zipWith resultOf jobs (processAll can jobs s).1, (processAll can jobs s).2) := by
  induction jobs generalizing s with
  | nil => rfl
  | cons job rest ih => simp only [runJobs, runJob, processAll, ih, List.zipWith_cons_cons]

theorem length_processAll (can : Capabilities σ) (jobs : List ChainJob) (s : σ) :
    (processAll can jobs s).1.length = jobs.length := by
  induction jobs generalizing s with
  | nil => rfl
  | cons job rest ih => simp only [processAll, List.length_cons, ih]

namespace Crew

/-- Behind threads that are left alone, those of the jobs can be brought to their ends one after
    another. -/
theorem steps_processAll_behind (can : Capabilities σ) (front : List Thread) (jobs : List ChainJob)
    (s : σ) :
    ∃ threads, Steps can ⟨front ++ jobs.map Thread.start, s⟩
        ⟨front ++ threads, (processAll can jobs s).2⟩ ∧
      threads.map Thread.ending? = (processAll can jobs s).1.map some := by
  induction jobs generalizing front s with
  | nil => exact ⟨[], .refl, rfl⟩
  | cons job rest ih =>
      obtain ⟨last, alone, ending⟩ := Thread.alone_start can job s
      have first : Steps can ⟨front ++ (job :: rest).map Thread.start, s⟩
          ⟨(front ++ [last]) ++ rest.map Thread.start, (process can job.file job.context s).2⟩ := by
        have isThread : (front ++ (job :: rest).map Thread.start)[front.length]? =
            some (Thread.start job) := by simp
        have steps : Steps can ⟨front ++ (job :: rest).map Thread.start, s⟩ _ :=
          steps_of_alone alone isThread rfl
        simpa using steps
      obtain ⟨threads, others, endings⟩ :=
        ih (front ++ [last]) (process can job.file job.context s).2
      refine ⟨last :: threads, ?_, by simp [ending, endings, processAll]⟩
      simpa [processAll] using first.trans others

/-- Working through the jobs one after another is an interleaving. -/
theorem steps_processAll (can : Capabilities σ) (jobs : List ChainJob) (s : σ) :
    ∃ crew, Steps can (start jobs s) crew ∧
      crew.endings = (processAll can jobs s).1.map some ∧ crew.state = (processAll can jobs s).2 := by
  obtain ⟨threads, steps, endings⟩ := steps_processAll_behind can [] jobs s
  exact ⟨_, steps, endings, rfl⟩

theorem done_of_endings {crew : Crew σ} {endings : List (Except Fault String)}
    (ended : crew.endings = endings.map some) : crew.Done := by
  intro thread mem unended
  have isEnding : thread.ending? ∈ crew.endings := List.mem_map_of_mem mem
  rw [ended, unended] at isEnding
  simp at isEnding

end Crew

end LayeredFiles
