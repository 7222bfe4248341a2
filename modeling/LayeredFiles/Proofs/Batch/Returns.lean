import LayeredFiles.Proofs.Batch.Driver
import LayeredFiles.Proofs.Batch.Independence
/-
Module: LayeredFiles.Proofs.Batch.Returns
Layer: Proofs
Purpose: what a batch gives back. It returns when everybody who waits was told, and then every job has one
  result, at its own place and about its own file: how the chain of the job ended, or that the time was
  over, which only happens within a limit. What others do in the meantime takes no result away and changes
  none. Working through the jobs one after another is one of the schedules, and where there is no limit
  and the answers do not depend on the state, all schedules return what it returns.
Main exports: Answer.result, Item.result?, Item.Reason, PathStore.ending_eq_process, Item.Settles,
  Driver.Returns, Driver.exists_returns, Driver.results_complete, Driver.returns_runBatch,
  Driver.returns_eq_runBatch
-/

namespace LayeredFiles

variable {σ : Type}

namespace ChainResult

/-- The path of the file that was made, if it was. -/
def output? (result : ChainResult) : Option String :=
  match result.outcome with
  | .made path => some path
  | .failed _ => none

/-- What kept the file from being made, if anything. -/
def error? (result : ChainResult) : Option String :=
  match result.outcome with
  | .made _ => none
  | .failed detail => some detail

/-- A file that was made has a path and no error, any other an error and no path. -/
theorem isMade_eq (result : ChainResult) :
    result.output?.isSome = result.isMade ∧ result.error?.isNone = result.isMade := by
  unfold output? error? isMade
  cases result.outcome <;> exact ⟨rfl, rfl⟩

end ChainResult

/-- The result of a job about which this was told. -/
def Answer.result (timeout : Value) (job : ChainJob) : Answer → ChainResult
  | .ended ending => resultOf job ending
  | .late => outOfTime timeout job
  | .refused fault => resultOf job (.error fault)

/-- What is told about a chain that ended like this, if nobody had to wait. -/
def Answer.prompt (timeout : Value) (ending : Except Fault String) : Answer :=
  match leavesNoTime timeout with
  | .error fault => .refused fault
  | .ok true => .late
  | .ok false => .ended ending

theorem Answer.file_result (timeout : Value) (job : ChainJob) (answer : Answer) :
    (answer.result timeout job).file = job.file := by
  cases answer with
  | ended ending => exact file_resultOf job ending
  | late => rfl
  | refused fault => rfl

/-- The result of a job, once somebody was told. -/
def Item.result? (timeout : Value) (item : Item) : Option ChainResult :=
  item.answer.map (Answer.result timeout item.job)

/-! ### What decides a result -/

/-- Why a job has its result: its chain has made a file or failed in time, its time was over, or nobody
    could wait for such a time. -/
inductive Item.Reason (timeout : Value) (item : Item) : Outcome → Prop where
  | made (path : String) (answered : item.answer = some (.ended (.ok path)))
      (ended : item.thread.ending? = some (.ok path))
      (allowed : item.job.Allows item.thread.actions (.ok path)) : Reason timeout item (.made path)
  | failed (fault : Fault) (answered : item.answer = some (.ended (.error fault)))
      (ended : item.thread.ending? = some (.error fault))
      (allowed : item.job.Allows item.thread.actions (.error fault)) :
      Reason timeout item (.failed fault.message)
  | late (answered : item.answer = some .late) (isGiven : timeout ≠ .null) :
      Reason timeout item (.failed ("Timed out after " ++ timeout.display ++ "s"))
  | refused (fault : Fault) (answered : item.answer = some (.refused fault))
      (noLimit : leavesNoTime timeout = .error fault) : Reason timeout item (.failed fault.message)

theorem Item.Orderly.reason {timeout : Value} {item : Item} (orderly : item.Orderly timeout)
    {answer : Answer} (answered : item.answer = some answer) :
    item.Reason timeout (answer.result timeout item.job).outcome := by
  cases answer with
  | ended ending =>
      obtain ⟨-, ended, -⟩ := orderly.of_ended ending answered
      have allowed := orderly.works.allows_of_ended ended
      cases ending with
      | ok path => exact .made path answered ended allowed
      | error fault => exact .failed fault answered ended allowed
  | late => exact .late answered (orderly.of_late answered).1
  | refused fault => exact .refused fault answered (orderly.of_refused fault answered)

namespace PathStore

variable {can : Capabilities σ}

/-- Where the store decides all answers, a thread ends as its job does when it is worked on alone, from
    whatever state. -/
theorem ending_eq_process (store : PathStore can) {job : ChainJob} {thread : Thread}
    (works : thread.WorksOn job) (gives : ∀ action ∈ thread.actions, store.Gives action)
    {ending : Except Fault String} (ended : thread.ending? = some ending) (s : σ) :
    ending = (process can job.file job.context s).1 := by
  obtain ⟨crew, steps, endings, -⟩ := Crew.steps_processAll can [job] s
  have inRange : 0 < crew.threads.length := by
    rw [Crew.length_threads_of_steps steps]
    exact Nat.one_pos
  have isThread := List.getElem?_eq_getElem inRange
  have ended' : crew.threads[0].ending? = some (process can job.file job.context s).1 := by
    have first := congrArg (fun endings => endings[0]?) endings
    simpa [Crew.endings, isThread, processAll] using first
  exact (store.unique_of_allows (works.allows_of_ended ended)
    ((Crew.worksOn_of_steps steps isThread rfl).allows_of_ended ended') gives
    (Crew.gives_of_steps store steps isThread)).2

end PathStore

/-- What decides the result of a job: the limit, the job and what was told about it, and nothing else. -/
structure Item.Settles (can : Capabilities σ) (timeout : Value) (item : Item) (job : ChainJob)
    (result : ChainResult) : Prop where
  sameJob : item.job = job
  told : ∃ answer, item.answer = some answer ∧ result = answer.result timeout job
  file : result.file = job.file
  reason : item.Reason timeout result.outcome
  /-- Where the answers do not depend on the state, the chain ended as it does when the job is worked on
      alone. -/
  alone : ∀ (_ : PathStore can) (ending : Except Fault String),
    item.answer = some (.ended ending) → ∀ s, ending = (process can job.file job.context s).1

namespace Driver

variable {can : Capabilities σ} {timeout : Value} {driver driver' : Driver σ} {slots : Nat}
  {jobs : List ChainJob} {s : σ} {results : List ChainResult}

/-- The batch returns these results, in the order of its jobs. -/
def Returns (timeout : Value) (driver : Driver σ) (results : List ChainResult) : Prop :=
  driver.items.map (Item.result? timeout) = results.map some

/-- A batch returns as soon as everybody was told. -/
theorem Answered.returns (timeout : Value) (answered : driver.Answered) :
    ∃ results, driver.Returns timeout results := by
  have told : ∀ item ∈ driver.items, (item.result? timeout).isSome = true := by
    intro item mem
    rw [Item.result?, Option.isSome_map]
    exact Option.isSome_iff_ne_none.2 (answered item mem)
  refine ⟨driver.items.pmap (fun item told => (item.result? timeout).get told) told, ?_⟩
  simp only [Returns, List.map_pmap, Option.some_get, List.pmap_eq_map]

/-- Whatever has happened so far, a batch with a slot can go on until it returns. -/
theorem exists_returns (positive : 0 < slots) (steps : Steps can timeout (start slots jobs s) driver) :
    ∃ last results, Steps can timeout driver last ∧ last.Returns timeout results := by
  obtain ⟨last, others, answered⟩ := exists_answered positive driver steps
  obtain ⟨results, returns⟩ := Answered.returns timeout answered
  exact ⟨last, results, others, returns⟩

/-- The result at a place is that of the job there. -/
theorem Returns.result_of_item (returns : driver.Returns timeout results) {i : Nat} {item : Item}
    (isItem : driver.items[i]? = some item) :
    ∃ answer, item.answer = some answer ∧
      results[i]? = some (answer.result timeout item.job) := by
  have place := congrArg (fun results => results[i]?) returns
  simp only [List.getElem?_map, isItem, Option.map_some] at place
  obtain ⟨result, isResult, same⟩ := Option.map_eq_some_iff.1 place.symm
  obtain ⟨answer, answered, rfl⟩ := Option.map_eq_some_iff.1 same.symm
  exact ⟨answer, answered, isResult⟩

theorem Returns.length_results (returns : driver.Returns timeout results)
    (steps : Steps can timeout (start slots jobs s) driver) : results.length = jobs.length := by
  have lengths := congrArg List.length returns
  rw [List.length_map, List.length_map, length_items_of_steps steps, start, List.length_map] at lengths
  exact lengths.symm

theorem settles_of_steps (steps : Steps can timeout (start slots jobs s) driver) {i : Nat} {item : Item}
    (isItem : driver.items[i]? = some item) {answer : Answer} (answered : item.answer = some answer) :
    item.Settles can timeout item.job (answer.result timeout item.job) := by
  have orderly := orderly_of_steps steps isItem
  refine ⟨rfl, ⟨answer, answered, rfl⟩, answer.file_result timeout item.job, orderly.reason answered,
    fun store ending same s' => ?_⟩
  obtain ⟨-, ended, -⟩ := orderly.of_ended ending same
  have threads := steps_crew steps
  rw [crew_start] at threads
  have isThread : driver.crew.threads[i]? = some item.thread := by simp [crew, isItem]
  exact store.ending_eq_process orderly.works (Crew.gives_of_steps store threads isThread) ended s'

/-- A result that is there at some time is there for good. -/
theorem result_of_steps (before : Steps can timeout (start slots jobs s) driver)
    (since : Steps can timeout driver driver') {i : Nat} {item item' : Item}
    (isItem : driver.items[i]? = some item) (isItem' : driver'.items[i]? = some item')
    {result : ChainResult} (isResult : item.result? timeout = some result) :
    item'.result? timeout = some result := by
  obtain ⟨answer, answered, rfl⟩ := Option.map_eq_some_iff.1 isResult
  have sameJob : item.job = item'.job := by
    have isJob := job_of_steps before isItem
    rw [job_of_steps (before.trans since) isItem', Option.some.injEq] at isJob
    exact isJob.symm
  rw [Item.result?, answer_of_steps since isItem isItem' answered, sameJob]
  rfl

/-- From every state that a batch gets into it can go on until it returns. When it returns, it has one
    result for every job, at the place of the job, and every result is settled by its job. A file was made
    if and only if the result has a path, and if and only if it has no error. A result that was there at
    some time is returned, whatever happened to others since. -/
theorem results_complete (positive : 0 < slots)
    (steps : Steps can timeout (start slots jobs s) driver) :
    (∃ last results, Steps can timeout driver last ∧ last.Returns timeout results) ∧
    ∀ results, driver.Returns timeout results → results.length = jobs.length ∧
      (∀ result ∈ results,
        result.output?.isSome = result.isMade ∧ result.error?.isNone = result.isMade) ∧
      ∀ (i : Nat) (job : ChainJob), jobs[i]? = some job → ∃ item result,
        driver.items[i]? = some item ∧ results[i]? = some result ∧
        item.Settles can timeout job result ∧
        ∀ (earlier : Driver σ) (item' : Item) (result' : ChainResult),
          Steps can timeout (start slots jobs s) earlier → Steps can timeout earlier driver →
          earlier.items[i]? = some item' → item'.result? timeout = some result' →
          result' = result := by
  refine ⟨exists_returns positive steps, fun results returns =>
    ⟨returns.length_results steps, fun result _ => result.isMade_eq, fun i job isJob => ?_⟩⟩
  have inRange : i < driver.items.length := by
    rw [length_items_of_steps steps, start, List.length_map]
    exact (List.getElem?_eq_some_iff.1 isJob).1
  have isItem := List.getElem?_eq_getElem inRange
  generalize driver.items[i] = item at isItem
  have isJob' := job_of_steps steps isItem
  obtain rfl : job = item.job := Option.some.inj (isJob.symm.trans isJob')
  obtain ⟨answer, answered, isResult⟩ := returns.result_of_item isItem
  refine ⟨item, _, isItem, isResult, settles_of_steps steps isItem answered,
    fun earlier item' result' before since isItem' isResult' => ?_⟩
  have kept := result_of_steps before since isItem' isItem isResult'
  rw [Item.result?, answered] at kept
  exact (Option.some.inj kept).symm

end Driver

/-! ### One after another -/

namespace Item

variable {can : Capabilities σ} {timeout : Value} {i : Nat}

/-- A thread that runs and that nobody disturbs. -/
theorem steps_of_alone {now last : Thread × σ} (alone : Thread.Alone can now last) (job : ChainJob)
    (free idle : Nat) (inFlight : List Nat) :
    Steps can timeout i (⟨job, now.1, .running, false, none⟩, ⟨free, idle, inFlight, now.2⟩)
      (⟨job, last.1, .running, false, none⟩, ⟨free, idle, inFlight, last.2⟩) := by
  induction alone with
  | refl => exact .refl
  | tail _ step ih =>
      obtain ⟨unended, rfl⟩ := step
      exact ih.tail (.advance _ _ rfl unended)

/-- A job that finds a slot and a worker can be brought to its end at once. -/
theorem steps_prompt {job : ChainJob} {s s' : σ} {last : Thread} {ending : Except Fault String}
    (alone : Thread.Alone can (.start job, s) (last, s')) (ended : last.ending? = some ending)
    (free idle : Nat) (inFlight : List Nat) :
    Steps can timeout i (start job, ⟨free + 1, idle + 1, inFlight, s⟩)
      (⟨job, last, .finished, true, some (.prompt timeout ending)⟩,
        ⟨free + 1, idle + 1, inFlight ++ [i], s'⟩) := by
  let before : Item × Pool σ := (start job, ⟨free + 1, idle + 1, inFlight, s⟩)
  have submitted : Steps can timeout i before
      (⟨job, .start job, .queued, false, none⟩, ⟨free, idle + 1, inFlight ++ [i], s⟩) :=
    .single (.submit _ _ rfl (Nat.succ_pos free))
  have begun : Steps can timeout i before
      (⟨job, .start job, .running, false, none⟩, ⟨free, idle, inFlight ++ [i], s⟩) :=
    submitted.tail (.begin _ _ rfl (Nat.succ_pos idle))
  have ran := begun.trans (steps_of_alone alone job free idle (inFlight ++ [i]))
  have finished : Steps can timeout i before
      (⟨job, last, .finished, false, none⟩, ⟨free, idle + 1, inFlight ++ [i], s'⟩) :=
    ran.tail (.finish _ _ ending rfl ended)
  have done : Steps can timeout i before
      (⟨job, last, .finished, true, none⟩, ⟨free + 1, idle + 1, inFlight ++ [i], s'⟩) :=
    finished.tail (.release _ _ rfl rfl)
  refine done.tail ?_
  unfold Answer.prompt
  cases limit : leavesNoTime timeout with
  | error fault => exact .refuse _ _ fault rfl nofun limit
  | ok noTime =>
      cases noTime with
      | false => exact .answer _ _ ending rfl rfl ended limit
      | true =>
          have isGiven : timeout ≠ .null := fun none => by
            rw [none] at limit
            cases limit
          exact .timeOut _ _ true rfl nofun limit isGiven

end Item

namespace Driver

variable {can : Capabilities σ} {timeout : Value} {driver driver' : Driver σ} {slots : Nat}
  {jobs : List ChainJob} {s : σ} {results : List ChainResult}

/-- The results of jobs whose chains ended like this, if nobody had to wait. -/
def promptResults (timeout : Value) (jobs : List ChainJob) (endings : List (Except Fault String)) :
    List ChainResult :=
  List.zipWith (fun job ending => (Answer.prompt timeout ending).result timeout job) jobs endings

/-- Behind jobs to which nothing happens, others can be brought to their ends one after another. -/
theorem steps_processAll_behind (can : Capabilities σ) (timeout : Value) (front : List Item)
    (jobs : List ChainJob) (free idle : Nat) (inFlight : List Nat) (s : σ) :
    ∃ items inFlight', Steps can timeout
        ⟨front ++ jobs.map Item.start, ⟨free + 1, idle + 1, inFlight, s⟩⟩
        ⟨front ++ items, ⟨free + 1, idle + 1, inFlight', (processAll can jobs s).2⟩⟩ ∧
      items.map (Item.result? timeout) =
        (promptResults timeout jobs (processAll can jobs s).1).map some := by
  induction jobs generalizing front inFlight s with
  | nil => exact ⟨[], inFlight, .refl, rfl⟩
  | cons job rest ih =>
      obtain ⟨last, alone, ended⟩ := Thread.alone_start can job s
      let answer := Answer.prompt timeout (process can job.file job.context s).1
      let served : Item := ⟨job, last, .finished, true, some answer⟩
      have first : Steps can timeout
          ⟨front ++ (job :: rest).map Item.start, ⟨free + 1, idle + 1, inFlight, s⟩⟩
          ⟨(front ++ [served]) ++ rest.map Item.start,
            ⟨free + 1, idle + 1, inFlight ++ [front.length],
              (process can job.file job.context s).2⟩⟩ := by
        have isItem : (front ++ (job :: rest).map Item.start)[front.length]? =
            some (Item.start job) := by simp
        have steps : Steps can timeout
            ⟨front ++ (job :: rest).map Item.start, ⟨free + 1, idle + 1, inFlight, s⟩⟩ _ :=
          steps_of_item (Item.steps_prompt alone ended free idle inFlight) isItem rfl
        simpa using steps
      obtain ⟨items, inFlight', others, results⟩ :=
        ih (front ++ [served]) (inFlight ++ [front.length]) (process can job.file job.context s).2
      refine ⟨served :: items, inFlight', ?_, ?_⟩
      · simpa [processAll] using first.trans others
      · simp [results, served, answer, Item.result?, promptResults, processAll]

/-- Of three jobs the last is handed over first and is late, then the second fails and the first makes its
    file; the results are in the order of the jobs. -/
theorem results_complete_of_mixed :
    ∃ (driver : Driver World) (results : List ChainResult),
      Steps wrapping.chains (.int 2)
        (start 2 [⟨.str "a._x", .null⟩, ⟨.str "b._gone", .null⟩, ⟨.str "c._y", .null⟩] emptyWorld)
        driver ∧
      driver.Returns (.int 2) results ∧ results.length = 3 ∧
      results.map ChainResult.output? = [some "a", none, none] ∧
      ∃ item, driver.items[2]? = some item ∧ item.phase = .queued ∧
        item.Reason (.int 2) (.failed "Timed out after 2s") := by
  let made : ChainJob := ⟨.str "a._x", .null⟩
  let failed : ChainJob := ⟨.str "b._gone", .null⟩
  let late : ChainJob := ⟨.str "c._y", .null⟩
  let waiting : Item := ⟨late, .start late, .queued, false, some .late⟩
  have submitted : Item.Steps wrapping.chains (.int 2) 2
      (.start late, (⟨2, 2, [], emptyWorld⟩ : Pool World))
      (⟨late, .start late, .queued, false, none⟩, ⟨1, 2, [2], emptyWorld⟩) :=
    .single (.submit _ _ rfl Nat.two_pos)
  have timedOut : Item.Steps wrapping.chains (.int 2) 2
      (.start late, (⟨2, 2, [], emptyWorld⟩ : Pool World)) (waiting, ⟨1, 2, [2], emptyWorld⟩) :=
    submitted.tail (.timeOut _ _ false rfl nofun rfl nofun)
  let failing := process wrapping.chains failed.file failed.context emptyWorld
  let making := process wrapping.chains made.file made.context failing.2
  obtain ⟨last₁, alone₁, ended₁⟩ := Thread.alone_start wrapping.chains failed emptyWorld
  obtain ⟨last₀, alone₀, ended₀⟩ := Thread.alone_start wrapping.chains made failing.2
  have first : Steps wrapping.chains (.int 2) (start 2 [made, failed, late] emptyWorld)
      ⟨[.start made, .start failed, waiting], ⟨1, 2, [2], emptyWorld⟩⟩ :=
    steps_of_item timedOut rfl rfl
  have second := first.trans
    (steps_of_item (Item.steps_prompt (i := 1) alone₁ ended₁ 0 1 [2]) rfl rfl)
  have third := second.trans
    (steps_of_item (Item.steps_prompt (i := 0) alone₀ ended₀ 0 1 [2, 1]) rfl rfl)
  have returns : Returns (.int 2) (⟨[⟨made, last₀, .finished, true, some (.prompt (.int 2) making.1)⟩,
      ⟨failed, last₁, .finished, true, some (.prompt (.int 2) failing.1)⟩, waiting],
      ⟨1, 2, [2, 1, 0], making.2⟩⟩ : Driver World)
      [(Answer.prompt (.int 2) making.1).result (.int 2) made,
        (Answer.prompt (.int 2) failing.1).result (.int 2) failed, outOfTime (.int 2) late] := rfl
  obtain ⟨number, -, places⟩ := (results_complete Nat.two_pos third).2 _ returns
  obtain ⟨item, result, isItem, isResult, settles, -⟩ := places 2 late rfl
  obtain rfl : waiting = item := Option.some.inj isItem
  obtain rfl : outOfTime (.int 2) late = result := Option.some.inj isResult
  exact ⟨_, _, third, returns, number, by decide, waiting, rfl, rfl, settles.reason⟩

theorem checkParallel_of_pos (positive : 0 < slots) : checkParallel (.int slots) = .ok () := by
  have notLess : compare (slots : Int) 1 ≠ .lt := by
    rw [ne_eq, Int.compare_eq_lt]
    omega
  have order : Value.isOrdered "<" (· == .lt) (.int slots) (.int 1) = .ok false := by
    simp [Value.isOrdered, Value.compare?, Value.text?, Value.numeral?, Value.Numeral.compare?,
      notLess]
  rw [checkParallel, order]
  rfl

/-- A list that is zipped with one of the same length, which does not matter, is mapped. -/
theorem zipWith_left {α β γ : Type} {l : List α} {m : List β} (lengths : m.length = l.length)
    (f : α → γ) : List.zipWith (fun a _ => f a) l m = l.map f := by
  refine List.ext_getElem (by simp [lengths]) (fun i inRange inRange' => ?_)
  simp

/-- What `runBatch` gives is what a batch gives in which nobody had to wait. -/
theorem runBatch_eq_promptResults (can : Capabilities σ) (timeout : Value) (jobs : List ChainJob) (s : σ)
    (positive : 0 < slots) :
    (runBatch can (.int slots) timeout jobs s).1 =
        .ok (promptResults timeout jobs (processAll can jobs s).1) ∧
      (leavesNoTime timeout = .ok false →
        (runBatch can (.int slots) timeout jobs s).2 = (processAll can jobs s).2) := by
  have lengths := length_processAll can jobs s
  simp only [runBatch, checkParallel_of_pos positive, runJobs_eq_processAll, promptResults,
    Answer.prompt]
  cases leavesNoTime timeout with
  | error fault =>
      simp [Answer.result, zipWith_left lengths]
  | ok noTime =>
      cases noTime with
      | false => simp [Answer.result]
      | true => simp [Answer.result, zipWith_left lengths]

/-- `runBatch` is one of the schedules: a batch can return what it gives and leave the state that it
    leaves, if there is any time. -/
theorem returns_runBatch (can : Capabilities σ) (timeout : Value) (jobs : List ChainJob) (s : σ)
    (positive : 0 < slots) :
    ∃ driver results, Steps can timeout (start slots jobs s) driver ∧
      driver.Returns timeout results ∧ (runBatch can (.int slots) timeout jobs s).1 = .ok results ∧
      (leavesNoTime timeout = .ok false →
        driver.pool.state = (runBatch can (.int slots) timeout jobs s).2) := by
  obtain ⟨fewer, rfl⟩ : ∃ fewer, slots = fewer + 1 := ⟨slots - 1, by omega⟩
  obtain ⟨items, inFlight, steps, results⟩ :=
    steps_processAll_behind can timeout [] jobs fewer fewer [] s
  obtain ⟨returned, left⟩ := runBatch_eq_promptResults can timeout jobs s positive
  exact ⟨_, _, steps, results, returned, fun hasTime => (left hasTime).symm⟩

/-- Where there is no limit and the answers do not depend on the state, every schedule returns what
    `runBatch` gives, and if the chains have different bases, it leaves the files that `runBatch`
    leaves. -/
theorem returns_eq_runBatch (store : PathStore can) (positive : 0 < slots)
    (steps : Steps can .null (start slots jobs s) driver) (returns : driver.Returns .null results) :
    (runBatch can (.int slots) .null jobs s).1 = .ok results ∧
      (BasesDiffer jobs → store.content driver.pool.state =
        store.content (runBatch can (.int slots) .null jobs s).2) := by
  obtain ⟨returned, left⟩ := runBatch_eq_promptResults can .null jobs s positive
  have threads := steps_crew steps
  rw [crew_start] at threads
  -- Without a limit, whoever was told anything was told how a thread ended.
  have told : ∀ (i : Nat) (item : Item), driver.items[i]? = some item → ∃ ending,
      item.thread.ending? = some ending ∧ results[i]? = some (resultOf item.job ending) := by
    intro i item isItem
    have orderly := orderly_of_steps steps isItem
    obtain ⟨answer, answered, isResult⟩ := returns.result_of_item isItem
    cases answer with
    | ended ending => exact ⟨ending, (orderly.of_ended ending answered).2.1, isResult⟩
    | late => exact absurd rfl (orderly.of_late answered).1
    | refused fault => exact nomatch orderly.of_refused fault answered
  have done : driver.crew.Done := by
    intro thread isThread
    obtain ⟨item, mem, rfl⟩ := List.mem_map.1 isThread
    obtain ⟨i, isItem⟩ := List.mem_iff_getElem?.1 mem
    obtain ⟨ending, ended, -⟩ := told i item isItem
    rw [ended]
    nofun
  have endings := Crew.endings_eq_processAll store threads done
  refine ⟨?_, fun differ => ?_⟩
  · rw [returned]
    have lengths := returns.length_results steps
    have sameLength := length_processAll can jobs s
    refine congrArg Except.ok (List.ext_getElem (by simp [promptResults, lengths, sameLength])
      (fun i _ inRange => ?_))
    have inJobs : i < jobs.length := lengths ▸ inRange
    have inItems : i < driver.items.length := by
      rw [length_items_of_steps steps, start, List.length_map]
      exact inJobs
    have isItem := List.getElem?_eq_getElem inItems
    obtain ⟨ending, ended, isResult⟩ := told i _ isItem
    have isJob := job_of_steps steps isItem
    have place := congrArg (fun endings => endings[i]?) endings
    simp only [Crew.endings, crew, List.getElem?_map, isItem, Option.map_some, ended] at place
    obtain ⟨ending', isEnding, same⟩ := Option.map_eq_some_iff.1 place.symm
    obtain ⟨_, rfl⟩ := List.getElem?_eq_some_iff.1 isEnding
    obtain ⟨_, sameResult⟩ := List.getElem?_eq_some_iff.1 isResult
    obtain ⟨_, sameJob⟩ := List.getElem?_eq_some_iff.1 isJob
    simp only [promptResults, List.getElem_zipWith, sameJob, Option.some.inj same, sameResult]
    rfl
  · rw [left rfl]
    exact ((Crew.interleavings_agree store differ threads).2.2 _ .refl done).2

end Driver

end LayeredFiles
