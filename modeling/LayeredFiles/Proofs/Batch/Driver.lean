import LayeredFiles.Proofs.Batch.Crew
import LayeredFiles.Proofs.Chain.Contract
/-
Module: LayeredFiles.Proofs.Batch.Driver
Layer: Proofs
Purpose: a batch on its way. Every job asks for one of the slots, is handed over to the workers, runs in a
  thread of its own and gives its slot back when the thread is done, while somebody waits for its answer,
  for some time or for as long as it takes. Who does the next step is left open, so the sequences of
  steps are all schedules; there is no clock and no order among those who ask, so a limit may be over at
  any moment and a free slot may go to anybody. The relation is about the call until it returns: what is
  cancelled on the way out can start nothing any more. In every state the free slots and those that are
  held make up all slots, and every batch comes to its end.
Main exports: Phase, Answer, Item, Item.Step, Driver, Driver.Step, Driver.Steps, Driver.steps_crew,
  Driver.forall_item_of_steps, Item.Orderly, Driver.free_add_held, Driver.slots_kept,
  Driver.exists_answered
-/

namespace LayeredFiles

variable {σ : Type}

/-! ### Jobs on their way -/

/-- Where a job of a batch stands. -/
inductive Phase where
  /-- It asks for a slot. -/
  | asking
  /-- It has a slot and was handed over to the workers. -/
  | queued
  /-- A worker runs its chain. -/
  | running
  /-- Its chain has come to an end. -/
  | finished
deriving DecidableEq, Repr

/-- How often a job still moves on. -/
def Phase.stepsLeft : Phase → Nat
  | .asking => 3
  | .queued => 2
  | .running => 1
  | .finished => 0

/-- What the one who waits for a job was told. -/
inductive Answer where
  /-- The chain ended like this in time. -/
  | ended (ending : Except Fault String)
  /-- The time was over. -/
  | late
  /-- Nobody can wait for such a time. -/
  | refused (fault : Fault)

/-- A job of a batch: its thread, where it stands, whether it has given its slot back and what was told
    about it. -/
structure Item where
  job : ChainJob
  thread : Thread
  phase : Phase
  released : Bool
  answer : Option Answer

/-- What the jobs of a batch share: the slots that are free, the workers that have nothing to do, the
    places of the jobs that were handed over, in this order, and the state. -/
structure Pool (σ : Type) where
  free : Nat
  idle : Nat
  inFlight : List Nat
  state : σ

namespace Item

/-- A job before anything is done about it. -/
def start (job : ChainJob) : Item := ⟨job, .start job, .asking, false, none⟩

/-- The job was handed over and its slot is not free again. -/
def holdsSlot (item : Item) : Bool := item.phase ≠ .asking && !item.released

/-- A worker runs the chain of the job. -/
def isRunning (item : Item) : Bool := item.phase = .running

/-- The most that may still happen to the job. -/
def stepsLeft (item : Item) : Nat :=
  item.phase.stepsLeft + item.thread.progress.actionsLeft + (!item.released).toNat +
    item.answer.isNone.toNat

/-- What may happen to the job at place `i` of a batch, whose answers may be waited for as `timeout`
    says. The time may be over at any moment, also when the chain has just come to its end. -/
inductive Step (can : Capabilities σ) (timeout : Value) (i : Nat) :
    Item → Pool σ → Item → Pool σ → Prop where
  /-- It takes a slot that is free and is handed over to the workers. -/
  | submit (item : Item) (pool : Pool σ) (asks : item.phase = .asking) (isFree : 0 < pool.free) :
      Step can timeout i item pool { item with phase := .queued }
        { pool with free := pool.free - 1, inFlight := pool.inFlight ++ [i] }
  /-- A worker that is idle takes it. -/
  | begin (item : Item) (pool : Pool σ) (waits : item.phase = .queued) (isIdle : 0 < pool.idle) :
      Step can timeout i item pool { item with phase := .running } { pool with idle := pool.idle - 1 }
  /-- Its thread does the next action of its chain. -/
  | advance (item : Item) (pool : Pool σ) (runs : item.phase = .running)
      (unended : item.thread.ending? = none) :
      Step can timeout i item pool { item with thread := (item.thread.advance can pool.state).1 }
        { pool with state := (item.thread.advance can pool.state).2 }
  /-- Its chain has come to an end, and the worker is idle again. -/
  | finish (item : Item) (pool : Pool σ) (ending : Except Fault String)
      (runs : item.phase = .running) (ended : item.thread.ending? = some ending) :
      Step can timeout i item pool { item with phase := .finished } { pool with idle := pool.idle + 1 }
  /-- Its slot is given back, whether anybody still waits for it or not. -/
  | release (item : Item) (pool : Pool σ) (isFinished : item.phase = .finished)
      (isHeld : item.released = false) :
      Step can timeout i item pool { item with released := true } { pool with free := pool.free + 1 }
  /-- Who waits is told how its chain ended; without any time at all nobody gets that far. -/
  | answer (item : Item) (pool : Pool σ) (ending : Except Fault String)
      (unanswered : item.answer = none) (isFinished : item.phase = .finished)
      (ended : item.thread.ending? = some ending) (hasTime : leavesNoTime timeout = .ok false) :
      Step can timeout i item pool { item with answer := some (.ended ending) } pool
  /-- Who waits is told that the time is over. The thread, if there is one by now, goes on. -/
  | timeOut (item : Item) (pool : Pool σ) (noTime : Bool) (unanswered : item.answer = none)
      (submitted : item.phase ≠ .asking) (isLimit : leavesNoTime timeout = .ok noTime)
      (isGiven : timeout ≠ .null) :
      Step can timeout i item pool { item with answer := some .late } pool
  /-- Who waits is told that there is no waiting for such a time. -/
  | refuse (item : Item) (pool : Pool σ) (fault : Fault) (unanswered : item.answer = none)
      (submitted : item.phase ≠ .asking) (noLimit : leavesNoTime timeout = .error fault) :
      Step can timeout i item pool { item with answer := some (.refused fault) } pool

/-- What may happen to one job while nothing happens to the others. -/
abbrev Steps (can : Capabilities σ) (timeout : Value) (i : Nat) :
    Item × Pool σ → Item × Pool σ → Prop :=
  Relation.ReflTransGen (fun now next => Step can timeout i now.1 now.2 next.1 next.2)

end Item

/-- A batch on its way. -/
structure Driver (σ : Type) where
  items : List Item
  pool : Pool σ

namespace Driver

/-- A batch before anything is done, with so many slots and as many workers. -/
def start (slots : Nat) (jobs : List ChainJob) (s : σ) : Driver σ :=
  ⟨jobs.map Item.start, slots, slots, [], s⟩

/-- Something happens to one of the jobs. -/
inductive Step (can : Capabilities σ) (timeout : Value) : Driver σ → Driver σ → Prop where
  | item (driver : Driver σ) (i : Nat) (item item' : Item) (pool' : Pool σ)
      (isItem : driver.items[i]? = some item)
      (step : Item.Step can timeout i item driver.pool item' pool') :
      Step can timeout driver ⟨driver.items.set i item', pool'⟩

/-- Any schedule. -/
abbrev Steps (can : Capabilities σ) (timeout : Value) : Driver σ → Driver σ → Prop :=
  Relation.ReflTransGen (Step can timeout)

/-- The number of slots that are held. -/
def held (driver : Driver σ) : Nat := driver.items.countP Item.holdsSlot

/-- The number of chains that run in threads. -/
def running (driver : Driver σ) : Nat := driver.items.countP Item.isRunning

/-- The threads of the jobs. -/
def crew (driver : Driver σ) : Crew σ := ⟨driver.items.map Item.thread, driver.pool.state⟩

variable {can : Capabilities σ} {timeout : Value} {driver driver' : Driver σ}

/-- What may happen to one job may happen to it in a batch. -/
theorem steps_of_item {i : Nat} {now last : Item × Pool σ} (steps : Item.Steps can timeout i now last)
    (isItem : driver.items[i]? = some now.1) (isPool : driver.pool = now.2) :
    Steps can timeout driver ⟨driver.items.set i last.1, last.2⟩ := by
  obtain ⟨inRange, same⟩ := List.getElem?_eq_some_iff.1 isItem
  induction steps with
  | refl =>
      rw [← same, List.set_getElem_self, ← isPool]
  | @tail now next _ step ih =>
      refine ih.tail ?_
      have happens : Step can timeout ⟨driver.items.set i now.1, now.2⟩ _ :=
        .item _ i now.1 next.1 next.2 (List.getElem?_set_self inRange) step
      simpa using happens

/-! ### What holds of every job -/

theorem length_items_of_steps (steps : Steps can timeout driver driver') :
    driver'.items.length = driver.items.length := by
  induction steps with
  | refl => rfl
  | tail _ step ih =>
      cases step with
      | item => rw [List.length_set, ih]

/-- What is kept by all that may happen to a job, the jobs of a batch keep. -/
theorem forall_item_of_steps (Holds : Nat → Item → Prop)
    (keeps : ∀ (i : Nat) (item item' : Item) (pool pool' : Pool σ),
      Item.Step can timeout i item pool item' pool' → Holds i item → Holds i item')
    (steps : Steps can timeout driver driver')
    (first : ∀ (i : Nat) (item : Item), driver.items[i]? = some item → Holds i item) :
    ∀ (i : Nat) (item : Item), driver'.items[i]? = some item → Holds i item := by
  induction steps with
  | refl => exact first
  | tail _ step ih =>
      cases step with
      | item k worked worked' pool' isWorked step =>
          exact Crew.forall_of_set ih (keeps _ _ _ _ _ step (ih _ _ isWorked))

/-- At first every item is that of its job. -/
theorem exists_job_of_start {slots : Nat} {jobs : List ChainJob} {s : σ} {i : Nat} {item : Item}
    (isItem : (start slots jobs s).items[i]? = some item) :
    ∃ job, jobs[i]? = some job ∧ item = .start job := by
  rw [start, List.getElem?_map] at isItem
  obtain ⟨job, isJob, rfl⟩ := Option.map_eq_some_iff.1 isItem
  exact ⟨job, isJob, rfl⟩

end Driver

namespace Item

/-- What is done, told and given back about a job fits to where it stands. -/
structure Orderly (timeout : Value) (item : Item) : Prop where
  works : item.thread.WorksOn item.job
  /-- A slot is given back when the thread is done and not before. -/
  finished_of_released : item.released = true → item.phase = .finished
  ended_of_finished : item.phase = .finished → item.thread.ending? ≠ none
  submitted_of_answer : item.answer ≠ none → item.phase ≠ .asking
  /-- An answer of the chain is that of the thread, which is done. -/
  of_ended : ∀ ending, item.answer = some (.ended ending) →
    item.phase = .finished ∧ item.thread.ending? = some ending ∧ leavesNoTime timeout = .ok false
  of_late : item.answer = some .late →
    timeout ≠ .null ∧ ∃ noTime, leavesNoTime timeout = .ok noTime
  of_refused : ∀ fault, item.answer = some (.refused fault) → leavesNoTime timeout = .error fault

theorem orderly_start (timeout : Value) (job : ChainJob) : (start job).Orderly timeout where
  works := Thread.worksOn_start job
  finished_of_released released := nomatch released
  ended_of_finished isFinished := nomatch isFinished
  submitted_of_answer answered := absurd rfl answered
  of_ended _ answered := nomatch answered
  of_late answered := nomatch answered
  of_refused _ answered := nomatch answered

/-- A slot is not given back before the thread is done. -/
theorem Orderly.unreleased {timeout : Value} {item : Item} (orderly : item.Orderly timeout)
    (unfinished : item.phase ≠ .finished) : item.released = false :=
  Bool.eq_false_iff.2 (fun released => unfinished (orderly.finished_of_released released))

/-- Between its submission and the end of its thread a job holds its slot. -/
theorem Orderly.holdsSlot {timeout : Value} {item : Item} (orderly : item.Orderly timeout)
    (submitted : item.phase ≠ .asking) (unfinished : item.phase ≠ .finished) :
    item.holdsSlot = true := by
  simp [Item.holdsSlot, submitted, orderly.unreleased unfinished]

section Step

variable {can : Capabilities σ} {timeout : Value} {i : Nat} {item item' : Item} {pool pool' : Pool σ}

/-- All that may happen to a job leaves it orderly. -/
theorem Orderly.step (orderly : item.Orderly timeout)
    (step : Step can timeout i item pool item' pool') : item'.Orderly timeout := by
  cases step with
  | submit asks isFree =>
      have unfinished : item.phase ≠ .finished := by simp [asks]
      exact { orderly with
        finished_of_released := by simp [orderly.unreleased unfinished]
        ended_of_finished := fun isFinished => nomatch isFinished
        submitted_of_answer := fun _ => nofun
        of_ended := fun ending answered => absurd (orderly.of_ended ending answered).1 unfinished }
  | begin waits isIdle =>
      have unfinished : item.phase ≠ .finished := by simp [waits]
      exact { orderly with
        finished_of_released := by simp [orderly.unreleased unfinished]
        ended_of_finished := fun isFinished => nomatch isFinished
        submitted_of_answer := fun _ => nofun
        of_ended := fun ending answered => absurd (orderly.of_ended ending answered).1 unfinished }
  | advance runs unended =>
      have unfinished : item.phase ≠ .finished := by simp [runs]
      exact { orderly with
        works := orderly.works.advance can pool.state
        ended_of_finished := fun isFinished => absurd isFinished unfinished
        of_ended := fun ending answered => absurd (orderly.of_ended ending answered).1 unfinished }
  | finish ending runs ended =>
      exact { orderly with
        finished_of_released := fun _ => rfl
        ended_of_finished := fun _ => by simp [ended]
        submitted_of_answer := fun _ => nofun
        of_ended := fun ending answered => ⟨rfl, (orderly.of_ended ending answered).2⟩ }
  | release isFinished isHeld =>
      exact { orderly with finished_of_released := fun _ => isFinished }
  | answer ending unanswered isFinished ended hasTime =>
      exact { orderly with
        submitted_of_answer := fun _ => by simp [isFinished]
        of_ended := fun other answered => by
          obtain rfl : ending = other := by simpa using answered
          exact ⟨isFinished, ended, hasTime⟩
        of_late := fun answered => nomatch answered
        of_refused := fun _ answered => nomatch answered }
  | timeOut noTime unanswered submitted isLimit isGiven =>
      exact { orderly with
        submitted_of_answer := fun _ => submitted
        of_ended := fun _ answered => nomatch answered
        of_late := fun _ => ⟨isGiven, noTime, isLimit⟩
        of_refused := fun _ answered => nomatch answered }
  | refuse fault unanswered submitted noLimit =>
      exact { orderly with
        submitted_of_answer := fun _ => submitted
        of_ended := fun _ answered => nomatch answered
        of_late := fun answered => nomatch answered
        of_refused := fun other answered => by
          obtain rfl : fault = other := by simpa using answered
          exact noLimit }

/-- Nothing that happens makes a job another one. -/
theorem job_of_step (step : Step can timeout i item pool item' pool') : item'.job = item.job := by
  cases step <;> rfl

/-- What was told is not taken back. -/
theorem answer_of_step (step : Step can timeout i item pool item' pool') {answer : Answer}
    (answered : item.answer = some answer) : item'.answer = some answer := by
  cases step with
  | submit | begin | advance | finish | release => exact answered
  | answer _ unanswered | timeOut _ unanswered | refuse _ unanswered =>
      rw [unanswered] at answered
      cases answered

/-- The thread of the job takes its next action, or neither it nor the state changes. -/
theorem thread_of_step (step : Step can timeout i item pool item' pool') :
    (item.thread.ending? = none ∧ item'.thread = (item.thread.advance can pool.state).1 ∧
      pool'.state = (item.thread.advance can pool.state).2) ∨
      item'.thread = item.thread ∧ pool'.state = pool.state := by
  cases step with
  | advance runs unended => exact Or.inl ⟨unended, rfl, rfl⟩
  | submit | begin | finish | release | answer | timeOut | refuse => exact Or.inr ⟨rfl, rfl⟩

/-- A job takes a slot that is free, gives back the one that it holds, or changes nothing about them. -/
theorem free_of_step (orderly : item.Orderly timeout)
    (step : Step can timeout i item pool item' pool') :
    pool'.free + item'.holdsSlot.toNat = pool.free + item.holdsSlot.toNat := by
  cases step with
  | submit asks isFree =>
      have unreleased := orderly.unreleased (by simp [asks])
      simp only [Item.holdsSlot, asks, unreleased]
      simp
      omega
  | release isFinished isHeld => simp [Item.holdsSlot, isFinished, isHeld]
  | begin waits isIdle => simp [Item.holdsSlot, waits]
  | finish ending runs ended => simp [Item.holdsSlot, runs]
  | advance | answer | timeOut | refuse => rfl

/-- A job takes a worker that is idle, sets the one that it has free, or changes nothing about them. -/
theorem idle_of_step (step : Step can timeout i item pool item' pool') :
    pool'.idle + item'.isRunning.toNat = pool.idle + item.isRunning.toNat := by
  cases step with
  | begin waits isIdle =>
      simp [isRunning, waits]
      omega
  | finish ending runs ended => simp [isRunning, runs]
  | submit asks isFree => simp [isRunning, asks]
  | advance | release | answer | timeOut | refuse => rfl

/-- A job is handed over when it gets its slot and at no other time. -/
theorem inFlight_of_step (step : Step can timeout i item pool item' pool') :
    item.phase = .asking ∧ item'.phase ≠ .asking ∧ pool'.inFlight = pool.inFlight ++ [i] ∨
      (item'.phase = .asking ↔ item.phase = .asking) ∧ pool'.inFlight = pool.inFlight := by
  cases step with
  | submit asks isFree => exact Or.inl ⟨asks, nofun, rfl⟩
  | begin waits isIdle => exact Or.inr ⟨by simp [waits], rfl⟩
  | finish ending runs ended => exact Or.inr ⟨by simp [runs], rfl⟩
  | advance | release | answer | timeOut | refuse => exact Or.inr ⟨Iff.rfl, rfl⟩

/-- Everything that happens to a job brings it nearer to its end. -/
theorem stepsLeft_lt_of_step (step : Step can timeout i item pool item' pool') :
    item'.stepsLeft < item.stepsLeft := by
  cases step with
  | submit asks isFree => simp [stepsLeft, asks, Phase.stepsLeft]
  | begin waits isIdle => simp [stepsLeft, waits, Phase.stepsLeft]
  | advance runs unended =>
      have fewer := Thread.actionsLeft_advance_lt can pool.state unended
      simp only [stepsLeft]
      omega
  | finish ending runs ended => simp [stepsLeft, runs, Phase.stepsLeft]
  | release isFinished isHeld => simp [stepsLeft, isHeld]
  | answer _ unanswered | timeOut _ unanswered | refuse _ unanswered => simp [stepsLeft, unanswered]

end Step

end Item

namespace Driver

variable {can : Capabilities σ} {timeout : Value} {driver driver' : Driver σ} {slots : Nat}
  {jobs : List ChainJob} {s : σ}

theorem orderly_of_steps (steps : Steps can timeout (start slots jobs s) driver) {i : Nat}
    {item : Item} (isItem : driver.items[i]? = some item) : item.Orderly timeout := by
  refine forall_item_of_steps (fun _ item => item.Orderly timeout)
    (fun _ _ _ _ _ step orderly => orderly.step step) steps (fun i item isItem => ?_) i item isItem
  obtain ⟨job, -, rfl⟩ := exists_job_of_start isItem
  exact Item.orderly_start timeout job

/-- Every item is that of its job. -/
theorem job_of_steps (steps : Steps can timeout (start slots jobs s) driver) {i : Nat} {item : Item}
    (isItem : driver.items[i]? = some item) : jobs[i]? = some item.job := by
  refine forall_item_of_steps (fun i item => jobs[i]? = some item.job)
    (fun _ _ _ _ _ step isJob => by rw [isJob, Item.job_of_step step]) steps
    (fun i item isItem => ?_) i item isItem
  obtain ⟨job, isJob, rfl⟩ := exists_job_of_start isItem
  exact isJob

/-- What was told about a job is told for good. -/
theorem answer_of_steps (steps : Steps can timeout driver driver') {i : Nat} {item item' : Item}
    (isItem : driver.items[i]? = some item) (isItem' : driver'.items[i]? = some item')
    {answer : Answer} (answered : item.answer = some answer) : item'.answer = some answer := by
  refine forall_item_of_steps (fun k item => k = i → item.answer = some answer)
    (fun _ _ _ _ _ step kept same => Item.answer_of_step step (kept same)) steps
    (fun k other isOther same => ?_) i item' isItem' rfl
  rw [same, isItem, Option.some.injEq] at isOther
  exact isOther ▸ answered

/-! ### The threads of a batch -/

theorem crew_start (slots : Nat) (jobs : List ChainJob) (s : σ) :
    (start slots jobs s).crew = Crew.start jobs s := by
  simp [crew, start, Crew.start, Item.start, Function.comp_def]

/-- The threads of a batch are interleaved in one of the ways in which threads can be. -/
theorem steps_crew (steps : Steps can timeout driver driver') :
    Crew.Steps can driver.crew driver'.crew := by
  induction steps with
  | refl => exact .refl
  | @tail middle _ _ step ih =>
      cases step with
      | item i item item' pool' isItem step =>
          refine ih.trans ?_
          have isThread : middle.crew.threads[i]? = some item.thread := by simp [crew, isItem]
          simp only [crew, List.map_set]
          rcases Item.thread_of_step step with ⟨unended, nextThread, nextState⟩ | ⟨sameThread, sameState⟩
          · rw [nextThread, nextState]
            exact .single (.advance middle.crew i item.thread isThread unended)
          · obtain ⟨inRange, same⟩ := List.getElem?_eq_some_iff.1 isThread
            have unchanged : (middle.items.map Item.thread).set i item.thread =
                middle.items.map Item.thread := by
              rw [← same]
              exact List.set_getElem_self inRange
            rw [sameThread, sameState, unchanged]

/-! ### Slots and workers -/

/-- A change at one place of a list changes a count by what is counted there. -/
theorem countP_set_add {α : Type} (p : α → Bool) {l : List α} {i : Nat} {a : α}
    (isElement : l[i]? = some a) (a' : α) :
    (l.set i a').countP p + (p a).toNat = l.countP p + (p a').toNat := by
  obtain ⟨inRange, rfl⟩ := List.getElem?_eq_some_iff.1 isElement
  rw [List.countP_set inRange]
  cases counted : p l[i] with
  | false => cases p a' <;> simp
  | true =>
      have positive : 0 < l.countP p := List.countP_pos_iff.2 ⟨_, List.getElem_mem inRange, counted⟩
      cases p a' <;> simp <;> omega

/-- What every job takes from a stock and puts back there is missing in it at any time. -/
theorem stock_of_steps (stock : Pool σ → Nat) (has : Item → Bool)
    (keeps : ∀ (i : Nat) (item item' : Item) (pool pool' : Pool σ), item.Orderly timeout →
      Item.Step can timeout i item pool item' pool' →
      stock pool' + (has item').toNat = stock pool + (has item).toNat)
    (steps : Steps can timeout (start slots jobs s) driver) :
    stock driver.pool + driver.items.countP has =
      stock (start slots jobs s).pool + (start slots jobs s).items.countP has := by
  induction steps with
  | refl => rfl
  | @tail middle _ steps step ih =>
      cases step with
      | item i item item' pool' isItem step =>
          have kept := keeps i item item' _ _ (orderly_of_steps steps isItem) step
          have counted := countP_set_add has isItem item'
          rw [← ih]
          show stock pool' + (middle.items.set i item').countP has = _
          omega

/-- Every slot is free or held by a job whose thread is not done or has not told so. -/
theorem free_add_held (steps : Steps can timeout (start slots jobs s) driver) :
    driver.pool.free + driver.held = slots := by
  have kept := stock_of_steps Pool.free Item.holdsSlot
    (fun _ _ _ _ _ orderly step => Item.free_of_step orderly step) steps
  have none : (start slots jobs s).items.countP Item.holdsSlot = 0 := by
    simp [start, Item.start, Item.holdsSlot, List.countP_eq_zero]
  rw [none] at kept
  exact kept

/-- Every worker is idle or runs a chain. -/
theorem idle_add_running (steps : Steps can timeout (start slots jobs s) driver) :
    driver.pool.idle + driver.running = slots := by
  have kept := stock_of_steps Pool.idle Item.isRunning
    (fun _ _ _ _ _ _ step => Item.idle_of_step step) steps
  have none : (start slots jobs s).items.countP Item.isRunning = 0 := by
    simp [start, Item.start, Item.isRunning, List.countP_eq_zero]
  rw [none] at kept
  exact kept

/-- Every chain that runs holds a slot. -/
theorem holdsSlot_of_isRunning (steps : Steps can timeout (start slots jobs s) driver) {item : Item}
    (mem : item ∈ driver.items) (runs : item.isRunning = true) : item.holdsSlot = true := by
  obtain ⟨i, isItem⟩ := List.mem_iff_getElem?.1 mem
  have phase : item.phase = .running := by simpa [Item.isRunning] using runs
  exact (orderly_of_steps steps isItem).holdsSlot (by simp [phase]) (by simp [phase])

/-- The slots bound the chains that run, however many workers there are. -/
theorem running_le_held (steps : Steps can timeout (start slots jobs s) driver) :
    driver.running ≤ driver.held :=
  List.countP_mono_left (fun _ mem runs => holdsSlot_of_isRunning steps mem runs)

/-- A job that was handed over and does not run yet holds a slot that no running chain has. -/
theorem running_lt_held (steps : Steps can timeout (start slots jobs s) driver) {i : Nat} {item : Item}
    (isItem : driver.items[i]? = some item) (waits : item.phase = .queued) :
    driver.running < driver.held := by
  have parts := List.countP_eq_countP_filter_add driver.items Item.holdsSlot Item.isRunning
  have front : (driver.items.filter Item.isRunning).countP Item.holdsSlot = driver.running := by
    rw [List.countP_filter]
    refine List.countP_congr (fun other mem => ?_)
    rw [Bool.and_eq_true, and_iff_right_iff_imp]
    exact holdsSlot_of_isRunning steps mem
  have behind : 0 < (driver.items.filter (fun item => !item.isRunning)).countP Item.holdsSlot := by
    refine List.countP_pos_iff.2 ⟨item, List.mem_filter.2 ⟨List.mem_of_getElem? isItem, ?_⟩, ?_⟩
    · simp [Item.isRunning, waits]
    · exact (orderly_of_steps steps isItem).holdsSlot (by simp [waits]) (by simp [waits])
  rw [held, parts, front]
  omega

/-- A job that was handed over finds a worker at once, as there are as many workers as slots. -/
theorem idle_of_queued (steps : Steps can timeout (start slots jobs s) driver) {i : Nat} {item : Item}
    (isItem : driver.items[i]? = some item) (waits : item.phase = .queued) :
    0 < driver.pool.idle := by
  have fewer := running_lt_held steps isItem waits
  have allSlots := free_add_held steps
  have allWorkers := idle_add_running steps
  omega

/-- The jobs that were handed over are those that ask no more, each of them once. -/
theorem inFlight_of_steps (steps : Steps can timeout (start slots jobs s) driver) :
    driver.pool.inFlight.Nodup ∧ ∀ i, i ∈ driver.pool.inFlight ↔
      ∃ item, driver.items[i]? = some item ∧ item.phase ≠ .asking := by
  induction steps with
  | refl =>
      refine ⟨List.nodup_nil, fun i => ⟨fun mem => (nomatch mem), fun ⟨item, isItem, submitted⟩ => ?_⟩⟩
      obtain ⟨job, -, rfl⟩ := exists_job_of_start isItem
      exact absurd rfl submitted
  | @tail middle _ steps step ih =>
      obtain ⟨nodup, mem_iff⟩ := ih
      cases step with
      | item k item item' pool' isItem step =>
          have isItem' := List.getElem?_set_self (a := item') (List.getElem?_eq_some_iff.1 isItem).1
          rcases Item.inFlight_of_step step with ⟨asks, submitted, added⟩ | ⟨sameAsking, same⟩
          · have absent : k ∉ middle.pool.inFlight := fun mem => by
              obtain ⟨other, isOther, submitted⟩ := (mem_iff k).1 mem
              rw [isItem, Option.some.injEq] at isOther
              exact submitted (isOther ▸ asks)
            refine ⟨?_, fun i => ?_⟩
            · rw [added, ← List.concat_eq_append]
              exact nodup.concat absent
            · rw [added, List.mem_append, List.mem_singleton, mem_iff]
              by_cases here : i = k
              · subst here
                simp [isItem', submitted]
              · rw [List.getElem?_set_ne (Ne.symm here)]
                simp [here]
          · refine ⟨same ▸ nodup, fun i => ?_⟩
            rw [same, mem_iff]
            by_cases here : i = k
            · subst here
              simp [isItem, isItem', sameAsking]
            · rw [List.getElem?_set_ne (Ne.symm here)]

/-- In every state that a batch can get into, the free slots and those held by jobs that were handed over
    and have not given theirs back make up all slots, no more chains run than there are slots, a job that
    was told to be late holds its slot until its thread is done, and no job is handed over twice. -/
theorem slots_kept (steps : Steps can timeout (start slots jobs s) driver) :
    driver.pool.free + driver.held = slots ∧
    driver.running ≤ slots ∧
    (∀ item ∈ driver.items, item.answer = some .late → item.phase ≠ .finished →
      item.holdsSlot = true) ∧
    driver.pool.inFlight.Nodup ∧
    ∀ i, i ∈ driver.pool.inFlight ↔ ∃ item, driver.items[i]? = some item ∧ item.phase ≠ .asking := by
  have allSlots := free_add_held steps
  have bounded := running_le_held steps
  refine ⟨allSlots, by omega, fun item mem late unfinished => ?_, inFlight_of_steps steps⟩
  obtain ⟨i, isItem⟩ := List.mem_iff_getElem?.1 mem
  have orderly := orderly_of_steps steps isItem
  exact orderly.holdsSlot (orderly.submitted_of_answer (by simp [late])) unfinished

/-- The only slot is held by a job that nobody waits for any more, so the other job has to wait. -/
theorem slots_kept_of_late :
    ∃ (driver : Driver World) (item : Item), Steps wrapping.chains (.int 2)
        (start 1 [⟨.str "a._x", .null⟩, ⟨.str "b._y", .null⟩] emptyWorld) driver ∧
      item ∈ driver.items ∧ item.answer = some .late ∧ item.phase = .running ∧
      item.holdsSlot = true ∧ driver.pool.free = 0 ∧ driver.pool.free + driver.held = 1 ∧
      driver.pool.inFlight.Nodup := by
  let first : Item := .start ⟨.str "a._x", .null⟩
  let second : Item := .start ⟨.str "b._y", .null⟩
  let late : Item := { first with phase := .running, answer := some .late }
  have submitted : Item.Steps wrapping.chains (.int 2) 0 (first, (⟨1, 1, [], emptyWorld⟩ : Pool World))
      ({ first with phase := .queued }, ⟨0, 1, [0], emptyWorld⟩) :=
    .single (.submit _ _ rfl Nat.one_pos)
  have begun : Item.Steps wrapping.chains (.int 2) 0 (first, (⟨1, 1, [], emptyWorld⟩ : Pool World))
      ({ first with phase := .running }, ⟨0, 0, [0], emptyWorld⟩) :=
    submitted.tail (.begin _ _ rfl Nat.one_pos)
  have timedOut : Item.Steps wrapping.chains (.int 2) 0
      (first, (⟨1, 1, [], emptyWorld⟩ : Pool World)) (late, ⟨0, 0, [0], emptyWorld⟩) :=
    begun.tail (.timeOut _ _ false rfl nofun rfl nofun)
  have steps : Steps wrapping.chains (.int 2) (start 1 [first.job, second.job] emptyWorld)
      ⟨[late, second], 0, 0, [0], emptyWorld⟩ := steps_of_item timedOut rfl rfl
  obtain ⟨allSlots, -, keeps, nodup, -⟩ := slots_kept steps
  have holds : late.holdsSlot = true := keeps late List.mem_cons_self rfl nofun
  exact ⟨_, late, steps, List.mem_cons_self, rfl, rfl, holds, rfl, allSlots, nodup⟩

/-! ### Every batch comes to its end -/

/-- Everybody who waits for a job was told about it. -/
def Answered (driver : Driver σ) : Prop := ∀ item ∈ driver.items, item.answer ≠ none

/-- The most that may still happen in a batch. -/
def stepsLeft (driver : Driver σ) : Nat := (driver.items.map Item.stepsLeft).sum

/-- Every step brings a batch nearer to its end, so no schedule goes on for ever. -/
theorem stepsLeft_lt_of_step (step : Step can timeout driver driver') :
    driver'.stepsLeft < driver.stepsLeft := by
  cases step with
  | item i item item' pool' isItem step =>
      have fewer := Item.stepsLeft_lt_of_step step
      have balance := Crew.sum_map_set Item.stepsLeft isItem item'
      simp only [stepsLeft]
      omega

/-- A job that holds a slot can go on. -/
theorem exists_step_of_holdsSlot (steps : Steps can timeout (start slots jobs s) driver) {i : Nat}
    {item : Item} (isItem : driver.items[i]? = some item) (holds : item.holdsSlot = true) :
    ∃ next, Step can timeout driver next := by
  simp only [Item.holdsSlot, Bool.and_eq_true, decide_eq_true_eq, Bool.not_eq_true'] at holds
  obtain ⟨submitted, isHeld⟩ := holds
  cases phase : item.phase with
  | asking => exact absurd phase submitted
  | queued =>
      have isIdle := idle_of_queued steps isItem phase
      exact ⟨_, .item driver i item _ _ isItem (.begin item _ phase isIdle)⟩
  | running =>
      cases ended : item.thread.ending? with
      | none => exact ⟨_, .item driver i item _ _ isItem (.advance item _ phase ended)⟩
      | some ending => exact ⟨_, .item driver i item _ _ isItem (.finish item _ ending phase ended)⟩
  | finished => exact ⟨_, .item driver i item _ _ isItem (.release item _ phase isHeld)⟩

/-- As long as somebody waits, something can happen: a job that asks either finds a slot free or waits for
    one that holds it, and one whose chain has ended can be told about. -/
theorem exists_step (positive : 0 < slots) (steps : Steps can timeout (start slots jobs s) driver)
    (unanswered : ¬driver.Answered) : ∃ next, Step can timeout driver next := by
  simp only [Answered, not_forall, not_not] at unanswered
  obtain ⟨item, mem, waits⟩ := unanswered
  obtain ⟨i, isItem⟩ := List.mem_iff_getElem?.1 mem
  have orderly := orderly_of_steps steps isItem
  by_cases asks : item.phase = .asking
  · by_cases isFree : 0 < driver.pool.free
    · exact ⟨_, .item driver i item _ _ isItem (.submit item _ asks isFree)⟩
    · have allSlots := free_add_held steps
      have someHeld : 0 < driver.held := by omega
      obtain ⟨holder, mem, holds⟩ := List.countP_pos_iff.1 someHeld
      obtain ⟨k, isHolder⟩ := List.mem_iff_getElem?.1 mem
      exact exists_step_of_holdsSlot steps isHolder holds
  · by_cases isFinished : item.phase = .finished
    · obtain ⟨ending, ended⟩ := Option.ne_none_iff_exists'.1 (orderly.ended_of_finished isFinished)
      cases limit : leavesNoTime timeout with
      | error fault =>
          exact ⟨_, .item driver i item _ _ isItem (.refuse item _ fault waits asks limit)⟩
      | ok noTime =>
          cases noTime with
          | false =>
              exact ⟨_, .item driver i item _ _ isItem
                (.answer item _ ending waits isFinished ended limit)⟩
          | true =>
              have isGiven : timeout ≠ .null := fun none => by
                rw [none] at limit
                cases limit
              exact ⟨_, .item driver i item _ _ isItem (.timeOut item _ true waits asks limit isGiven)⟩
    · exact exists_step_of_holdsSlot steps isItem (orderly.holdsSlot asks isFinished)

/-- Whatever has happened so far, a batch with a slot can go on until everybody was told. -/
theorem exists_answered (positive : 0 < slots) (now : Driver σ)
    (steps : Steps can timeout (start slots jobs s) now) :
    ∃ last, Steps can timeout now last ∧ last.Answered := by
  by_cases answered : now.Answered
  · exact ⟨now, .refl, answered⟩
  · obtain ⟨next, step⟩ := exists_step positive steps answered
    have fewer := stepsLeft_lt_of_step step
    obtain ⟨last, others, answered⟩ := exists_answered positive next (steps.tail step)
    exact ⟨last, others.head step, answered⟩
termination_by now.stepsLeft

end Driver

end LayeredFiles
