import LayeredFiles.Proofs.Batch.Returns
import Mathlib.Data.List.Induction
/-
Module: LayeredFiles.Proofs.Batch.Outputs
Layer: Proofs
Purpose: what becomes of the files that a batch reports as made. If the chains of its jobs end in different
  files, each of these holds, whatever the schedule, the text that its own chain rendered last: the files
  on the way to another one have names of their own, and no other chain ends there. Jobs with different
  names may end in one file, since a name is read back without its chain; then the output of one is lost
  to the other, be it that the other goes well or that it fails while it writes.
Main exports: ChainJob.hasChain, Thread.WorksOn.last_write, Driver.KeepsOutputs, Driver.outputs_kept,
  Driver.outputs_lost
-/

namespace LayeredFiles

variable {σ : Type} {can : Capabilities σ}

/-! ### The last write of a chain -/

/-- A thread that has made a file of a chain has written to it last, the text that it rendered last. -/
theorem Thread.WorksOn.last_write {thread : Thread} {job : ChainJob} (works : thread.WorksOn job)
    (chained : job.hasChain = true) {path : String} (ended : thread.ending? = some (.ok path)) :
    job.base? = some path ∧ ∃ front text, thread.writes = front ++ [⟨path, text, .ok ()⟩] ∧
      thread.lastText? = some text := by
  have allowed := works.allows_of_ended ended
  rcases start_cases job with ⟨only, started, atFault⟩ |
    ⟨file, base, templates, context, isFile, parsed, nonempty, -, started⟩
  · obtain ⟨fault, rfl⟩ := atFault chained
    rw [ChainJob.Allows, started] at allowed
    generalize same : Except.ok path = ending at allowed
    generalize thread.actions = actions at allowed
    cases allowed
    cases same
  · rw [ChainJob.Allows, started] at allowed
    cases allowed with
    | rendering run =>
        have stages : plan base (templates.map .str) ≠ [] := by
          rw [ne_eq, ← List.length_eq_zero_iff, length_plan_str, List.length_eq_zero_iff]
          exact nonempty
        obtain ⟨last, front, text, wrote, rendered⟩ := run.last_of_ok rfl stages
        rw [map_path_plan, getLast?_stagePaths base nonempty, Option.some.injEq] at last
        refine ⟨?_, front, text, wrote, rendered⟩
        simp [ChainJob.base?, isFile, pathOf, parsed, Except.toOption, last]

/-! ### Files of other chains -/

/-- The templates of a path are written in its file name. -/
theorem ChainName.templates_parse_of_fileName_eq {path other : String}
    (same : Path.fileName path = Path.fileName other) :
    (parse path).templates = (parse other).templates := by
  have sameChars : Path.fileNameChars path.toList = Path.fileNameChars other.toList :=
    String.ofList_injective same
  simp only [parse, sameChars]
  cases cut (Path.fileNameChars other.toList) with
  | mk plain chain => cases chain <;> rfl

/-- The base of a path carries no chain any more. -/
theorem ChainName.parse_base (path : String) : parse (parse path).base = ⟨(parse path).base, []⟩ := by
  cases chained : (parse path).hasChain with
  | true => exact parse_of_isPlain (wellFormed_parse chained).plain
  | false => rw [parse_of_not_hasChain chained, parse_of_not_hasChain chained]

theorem ChainJob.parse_of_base {job : ChainJob} {base : String} (isBase : job.base? = some base) :
    ChainName.parse base = ⟨base, []⟩ := by
  obtain ⟨path, -, rfl⟩ := Option.map_eq_some_iff.1 isBase
  exact ChainName.parse_base path

/-- Among the files of a chain that has the base of a job, only the base is kept in a file that is the
    base of some job. -/
theorem Thread.WorksOn.path_of_fileAt_eq {files : Filing can} {s : σ} {thread : Thread}
    {job other : ChainJob} (works : thread.WorksOn job) {write : Write} (mem : write ∈ thread.writes)
    {base : String} (isBase : other.base? = some base)
    (same : files.fileAt s write.path = files.fileAt s base) : job.base? = some write.path := by
  have sameName := ChainName.templates_parse_of_fileName_eq (files.fileName_eq s _ _ same)
  rw [ChainJob.parse_of_base isBase] at sameName
  have isPlain : (ChainName.parse write.path).hasChain = false := by
    simp [ChainName.hasChain, sameName]
  rw [works.base_of_mem_writes mem, ChainName.parse_of_not_hasChain isPlain]

/-! ### Outputs that are kept -/

/-- What can be told of files by the writes to them, can be told of the files of a crew. -/
theorem Filing.tells (files : Filing can) (start : σ) : Crew.Tells can (files.Follows start) where
  render _ template context s follows :=
    follows.of_eq (files.render_fileAt template context s) (files.render_content template context s)
  write _ path text _ follows := follows.write path text
  announce _ number total template path s follows :=
    follows.of_eq (files.announce_fileAt number total template path s)
      (files.announce_content number total template path s)

/-- The last write of a thread stands in the log behind all its other ones. -/
theorem Crew.exists_last_write {i : Nat} {log : List (Nat × Write)} {front : List Write} {last : Write}
    (own : ownWrites i log = front ++ [last]) :
    ∃ before after, log = before ++ (i, last) :: after ∧ ∀ entry ∈ after, entry.1 ≠ i := by
  induction log using List.reverseRecOn generalizing front with
  | nil => simp [ownWrites] at own
  | append_singleton rest entry ih =>
      have tagged : ownWrites i [entry] = if entry.1 = i then [entry.2] else [] :=
        ownWrites_tagged i entry.1 [entry.2]
      rw [ownWrites_append, tagged] at own
      by_cases here : entry.1 = i
      · rw [if_pos here] at own
        obtain ⟨-, same⟩ := List.append_inj' own rfl
        obtain rfl : entry.2 = last := List.head_eq_of_cons_eq same
        exact ⟨rest, [], by rw [← here], by simp⟩
      · rw [if_neg here, List.append_nil] at own
        obtain ⟨before, after, rfl, others⟩ := ih own
        refine ⟨before, after ++ [entry], by simp, fun other mem => ?_⟩
        rcases List.mem_append.1 mem with mem | mem
        · exact others other mem
        · rw [List.mem_singleton.1 mem]
          exact here

namespace Driver

variable {timeout : Value} {driver : Driver σ} {slots : Nat} {jobs : List ChainJob} {s : σ}
  {results : List ChainResult}

/-- The chains of the jobs end in different files. -/
def FilesDiffer (files : Filing can) (s : σ) (jobs : List ChainJob) : Prop :=
  (jobs.filterMap (fun job => job.base?.map (files.fileAt s))).Nodup

/-- Every file that is reported as made holds the text that the chain of its job rendered last. -/
def KeepsOutputs (files : Filing can) (driver : Driver σ) (results : List ChainResult) : Prop :=
  ∀ (i : Nat) (item : Item) (result : ChainResult) (path : String), driver.items[i]? = some item →
    results[i]? = some result → result.output? = some path →
    ∃ text, item.thread.lastText? = some text ∧ (files.form text).isSome ∧
      files.content driver.pool.state (files.fileAt driver.pool.state path) = files.form text

/-- A file that is reported as made was made by the thread of its job. -/
theorem Returns.ended_of_output (returns : driver.Returns timeout results)
    (steps : Steps can timeout (start slots jobs s) driver) {i : Nat} {item : Item}
    {result : ChainResult} {path : String} (isItem : driver.items[i]? = some item)
    (isResult : results[i]? = some result) (output : result.output? = some path) :
    item.thread.ending? = some (.ok path) := by
  obtain ⟨answer, answered, place⟩ := returns.result_of_item isItem
  obtain rfl : result = answer.result timeout item.job := Option.some.inj (isResult.symm.trans place)
  have reason := (orderly_of_steps steps isItem).reason answered
  simp only [ChainResult.output?] at output
  cases outcome : (answer.result timeout item.job).outcome with
  | failed detail =>
      rw [outcome] at output
      cases output
  | made path' =>
      rw [outcome] at output reason
      cases output
      cases reason with
      | made _ _ ended => exact ended

/-- If the chains of a batch end in different files, it keeps all its outputs, whatever the schedule. -/
theorem outputs_kept (files : Filing can) (chained : ∀ job ∈ jobs, job.hasChain = true)
    (differ : FilesDiffer files s jobs)
    (steps : Steps can timeout (start slots jobs s) driver)
    (returns : driver.Returns timeout results) : driver.KeepsOutputs files results := by
  intro i item result path isItem isResult output
  have isJob := job_of_steps steps isItem
  have orderly := orderly_of_steps steps isItem
  have ended := returns.ended_of_output steps isItem isResult output
  obtain ⟨isBase, front, text, wrote, rendered⟩ :=
    orderly.works.last_write (chained _ (List.mem_of_getElem? isJob)) ended
  have crewSteps := steps_crew steps
  rw [crew_start] at crewSteps
  obtain ⟨log, isLog, follows⟩ := Crew.exists_log (files.tells s) (files.follows_nil s) crewSteps
  have isThread : driver.crew.threads[i]? = some item.thread := by simp [crew, isItem]
  rw [isLog.own i _ isThread] at wrote
  obtain ⟨before, after, split, others⟩ := Crew.exists_last_write wrote
  have kept := follows.kept (before.map Prod.snd) ⟨path, text, .ok ()⟩ (after.map Prod.snd)
    (by simp [split]) rfl ?_
  · have sameNames : files.fileAt driver.pool.state = files.fileAt s := follows.fileAt
    rw [sameNames]
    exact ⟨text, rendered, kept⟩
  · intro later isLater same
    obtain ⟨entry, mem, rfl⟩ := List.mem_map.1 isLater
    have logged : entry ∈ log := by simp [split, mem]
    obtain ⟨thread, job, -, isJob', works, isWrite⟩ :=
      Crew.exists_thread_of_mem_log crewSteps isLog logged
    have isBase' := works.path_of_fileAt_eq isWrite isBase same
    have isFile : job.base?.map (files.fileAt s) = some (files.fileAt s path) := by
      rw [isBase', Option.map_some, same]
    have isFile' : item.job.base?.map (files.fileAt s) = some (files.fileAt s path) := by
      rw [isBase, Option.map_some]
    exact others entry mem (index_eq_of_nodup_filterMap differ isJob' isJob isFile isFile')

/-- Two chains with two slots, that end in different files. -/
theorem outputs_kept_of_two :
    ∃ driver results, Steps wrapping.chains .null
        (start 2 [⟨.str "a._x", .null⟩, ⟨.str "out/a._p._q", .null⟩] emptyWorld) driver ∧
      driver.Returns .null results ∧
      results.map ChainResult.output? = [some "a", some "out/a"] ∧
      driver.KeepsOutputs (wrapping.filing plain_wrapping) results := by
  let jobs : List ChainJob := [⟨.str "a._x", .null⟩, ⟨.str "out/a._p._q", .null⟩]
  obtain ⟨driver, results, steps, returns, returned, -⟩ :=
    returns_runBatch wrapping.chains .null jobs emptyWorld Nat.two_pos
  have made : ((runBatch wrapping.chains (.int 2) .null jobs emptyWorld).1.toOption.map
      (List.map ChainResult.output?)) = some [some "a", some "out/a"] := by decide +kernel
  rw [show (2 : Int) = ((2 : Nat) : Int) from rfl, returned] at made
  have differ : (jobs.filterMap (fun job => job.base?.map emptyWorld.disk.fileAt)).Nodup := by
    decide +kernel
  exact ⟨driver, results, steps, returns, Option.some.inj made,
    outputs_kept (wrapping.filing plain_wrapping) (by decide +kernel) differ steps returns⟩

/-! ### Outputs that are lost -/

/-- If a chain that runs behind another one leaves something else in the file which that one has made, a
    batch of both with one slot loses an output. -/
theorem exists_output_lost [Host] {g : Generator World} (plain : g.Plain) {first second : ChainJob}
    {s : World} {now last : Thread × World} (path : String)
    (alone : Thread.Alone g.chains (.start first, s) now)
    (alone' : Thread.Alone g.chains (.start second, now.2) last)
    (made : now.1.ending?.bind Except.toOption = some path) (ended : last.1.ending?.isSome = true)
    (changed : last.2.disk.contentAt (last.2.disk.fileAt path) ≠
      now.1.lastText?.bind (fun text => (Disk.bytesToWrite g.settings.encoding text).toOption)) :
    ∃ driver results, Steps g.chains .null (start 1 [first, second] s) driver ∧
      driver.Returns .null results ∧ ¬driver.KeepsOutputs (g.filing plain) results := by
  obtain ⟨first', s₁⟩ := now
  obtain ⟨second', s₂⟩ := last
  obtain ⟨made, isEnding, isMade⟩ := Option.bind_eq_some_iff.1 made
  obtain ⟨ending, isEnding'⟩ := Option.isSome_iff_exists.1 ended
  have one : Steps g.chains .null (start 1 [first, second] s) _ :=
    steps_of_item (Item.steps_prompt (i := 0) alone isEnding 0 0 []) rfl rfl
  have both := one.trans
    (steps_of_item (Item.steps_prompt (i := 1) alone' isEnding' 0 0 [0]) rfl rfl)
  refine ⟨_, [resultOf first made, resultOf second ending], both, rfl, fun keeps => ?_⟩
  cases made with
  | error fault => cases isMade
  | ok path' =>
      cases isMade
      obtain ⟨text, rendered, -, kept⟩ := keeps 0 _ _ path rfl rfl rfl
      refine changed ?_
      rw [show first'.lastText? = some text from rendered]
      exact kept

/-- A template puts its name around the content; the one called "y" gives a letter with an accent. -/
def accentText (template : Value) (context : Entries) : Except Fault String :=
  if template.display = "y" then .ok "é"
  else .ok ("<" ++ template.display ++ ">" ++ ((context.get? contentKey).getD (.str "")).display ++
    "</" ++ template.display ++ ">")

/-- A plain generator with these templates, whose files have no accents. -/
def accented : Generator World :=
  .ofText { Settings.default (.ofChars "/templates".toList) with encoding := "ascii" } accentText

theorem plain_accented : accented.Plain := Generator.plain_ofText _ _

/-- Two different names with chains are read back as one base, and one output is lost: the second chain
    goes well and replaces the file, or it fails when it writes and leaves the file empty. -/
theorem outputs_lost :
    let jobs : List ChainJob := [⟨.str "a._x", .dict []⟩, ⟨.str "a._y", .dict []⟩]
    (jobs.map ChainJob.file).Nodup ∧ (∀ job ∈ jobs, job.hasChain = true) ∧
    (∃ driver results, Steps wrapping.chains .null (start 1 jobs emptyWorld) driver ∧
      driver.Returns .null results ∧ ¬driver.KeepsOutputs (wrapping.filing plain_wrapping) results) ∧
    ∃ driver results, Steps accented.chains .null (start 1 jobs emptyWorld) driver ∧
      driver.Returns .null results ∧ ¬driver.KeepsOutputs (accented.filing plain_accented) results := by
  refine ⟨by simp, by decide +kernel, ?_, ?_⟩
  · exact exists_output_lost plain_wrapping "a" (Thread.alone_iterate _ 4 _)
      (Thread.alone_iterate _ 4 _) (by decide +kernel) (by decide +kernel) (by decide +kernel)
  · exact exists_output_lost plain_accented "a" (Thread.alone_iterate _ 4 _)
      (Thread.alone_iterate _ 4 _) (by decide +kernel) (by decide +kernel) (by decide +kernel)

end Driver

end LayeredFiles
