import LayeredFiles.Proofs.Chain.Contract
import LayeredFiles.Proofs.Disk.Rewriting
/-
Module: LayeredFiles.Proofs.Chain.Rerun
Layer: Proofs
Purpose: a chain that went well and is run again. A run is determined by the answers that it gets: where
  every action of a journal is answered as it was, the run repeats and has the same journal. A renderer that
  is a function of identifier and context answers as it did; and the files of the first run are there, with
  their folders and their texts, so each write is answered as it was and leaves every place as it is.
Main exports: Action.Repeats, StagesRun.again, account_again, StagesRun.actions_unique,
  Generator.RendersPurely, Generator.Plain.holdsText_of_mem_writes, Generator.chain_idempotent
-/

namespace LayeredFiles

variable {σ : Type}

/-! ### Answers determine a run -/

theorem mem_callsOf {call : Call} {actions : List Action} :
    call ∈ callsOf actions ↔ .call call ∈ actions := by
  induction actions with
  | nil => simp [callsOf]
  | cons action rest ih => cases action <;> simp [callsOf, ih]

theorem mem_writesOf {write : Write} {actions : List Action} :
    write ∈ writesOf actions ↔ .write write ∈ actions := by
  induction actions with
  | nil => simp [writesOf]
  | cons action rest ih => cases action <;> simp [writesOf, ih]

/-- In states of a kind, an action is answered as it was and leaves a state of that kind. -/
def Action.Repeats (can : Capabilities σ) (Keeps : σ → Prop) : Action → Prop
  | .call asked => ∀ s, Keeps s →
      (can.render asked.template asked.context s).1 = asked.answer ∧
        Keeps (can.render asked.template asked.context s).2
  | .write made => ∀ s, Keeps s →
      (can.write made.path made.content s).1 = made.answer ∧
        Keeps (can.write made.path made.content s).2

section Again

variable {can : Capabilities σ} {Keeps : σ → Prop}

/-- Where all actions of a journal are answered as they were, the stages run as they did. -/
theorem StagesRun.again
    (announce : ∀ number total template path s, Keeps s →
      Keeps (can.announce number total template path s))
    {context : Entries} {stages : List Stage} {content : Value} {written : String}
    {actions : List Action} {ending : Except Fault String}
    (run : StagesRun context stages content written actions ending)
    (repeats : ∀ action ∈ actions, action.Repeats can Keeps) (total : Nat) {s : σ} (kept : Keeps s)
    (journal : List Action) :
    ∃ s', Keeps s' ∧
      runStages can.journaled total context stages content written (s, journal) =
        (ending, s', journal ++ actions) := by
  -- On the run; a stage that went well hands on its text, the journal and a state of the kind.
  induction run generalizing s journal with
  | done content written => exact ⟨s, kept, by simp [runStages]⟩
  | renderFailed stage rest content written cause =>
      obtain ⟨rendered, after⟩ := repeats _ List.mem_cons_self s kept
      refine ⟨_, after, ?_⟩
      simp only [runStages, runStage, Capabilities.journaled_render, rendered]
  | writeFailed stage rest content written text cause =>
      obtain ⟨rendered, after⟩ := repeats _ List.mem_cons_self s kept
      have writes : Action.Repeats can Keeps (.write ⟨stage.path, text, .error cause⟩) :=
        repeats _ (by simp)
      obtain ⟨wrote, afterwards⟩ := writes _ after
      refine ⟨_, afterwards, ?_⟩
      simp only [runStages, runStage, Capabilities.journaled_render, rendered,
        Capabilities.journaled_write, wrote, List.append_assoc, List.cons_append, List.nil_append]
  | stage stage rest content written text actions ending others ih =>
      obtain ⟨rendered, after⟩ := repeats _ List.mem_cons_self s kept
      have writes : Action.Repeats can Keeps (.write ⟨stage.path, text, .ok ()⟩) :=
        repeats _ (by simp)
      obtain ⟨wrote, afterwards⟩ := writes _ after
      have repeatsRest : ∀ action ∈ actions, action.Repeats can Keeps := by
        intro action mem
        exact repeats action (List.mem_cons_of_mem _ (List.mem_cons_of_mem _ mem))
      obtain ⟨s', kept', ran⟩ := ih repeatsRest
        (announce (stage.index + 1) total stage.template stage.path _ afterwards)
        (journal ++ [.call ⟨stage.template, stageContext context content stage.template, .ok text⟩] ++
          [.write ⟨stage.path, text, .ok ()⟩])
      refine ⟨s', kept', ?_⟩
      simp only [runStages, runStage, Capabilities.journaled_render, rendered,
        Capabilities.journaled_write, wrote, Capabilities.journaled_announce]
      refine ran.trans ?_
      rw [List.append_assoc, List.append_assoc]
      rfl

/-- Where all that was done for a path is answered as it was, the same is done again. -/
theorem account_again
    (announce : ∀ number total template path s, Keeps s →
      Keeps (can.announce number total template path s))
    {path base : String} {templates : List String}
    (parsed : ChainName.parse path = ⟨base, templates⟩) (nonempty : templates ≠ [])
    (context : Entries) (s : σ)
    (repeats : ∀ action ∈ (account can path context s).actions, action.Repeats can Keeps) {s' : σ}
    (kept : Keeps s') :
    (account can path context s').ending = (account can path context s).ending ∧
      (account can path context s').actions = (account can path context s).actions ∧
      Keeps (account can path context s').state := by
  obtain ⟨after, keptAfter, ran⟩ := (stagesRun_account parsed nonempty context s).again announce
    repeats templates.length kept []
  rw [account_eq parsed nonempty context s', ran]
  exact ⟨rfl, List.nil_append _, keptAfter⟩

end Again

namespace StagesRun

variable {context : Entries} {stages : List Stage} {content : Value} {written : String}
  {actions : List Action}

/-- Stages that go well leave one journal only, if the renderer is a function. -/
theorem actions_unique (answer : Value → Entries → Except Fault Value) {path : String}
    (run : StagesRun context stages content written actions (.ok path))
    (answers : ∀ call ∈ callsOf actions, call.answer = answer call.template call.context)
    {path' : String} {actions' : List Action}
    (run' : StagesRun context stages content written actions' (.ok path'))
    (answers' : ∀ call ∈ callsOf actions', call.answer = answer call.template call.context) :
    actions' = actions := by
  generalize ended : Except.ok path = ending at run
  induction run generalizing actions' with
  | done content written =>
      cases run' with
      | done => rfl
  | renderFailed stage rest content written cause => cases ended
  | writeFailed stage rest content written text cause => cases ended
  | stage stage rest content written text actions ending others ih =>
      cases run' with
      | stage _ _ _ _ text' actions' _ others' =>
          have rendered := answers _ List.mem_cons_self
          have rendered' := answers' _ List.mem_cons_self
          obtain rfl : text' = text := Except.ok.inj (rendered'.trans rendered.symm)
          rw [ih (fun call mem => answers call (List.mem_cons_of_mem _ mem)) others'
            (fun call mem => answers' call (List.mem_cons_of_mem _ mem)) ended]

/-- Stages that go well have no failing action. -/
theorem answer_of_ok {path : String}
    (run : StagesRun context stages content written actions (.ok path)) :
    failureFrom 0 actions = none ∧ ∀ write ∈ writesOf actions, write.answer = .ok () := by
  cases failed : failureFrom 0 actions with
  | some failure =>
      obtain ⟨_, _, _, _, _, -, -, ending, -⟩ := run.of_failure failed
      cases ending
  | none =>
      obtain ⟨texts, -, rfl, -⟩ := run.of_no_failure failed
      refine ⟨rfl, ?_⟩
      intro write mem
      rw [writesOf_doneActions] at mem
      obtain ⟨-, -, rfl⟩ := List.mem_map.1 mem
      rfl

end StagesRun

/-- A chain that went well has written the files of its stages, in their order. -/
theorem paths_of_ok (can : Capabilities σ) {path base : String} {templates : List String}
    (parsed : ChainName.parse path = ⟨base, templates⟩) (nonempty : templates ≠ [])
    (context : Entries) (s : σ) {returned : String}
    (succeeds : (account can path context s).ending = .ok returned) :
    (account can path context s).writes.map Write.path = stagePaths base templates := by
  have run : StagesRun context _ _ base (account can path context s).actions _ :=
    stagesRun_account parsed nonempty context s
  rw [succeeds] at run
  obtain ⟨texts, sameLength, actions, -⟩ := run.of_no_failure run.answer_of_ok.1
  rw [Account.writes, actions, writesOf_doneActions, map_path_plan, map_path_stageWrites, sameLength,
    length_plan_str, ← length_stagePaths base templates, List.take_length]

/-- What rendering, writing and announcing keep of state and journal, all work on a path keeps. -/
theorem account_preserves {can : Capabilities σ} (Keeps : σ → List Action → Prop)
    (render : ∀ template context s journal, Keeps s journal →
      Keeps (can.render template context s).2
        (journal ++ [.call ⟨template, context, (can.render template context s).1⟩]))
    (write : ∀ path content s journal, Keeps s journal →
      Keeps (can.write path content s).2
        (journal ++ [.write ⟨path, content, (can.write path content s).1⟩]))
    (announce : ∀ number total template path s journal, Keeps s journal →
      Keeps (can.announce number total template path s) journal)
    (path : String) (context : Entries) (s : σ) (start : Keeps s []) :
    Keeps (account can path context s).state (account can path context s).actions := by
  simp only [account, processName]
  split
  · cases entriesOf (.dict context) with
    | error fault => exact start
    | ok context =>
        refine runStages_preserves (fun s => Keeps s.1 s.2) ?_ ?_ ?_ _ context _ _ _ (s, []) start
        · rintro template context ⟨s, journal⟩ kept
          exact render template context s journal kept
        · rintro path text ⟨s, journal⟩ kept
          exact write path text s journal kept
        · rintro number total template path ⟨s, journal⟩ kept
          exact announce number total template path s journal kept
  · exact start

namespace Generator

/-- What is rendered depends on identifier and context alone. -/
def RendersPurely (g : Generator σ) : Prop :=
  ∀ template context s s', (g.render template context s).1 = (g.render template context s').1

/-- A pure renderer gives the answers of a run again. -/
theorem answer_of_mem_calls [Host] {g : Generator σ} (pure : g.RendersPurely) (path : String)
    (context : Entries) (s : σ) {call : Call} (mem : call ∈ (account g.chains path context s).calls)
    (s' : σ) : (g.render call.template call.context s').1 = call.answer := by
  refine account_preserves
    (fun _ journal => ∀ call ∈ callsOf journal,
      (g.render call.template call.context s').1 = call.answer)
    ?_ ?_ ?_ path context s (by simp [callsOf]) call mem
  · intro template context s journal answers call mem
    rw [callsOf_append, List.mem_append] at mem
    rcases mem with earlier | last
    · exact answers call earlier
    · obtain rfl := List.mem_singleton.1 last
      exact pure template context s' s
  · intro path text s journal answers call mem
    rw [callsOf_append, List.mem_append] at mem
    rcases mem with earlier | last
    · exact answers call earlier
    · cases last
  · intro number total template path s journal answers
    exact answers

namespace Plain

variable [Host] {g : Generator World} (plain : g.Plain)
include plain

/-- Every text that was written is held by an earlier disk, and the disk has only grown since. -/
theorem exists_earlier (path : String) (context : Entries) (w : World) :
    ∀ write ∈ (account g.chains path context w).writes, write.answer = .ok () →
      ∃ earlier : Disk, earlier.HoldsText g.settings.encoding write.path write.content ∧
        Disk.Grows earlier (account g.chains path context w).state.disk := by
  refine account_preserves
    (fun w journal => ∀ write ∈ writesOf journal, write.answer = .ok () →
      ∃ earlier : Disk, earlier.HoldsText g.settings.encoding write.path write.content ∧
        Disk.Grows earlier w.disk)
    ?_ ?_ ?_ path context w (by simp [writesOf])
  · intro template context w journal kept write mem
    rw [writesOf_append, List.mem_append] at mem
    rcases mem with earlier | last
    · rw [chains, plain.render_disk]
      exact kept write earlier
    · cases last
  · intro path text w journal kept write mem wrote
    rw [plain.disk_write_chains]
    rw [writesOf_append, List.mem_append] at mem
    rcases mem with isEarlier | last
    · obtain ⟨earlier, holds, grows⟩ := kept write isEarlier wrote
      exact ⟨earlier, holds, grows.trans (Disk.grows_writeText _ _ _ _)⟩
    · obtain rfl := List.mem_singleton.1 last
      rw [plain.answer_write_chains] at wrote
      exact ⟨_, Disk.holdsText_writeText wrote, .refl _⟩
  · intro number total template path w journal kept
    rw [plain.disk_announce_chains]
    exact kept

/-- When a chain has gone well, all its writes have, and each of its files holds the text that was
    written to it. -/
theorem holdsText_of_mem_writes {path base : String} {templates : List String}
    (parsed : ChainName.parse path = ⟨base, templates⟩) (nonempty : templates ≠ [])
    (context : Entries) (w : World) {returned : String}
    (succeeds : (account g.chains path context w).ending = .ok returned) :
    ∀ write ∈ (account g.chains path context w).writes, write.answer = .ok () ∧
      (account g.chains path context w).state.disk.HoldsText g.settings.encoding write.path
        write.content := by
  intro write mem
  have wellFormed := ChainName.wellFormed_of_parse parsed nonempty
  have run : StagesRun context _ _ base (account g.chains path context w).actions _ :=
    stagesRun_account parsed nonempty context w
  rw [succeeds] at run
  have wrote := run.answer_of_ok.2 write mem
  have follows := (g.filing plain).follows_account path context w
  have paths := (paths_of_ok g.chains parsed nonempty context w succeeds).trans List.take_length.symm
  have kept := ((follows.stageFiles wellFormed paths).1 write mem wrote).2
  obtain ⟨earlier, holds, grows⟩ := plain.exists_earlier path context w write mem wrote
  have sameFile : (account g.chains path context w).state.disk.fileAt write.path =
      w.disk.fileAt write.path := congrFun follows.fileAt write.path
  refine ⟨wrote, holds.of_grows grows ?_⟩
  rw [sameFile]
  exact kept

/-- On a disk that cannot be told apart from the one that a chain has left, all its actions are answered
    as they were. -/
theorem repeats_of_same (pure : g.RendersPurely) {path base : String} {templates : List String}
    (parsed : ChainName.parse path = ⟨base, templates⟩) (nonempty : templates ≠ [])
    (context : Entries) (w : World) {returned : String}
    (succeeds : (account g.chains path context w).ending = .ok returned) :
    ∀ action ∈ (account g.chains path context w).actions, action.Repeats g.chains
      (fun w' => Disk.Same (account g.chains path context w).state.disk w'.disk) := by
  intro action mem
  cases action with
  | call asked =>
      intro w' same
      refine ⟨answer_of_mem_calls pure path context w (mem_callsOf.2 mem) w', ?_⟩
      rw [← plain.render_disk asked.template asked.context w'] at same
      exact same
  | write made =>
      intro w' same
      obtain ⟨wrote, holds⟩ := plain.holdsText_of_mem_writes parsed nonempty context w succeeds made
        (mem_writesOf.2 mem)
      obtain ⟨wrote', same'⟩ := Disk.writeText_again (holds.of_same same)
      rw [← plain.answer_write_chains] at wrote'
      rw [← plain.disk_write_chains] at same'
      exact ⟨wrote'.trans wrote.symm, same.trans same'⟩

end Plain

/-- Runs of a chain that go well do the same, whatever the states that they start from. -/
theorem actions_eq_of_ok [Host] {g : Generator σ} (pure : g.RendersPurely) {path base : String}
    {templates : List String} (parsed : ChainName.parse path = ⟨base, templates⟩)
    (nonempty : templates ≠ []) (context : Entries) {s s' : σ} {returned returned' : String}
    (succeeds : (account g.chains path context s).ending = .ok returned)
    (succeeds' : (account g.chains path context s').ending = .ok returned') :
    (account g.chains path context s').actions = (account g.chains path context s).actions := by
  have run : StagesRun context _ _ base (account g.chains path context s).actions _ :=
    stagesRun_account parsed nonempty context s
  have run' : StagesRun context _ _ base (account g.chains path context s').actions _ :=
    stagesRun_account parsed nonempty context s'
  rw [succeeds] at run
  rw [succeeds'] at run'
  have answers : ∀ start, ∀ call ∈ callsOf (account g.chains path context start).actions,
      call.answer = (g.render call.template call.context s).1 := by
    intro start call mem
    exact (answer_of_mem_calls pure path context start mem s).symm
  exact run.actions_unique (fun template context => (g.render template context s).1) (answers s)
    run' (answers s')

/-- A chain that went well is run again with the same arguments on what it has left: it goes well again,
    gives the same path, asks for the same renderings and writes, and leaves every place as it is. What the
    files of its stages hold does not depend on what was there before. -/
theorem chain_idempotent [Host] {g : Generator World} (plain : g.Plain) (pure : g.RendersPurely)
    {path : String} (chained : (ChainName.parse path).hasChain = true) (context : Entries) (w : World)
    {returned : String}
    (succeeds : (processName g.chains path (.dict context) w).1 = .ok returned) :
    let name := ChainName.parse path
    let first := account g.chains path context w
    let second := account g.chains path context first.state
    first.ending = .ok returned ∧ second.ending = .ok returned ∧
    second.calls = first.calls ∧ second.writes = first.writes ∧
    second.state.disk.here = first.state.disk.here ∧
    second.state.disk.find? = first.state.disk.find? ∧
    first.writes.map Write.path = stagePaths name.base name.templates ∧
    ∀ (w' : World) (returned' : String),
      (processName g.chains path (.dict context) w').1 = .ok returned' →
      ∀ file ∈ stagePaths name.base name.templates, ∃ bytes,
        first.state.disk.readBytes file = .ok bytes ∧
        (account g.chains path context w').state.disk.readBytes file = .ok bytes := by
  intro name first second
  have parsed : ChainName.parse path = ⟨name.base, name.templates⟩ := rfl
  have nonempty : name.templates ≠ [] := by
    intro none
    rw [parsed, none] at chained
    cases chained
  rw [processName_eq_account] at succeeds
  have announce : ∀ number total template path (w' : World), Disk.Same first.state.disk w'.disk →
      Disk.Same first.state.disk (g.chains.announce number total template path w').disk := by
    intro number total template path w' same
    rw [plain.disk_announce_chains]
    exact same
  obtain ⟨ending, actions, same⟩ := account_again announce parsed nonempty context w
    (plain.repeats_of_same pure parsed nonempty context w succeeds) (Disk.Same.refl first.state.disk)
  have paths := paths_of_ok g.chains parsed nonempty context w succeeds
  refine ⟨succeeds, ending.trans succeeds, congrArg callsOf actions, congrArg writesOf actions,
    same.here, same.find?, paths, ?_⟩
  intro w' returned' succeeds' file isFile
  rw [processName_eq_account] at succeeds'
  have writes : (account g.chains path context w').writes = first.writes :=
    congrArg writesOf (actions_eq_of_ok pure parsed nonempty context succeeds succeeds')
  rw [← paths] at isFile
  obtain ⟨write, mem, rfl⟩ := List.mem_map.1 isFile
  obtain ⟨-, holds⟩ :=
    plain.holdsText_of_mem_writes parsed nonempty context w succeeds write mem
  obtain ⟨-, holds'⟩ :=
    plain.holdsText_of_mem_writes parsed nonempty context w' succeeds' write (writes ▸ mem)
  obtain ⟨bytes, encoded, read⟩ := holds.read
  obtain ⟨bytes', encoded', read'⟩ := holds'.read
  obtain rfl : bytes' = bytes := Except.ok.inj (encoded'.symm.trans encoded)
  exact ⟨bytes', read, read'⟩

/-- The file of a chain is there already, with other bytes. -/
def takenWorld : World :=
  ⟨⟨["home"],
    [(["home"], .folder), (["home", "out"], .folder), (["home", "out", "a"], .file [9])]⟩, ""⟩

/-- The run is repeated, and the bytes that were there before leave no trace. -/
theorem chain_idempotent_of_taken_file :
    let first := account wrapping.chains "out//a._p.q.__r._" [] takenWorld
    let second := account wrapping.chains "out//a._p.q.__r._" [] first.state
    second.ending = .ok "out/a" ∧ second.calls = first.calls ∧
      second.state.disk.find? = first.state.disk.find? ∧
      ∃ bytes, first.state.disk.readBytes "out/a" = .ok bytes ∧
        (account wrapping.chains "out//a._p.q.__r._" [] emptyWorld).state.disk.readBytes "out/a" =
          .ok bytes := by
  have pure : wrapping.RendersPurely := fun _ _ _ _ => rfl
  have chained : (ChainName.parse "out//a._p.q.__r._").hasChain = true := by decide +kernel
  have succeeds : ∀ w, w = takenWorld ∨ w = emptyWorld →
      (processName wrapping.chains "out//a._p.q.__r._" (.dict []) w).1 = .ok "out/a" := by
    intro w isOne
    have given : (processName wrapping.chains "out//a._p.q.__r._" (.dict []) w).1.toOption =
        some "out/a" := by
      rcases isOne with rfl | rfl
      · decide +kernel
      · decide +kernel
    cases ended : (processName wrapping.chains "out//a._p.q.__r._" (.dict []) w).1 with
    | error fault =>
        rw [ended] at given
        cases given
    | ok returned =>
        rw [ended] at given
        exact congrArg Except.ok (Option.some.inj given)
  obtain ⟨-, again, calls, -, -, places, -, others⟩ :=
    chain_idempotent plain_wrapping pure chained [] takenWorld (succeeds _ (Or.inl rfl))
  have isFile : "out/a" ∈ stagePaths (ChainName.parse "out//a._p.q.__r._").base
      (ChainName.parse "out//a._p.q.__r._").templates := by decide +kernel
  exact ⟨again, calls, places, others emptyWorld "out/a" (succeeds _ (Or.inr rfl)) "out/a" isFile⟩

end Generator

end LayeredFiles
