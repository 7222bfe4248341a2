import LayeredFiles.Chain.Run
/-
Module: LayeredFiles.Proofs.Chain.Journal
Layer: Proofs
Purpose: what a run of a chain asks of its capabilities. Capabilities may keep a journal of the templates
  that were rendered and the texts that were written, each with its answer, and keeping it changes nothing
  else: seen through the projection to the state, journaled capabilities act as the plain ones. The
  journals that runs can have are given by the relation `StagesRun`, one rule for each way in which a
  stage can end, and every run has one of them.
Main exports: Call, Write, Action, Capabilities.journaled, Capabilities.ActsAs, processName_view,
  runStages_preserves, StagesRun, stagesRun_journaled, Account, account, processName_eq_account,
  failureFrom
-/

namespace LayeredFiles

variable {σ τ : Type}

/-! ### Journals -/

/-- A template that was to be rendered in a context, and what came of it. -/
structure Call where
  template : Value
  context : Entries
  answer : Except Fault Value

/-- A text that was to be written to a path, and what came of it. -/
structure Write where
  path : String
  content : Value
  answer : Except Fault Unit

/-- What a chain does outside. -/
inductive Action where
  | call (call : Call)
  | write (write : Write)

/-- The calls among some actions, in order. -/
def callsOf : List Action → List Call
  | [] => []
  | .call call :: rest => call :: callsOf rest
  | .write _ :: rest => callsOf rest

/-- The writes among some actions, in order. -/
def writesOf : List Action → List Write
  | [] => []
  | .call _ :: rest => writesOf rest
  | .write write :: rest => write :: writesOf rest

@[simp] theorem callsOf_append (first rest : List Action) :
    callsOf (first ++ rest) = callsOf first ++ callsOf rest := by
  induction first with
  | nil => rfl
  | cons action first ih => cases action <;> simp [callsOf, ih]

@[simp] theorem writesOf_append (first rest : List Action) :
    writesOf (first ++ rest) = writesOf first ++ writesOf rest := by
  induction first with
  | nil => rfl
  | cons action first ih => cases action <;> simp [writesOf, ih]

/-- The first action that failed, as the number of its stage and the cause. A stage has one write, its
    last action, so the writes that went well count the stages. -/
def failureFrom (number : Nat) : List Action → Option (Nat × Fault)
  | [] => none
  | .call ⟨_, _, .error cause⟩ :: _ => some (number, cause)
  | .call ⟨_, _, .ok _⟩ :: rest => failureFrom number rest
  | .write ⟨_, _, .error cause⟩ :: _ => some (number, cause)
  | .write ⟨_, _, .ok ()⟩ :: rest => failureFrom (number + 1) rest

namespace Capabilities

/-- The capabilities with a journal of what they were asked for and what they answered. -/
def journaled (can : Capabilities σ) : Capabilities (σ × List Action) where
  render template context s :=
    let done := can.render template context s.1
    (done.1, done.2, s.2 ++ [.call ⟨template, context, done.1⟩])
  write path content s :=
    let done := can.write path content s.1
    (done.1, done.2, s.2 ++ [.write ⟨path, content, done.1⟩])
  announce number total template path s := (can.announce number total template path s.1, s.2)

section Journaled

variable (can : Capabilities σ) (s : σ) (journal : List Action)

@[simp] theorem journaled_render (template : Value) (context : Entries) :
    can.journaled.render template context (s, journal) =
      ((can.render template context s).1, (can.render template context s).2,
        journal ++ [.call ⟨template, context, (can.render template context s).1⟩]) := rfl

@[simp] theorem journaled_write (path : String) (content : Value) :
    can.journaled.write path content (s, journal) =
      ((can.write path content s).1, (can.write path content s).2,
        journal ++ [.write ⟨path, content, (can.write path content s).1⟩]) := rfl

@[simp] theorem journaled_announce (number total : Nat) (template : Value) (path : String) :
    can.journaled.announce number total template path (s, journal) =
      (can.announce number total template path s, journal) := rfl

end Journaled

/-! ### Capabilities seen through a view -/

/-- Seen through `view`, capabilities over one state act as others do over another state. -/
structure ActsAs (can : Capabilities σ) (other : Capabilities τ) (view : σ → τ) : Prop where
  render : ∀ template context s, other.render template context (view s) =
    ((can.render template context s).1, view (can.render template context s).2)
  write : ∀ path content s, other.write path content (view s) =
    ((can.write path content s).1, view (can.write path content s).2)
  announce : ∀ number total template path s, other.announce number total template path (view s) =
    view (can.announce number total template path s)

/-- Keeping a journal changes nothing else. -/
theorem journaled_actsAs (can : Capabilities σ) : can.journaled.ActsAs can Prod.fst where
  render _ _ _ := rfl
  write _ _ _ := rfl
  announce _ _ _ _ _ := rfl

end Capabilities

section View

variable {can : Capabilities σ} {other : Capabilities τ} {view : σ → τ}

theorem runStage_view (acts : can.ActsAs other view) (context : Entries) (stage : Stage)
    (content : Value) (s : σ) :
    runStage other context stage content (view s) =
      Prod.map id view (runStage can context stage content s) := by
  simp only [runStage, acts.render]
  cases can.render stage.template (stageContext context content stage.template) s with
  | mk answer s =>
      cases answer with
      | error cause => rfl
      | ok text =>
          simp only [acts.write]
          cases can.write stage.path text s with
          | mk answer s => cases answer <;> rfl

/-- A run that is seen through a view is a run of what the capabilities act as. -/
theorem runStages_view (acts : can.ActsAs other view) (total : Nat) (context : Entries)
    (stages : List Stage) (content : Value) (written : String) (s : σ) :
    runStages other total context stages content written (view s) =
      Prod.map id view (runStages can total context stages content written s) := by
  induction stages generalizing content written s with
  | nil => rfl
  | cons stage rest ih =>
      simp only [runStages, runStage_view acts]
      cases runStage can context stage content s with
      | mk answer s =>
          cases answer with
          | error fault => rfl
          | ok text => simp only [Prod.map, id, acts.announce, ih]

theorem processName_view (acts : can.ActsAs other view) (path : String) (context : Value) (s : σ) :
    processName other path context (view s) = Prod.map id view (processName can path context s) := by
  simp only [processName]
  split
  · cases entriesOf context with
    | error fault => rfl
    | ok context => simp only [applyChain, runStages_view acts]
  · rfl

end View

/-! ### Invariants -/

/-- What rendering, writing and announcing keep, a whole run keeps. -/
theorem runStages_preserves {can : Capabilities σ} (Keeps : σ → Prop)
    (render : ∀ template context s, Keeps s → Keeps (can.render template context s).2)
    (write : ∀ path content s, Keeps s → Keeps (can.write path content s).2)
    (announce : ∀ number total template path s, Keeps s →
      Keeps (can.announce number total template path s))
    (total : Nat) (context : Entries) (stages : List Stage) (content : Value) (written : String)
    (s : σ) (start : Keeps s) : Keeps (runStages can total context stages content written s).2 := by
  induction stages generalizing content written s with
  | nil => exact start
  | cons stage rest ih =>
      have rendered := render stage.template (stageContext context content stage.template) s start
      simp only [runStages, runStage]
      cases answered : can.render stage.template (stageContext context content stage.template) s with
      | mk answer s₁ =>
          rw [answered] at rendered
          cases answer with
          | error cause => exact rendered
          | ok text =>
              have wrote := write stage.path text s₁ rendered
              cases done : can.write stage.path text s₁ with
              | mk answer s₂ =>
                  rw [done] at wrote
                  cases answer with
                  | error cause => simpa [done] using wrote
                  | ok =>
                      simp only [done]
                      exact ih _ _ _ (announce _ _ _ _ _ wrote)

/-! ### The journals of runs -/

/-- The journal and the ending of stages that start from a content, `written` being the path that was
    written before. -/
inductive StagesRun (context : Entries) :
    List Stage → Value → String → List Action → Except Fault String → Prop where
  | done (content : Value) (written : String) :
      StagesRun context [] content written [] (.ok written)
  | renderFailed (stage : Stage) (rest : List Stage) (content : Value) (written : String)
      (cause : Fault) :
      StagesRun context (stage :: rest) content written
        [.call ⟨stage.template, stageContext context content stage.template, .error cause⟩]
        (.error (renderFault stage cause))
  | writeFailed (stage : Stage) (rest : List Stage) (content : Value) (written : String)
      (text : Value) (cause : Fault) :
      StagesRun context (stage :: rest) content written
        [.call ⟨stage.template, stageContext context content stage.template, .ok text⟩,
          .write ⟨stage.path, text, .error cause⟩]
        (.error (.stage .writing stage.index stage.template stage.path cause))
  | stage (stage : Stage) (rest : List Stage) (content : Value) (written : String) (text : Value)
      (actions : List Action) (ending : Except Fault String)
      (others : StagesRun context rest text stage.path actions ending) :
      StagesRun context (stage :: rest) content written
        (.call ⟨stage.template, stageContext context content stage.template, .ok text⟩ ::
          .write ⟨stage.path, text, .ok ()⟩ :: actions)
        ending

/-- Every run adds the actions of one of these journals to its own. -/
theorem stagesRun_journaled (can : Capabilities σ) (total : Nat) (context : Entries)
    (stages : List Stage) (content : Value) (written : String) (s : σ) (journal : List Action) :
    ∃ actions,
      (runStages can.journaled total context stages content written (s, journal)).2.2 =
        journal ++ actions ∧
      StagesRun context stages content written actions
        (runStages can.journaled total context stages content written (s, journal)).1 := by
  induction stages generalizing content written s journal with
  | nil => exact ⟨[], by simp [runStages], .done content written⟩
  | cons stage rest ih =>
      simp only [runStages, runStage, Capabilities.journaled_render]
      cases can.render stage.template (stageContext context content stage.template) s with
      | mk answer s =>
          cases answer with
          | error cause => exact ⟨_, rfl, .renderFailed stage rest content written cause⟩
          | ok text =>
              simp only [Capabilities.journaled_write]
              cases can.write stage.path text s with
              | mk answer s =>
                  cases answer with
                  | error cause =>
                      exact ⟨_, List.append_assoc _ _ _,
                        .writeFailed stage rest content written text cause⟩
                  | ok =>
                      simp only [Capabilities.journaled_announce]
                      obtain ⟨actions, journaled, others⟩ := ih text stage.path
                        (can.announce (stage.index + 1) total stage.template stage.path s)
                        (journal ++ [.call ⟨stage.template,
                          stageContext context content stage.template, .ok text⟩] ++
                            [.write ⟨stage.path, text, .ok ()⟩])
                      refine ⟨_, ?_, .stage stage rest content written text actions _ others⟩
                      rw [journaled, List.append_assoc, List.append_assoc]
                      rfl

/-! ### Accounts -/

/-- How the work on a path ended, what was done for it in order, and the state that was left. -/
structure Account (σ : Type) where
  ending : Except Fault String
  actions : List Action
  state : σ

/-- Produces the file that a path describes and keeps account of it. -/
def account (can : Capabilities σ) (path : String) (context : Entries) (s : σ) : Account σ :=
  let done := processName can.journaled path (.dict context) (s, [])
  ⟨done.1, done.2.2, done.2.1⟩

/-- The account is that of the work itself. -/
theorem processName_eq_account (can : Capabilities σ) (path : String) (context : Entries) (s : σ) :
    processName can path (.dict context) s =
      ((account can path context s).ending, (account can path context s).state) :=
  processName_view can.journaled_actsAs path (.dict context) (s, [])

namespace Account

/-- The templates that were rendered. -/
def calls (run : Account σ) : List Call := callsOf run.actions

/-- The texts that were written. -/
def writes (run : Account σ) : List Write := writesOf run.actions

/-- The stage and the cause of the first action that failed. -/
def failure (run : Account σ) : Option (Nat × Fault) := failureFrom 0 run.actions

end Account

end LayeredFiles
