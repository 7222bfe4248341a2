import LayeredFiles.Proofs.Chain.Run
/-
Module: LayeredFiles.Proofs.Chain.Ahead
Layer: Proofs
Purpose: two runs side by side, one of which is ahead of the other by some stages. Once some stages went
  well, a run is the run of the stages behind them. If rendering is a function of identifier and context
  that does not look at the initial content, the same stages, once late in a chain and once early in
  another, do the same and leave states that are alike, and a fault differs in the number of its stage only.
Main exports: runTo, runStages_append, IgnoresInitialContent, Capabilities.RendersBy,
  Capabilities.Respects, Stage.later, Fault.later, plan_drop, Ahead, runStages_ahead
-/

namespace LayeredFiles

variable {σ : Type}

/-! ### Running up to a stage -/

/-- Runs stages one after another and gives the text of the last one, or the content that they start
    from if there are none. -/
def runTo (can : Capabilities σ) (total : Nat) (context : Entries) :
    List Stage → Value → σ → Except Fault Value × σ
  | [], content, s => (.ok content, s)
  | stage :: rest, content, s =>
    match runStage can context stage content s with
    | (.error fault, s) => (.error fault, s)
    | (.ok text, s) => runTo can total context rest text
        (can.announce (stage.index + 1) total stage.template stage.path s)

/-- Once some stages went well, a run is the run of the stages behind them from their text. Each of the
    stages that are done has left one call and one write in the journal. -/
theorem runStages_append {can : Capabilities σ} {total : Nat} {context : Entries}
    {first : List Stage} {content text : Value} {s s' : σ}
    (reached : runTo can total context first content s = (.ok text, s')) (rest : List Stage)
    (written : String) (journal : List Action) :
    ∃ actions, (callsOf actions).length = first.length ∧ (writesOf actions).length = first.length ∧
      runStages can.journaled total context (first ++ rest) content written (s, journal) =
        runStages can.journaled total context rest text
          ((first.map Stage.path).getLast?.getD written) (s', journal ++ actions) := by
  induction first generalizing content written s journal with
  | nil =>
      simp only [runTo, Prod.mk.injEq, Except.ok.injEq] at reached
      obtain ⟨rfl, rfl⟩ := reached
      exact ⟨[], rfl, rfl, by simp⟩
  | cons stage others ih =>
      simp only [runTo, runStage] at reached
      simp only [List.cons_append, runStages, runStage, Capabilities.journaled_render]
      cases rendered : can.render stage.template (stageContext context content stage.template) s with
      | mk answer s₁ =>
          rw [rendered] at reached
          cases answer with
          | error cause => simp at reached
          | ok made =>
              simp only [Capabilities.journaled_write]
              cases wrote : can.write stage.path made s₁ with
              | mk answer s₂ =>
                  simp only [wrote] at reached
                  cases answer with
                  | error cause => simp at reached
                  | ok =>
                      simp only [Capabilities.journaled_announce]
                      obtain ⟨actions, calls, writes, same⟩ := ih reached stage.path
                        (journal ++ [.call ⟨stage.template,
                          stageContext context content stage.template, .ok made⟩] ++
                            [.write ⟨stage.path, made, .ok ()⟩])
                      refine ⟨.call ⟨stage.template, stageContext context content stage.template,
                        .ok made⟩ :: .write ⟨stage.path, made, .ok ()⟩ :: actions,
                        by simp [callsOf, calls], by simp [writesOf, writes], ?_⟩
                      rw [same, List.map_cons, List.getLast?_cons, Option.getD_some,
                        List.append_assoc, List.append_assoc]
                      rfl

/-- A run with stages left does not depend on what was written before. -/
theorem runStages_written {can : Capabilities σ} {total : Nat} {context : Entries}
    {stages : List Stage} (nonempty : stages ≠ []) (content : Value) (written written' : String)
    (s : σ) :
    runStages can total context stages content written s =
      runStages can total context stages content written' s := by
  cases stages with
  | nil => exact absurd rfl nonempty
  | cons stage rest => rfl

/-! ### Runs that cannot be told apart -/

/-- The renderer gives the same for contexts that differ in the initial content only. -/
def IgnoresInitialContent (text : Value → Entries → Except Fault String) : Prop :=
  ∀ template (context other : Entries),
    context.without initialContentKey = other.without initialContentKey →
    text template context = text template other

/-- Rendering is a function of identifier and context that gives texts. -/
def Capabilities.RendersBy (can : Capabilities σ) (text : Value → Entries → Except Fault String) :
    Prop :=
  ∀ template context s, (can.render template context s).1 = (text template context).map .str

/-- States that are alike answer writes alike, and whatever is done in both leaves them alike. -/
structure Capabilities.Respects (can : Capabilities σ) (alike : σ → σ → Prop) : Prop where
  render_state : ∀ template context context' s s', alike s s' →
    alike (can.render template context s).2 (can.render template context' s').2
  write_answer : ∀ path content s s', alike s s' →
    (can.write path content s).1 = (can.write path content s').1
  write_state : ∀ path content s s', alike s s' →
    alike (can.write path content s).2 (can.write path content s').2
  announce_state : ∀ number number' total total' template path s s', alike s s' →
    alike (can.announce number total template path s) (can.announce number' total' template path s')

/-- A stage of a renderer that gives texts gives a text. -/
theorem text_of_runStage {can : Capabilities σ} {text : Value → Entries → Except Fault String}
    (renders : can.RendersBy text) {context : Entries} {stage : Stage} {content made : Value}
    {s s' : σ} (done : runStage can context stage content s = (.ok made, s')) :
    ∃ c, made = .str c := by
  have answered := renders stage.template (stageContext context content stage.template) s
  simp only [runStage] at done
  split at done
  · cases done
  · rename_i answer _ rendered
    rw [rendered] at answered
    split at done
    · cases done
    · obtain ⟨rfl, -⟩ : answer = made ∧ _ := by simpa using done
      cases texted : text stage.template (stageContext context content stage.template) with
      | error cause =>
          rw [texted] at answered
          cases answered
      | ok c =>
          rw [texted] at answered
          cases answered
          exact ⟨c, rfl⟩

/-- Stages of a renderer that gives texts end with a text. -/
theorem text_of_runTo {can : Capabilities σ} {text : Value → Entries → Except Fault String}
    (renders : can.RendersBy text) {total : Nat} {context : Entries} {stages : List Stage}
    (nonempty : stages ≠ []) {content last : Value} {s s' : σ}
    (reached : runTo can total context stages content s = (.ok last, s')) : ∃ c, last = .str c := by
  induction stages generalizing content s with
  | nil => exact absurd rfl nonempty
  | cons stage rest ih =>
      simp only [runTo] at reached
      split at reached
      · cases reached
      · rename_i done
        cases rest with
        | nil =>
            obtain ⟨rfl, -⟩ : _ = last ∧ _ := by simpa [runTo] using reached
            exact text_of_runStage renders done
        | cons next rest => exact ih (List.cons_ne_nil next rest) reached

/-- Without the initial content, the context of a stage is made from the caller's without it. -/
theorem without_stageContext (context : Entries) (content template : Value) :
    (stageContext context content template).without initialContentKey =
      stageContext (context.without initialContentKey) content template := by
  simp only [stageContext, contentKey, templateNameKey, initialContentKey]
  rw [Entries.without_set_of_ne _ _ (by decide), Entries.without_set_of_ne _ _ (by decide)]

/-- The text that a run starts from is the initial content, if that is a text. -/
theorem initialContent_set_str (context : Entries) (text : String) :
    initialContent (context.set initialContentKey (.str text)) = .str text := by
  rw [initialContent, initialContentKey, Entries.get?_set_self]
  by_cases empty : text = ""
  · simp [Value.isTrue, empty]
  · simp [Value.isTrue, empty]

/-- A call with a key removed from its context. -/
def Call.without (key : Value) (call : Call) : Call :=
  { call with context := call.context.without key }

/-- An action with a key removed from its context. -/
def Action.without (key : Value) : Action → Action
  | .call made => .call (made.without key)
  | .write done => .write done

@[simp] theorem callsOf_map_without (key : Value) (actions : List Action) :
    callsOf (actions.map (Action.without key)) = (callsOf actions).map (Call.without key) := by
  induction actions with
  | nil => rfl
  | cons action rest ih => cases action <;> simp [callsOf, Action.without, ih]

@[simp] theorem writesOf_map_without (key : Value) (actions : List Action) :
    writesOf (actions.map (Action.without key)) = writesOf actions := by
  induction actions with
  | nil => rfl
  | cons action rest ih => cases action <;> simp [writesOf, Action.without, ih]

/-! ### Later stages -/

/-- The stage as one that comes later in its chain. -/
def Stage.later (count : Nat) (stage : Stage) : Stage := { stage with index := stage.index + count }

/-- The fault of a stage as that of a later one. -/
def Fault.later (count : Nat) : Fault → Fault
  | .stage kind number id place cause => .stage kind (number + count) id place cause
  | fault => fault

theorem renderFault_later (count : Nat) (stage : Stage) (cause : Fault) :
    renderFault (stage.later count) cause = (renderFault stage cause).later count := by
  unfold renderFault
  split <;> rfl

/-- The templates behind the stage `count` of what is left are those behind a later stage of all. -/
theorem pending_drop {α : Type} (templates : List α) (count i : Nat) :
    pending (templates.drop count) (i : Int) = pending templates ((i + count : Nat) : Int) := by
  rw [pending_eq_drop _ (by omega), pending_eq_drop _ (by omega), List.drop_drop]
  congr 1
  omega

/-- The plan of what is left of a chain is the rest of its plan. -/
theorem plan_drop (base : String) (templates : List String) (count : Nat) :
    (plan base (templates.map .str)).drop count =
      (plan base ((templates.drop count).map .str)).map (Stage.later count) := by
  refine List.ext_getElem? (fun i => ?_)
  have samePath : stagePath base (templates.drop count) i =
      stagePath base templates ((i + count : Nat) : Int) := by
    simp only [stagePath, pending_drop]
  rw [List.getElem?_map, getElem?_plan_str, List.getElem?_drop, getElem?_plan_str,
    List.getElem?_drop, Option.map_map, Nat.add_comm count i]
  congr 1
  funext template
  simp only [Function.comp, Stage.later, samePath]

/-- The states and journals of a run and of one that is the same but for some actions in front. -/
structure Ahead (alike : σ → σ → Prop) (front : List Action) (whole resumed : σ × List Action) :
    Prop where
  state : alike whole.1 resumed.1
  journal : whole.2.map (Action.without initialContentKey) =
    front ++ resumed.2.map (Action.without initialContentKey)

section Ahead

variable {can : Capabilities σ} {alike : σ → σ → Prop} {text : Value → Entries → Except Fault String}
  {context context' : Entries} {front : List Action} {s s' : σ} {journal journal' : List Action}

/-- A stage of the whole run and the same stage of the resumed one end alike. -/
theorem runStage_ahead (renders : can.RendersBy text) (ignores : IgnoresInitialContent text)
    (respects : can.Respects alike)
    (same : context.without initialContentKey = context'.without initialContentKey)
    (ahead : Ahead alike front (s, journal) (s', journal')) (count : Nat) (stage : Stage)
    (content : Value) :
    let whole := runStage can.journaled context (stage.later count) content (s, journal)
    let resumed := runStage can.journaled context' stage content (s', journal')
    whole.1 = resumed.1.mapError (Fault.later count) ∧ Ahead alike front whole.2 resumed.2 := by
  obtain ⟨sameState, sameJournal⟩ := ahead
  have sameContext : (stageContext context content stage.template).without initialContentKey =
      (stageContext context' content stage.template).without initialContentKey := by
    rw [without_stageContext, without_stageContext, same]
  have sameAnswer : (can.render stage.template (stageContext context content stage.template) s).1 =
      (can.render stage.template (stageContext context' content stage.template) s').1 := by
    rw [renders, renders, ignores _ _ _ sameContext]
  have rendered := respects.render_state stage.template
    (stageContext context content stage.template) (stageContext context' content stage.template)
    s s' sameState
  simp only [runStage, Stage.later, Capabilities.journaled_render, sameAnswer]
  cases (can.render stage.template (stageContext context' content stage.template) s').1 with
  | error cause =>
      refine ⟨congrArg Except.error (renderFault_later count stage cause), rendered, ?_⟩
      simp [Action.without, Call.without, sameContext, sameJournal]
  | ok made =>
      simp only [Capabilities.journaled_write, respects.write_answer _ _ _ _ rendered]
      have wrote := respects.write_state stage.path made _ _ rendered
      cases (can.write stage.path made _).1 with
      | error cause =>
          refine ⟨rfl, wrote, ?_⟩
          simp [Action.without, Call.without, sameContext, sameJournal]
      | ok =>
          refine ⟨rfl, wrote, ?_⟩
          simp [Action.without, Call.without, sameContext, sameJournal]

/-- The stages of the whole run and the same stages of the resumed one end alike. -/
theorem runStages_ahead (renders : can.RendersBy text) (ignores : IgnoresInitialContent text)
    (respects : can.Respects alike)
    (same : context.without initialContentKey = context'.without initialContentKey)
    (ahead : Ahead alike front (s, journal) (s', journal')) (count total total' : Nat)
    (stages : List Stage) (content : Value) (written : String) :
    let whole := runStages can.journaled total context (stages.map (Stage.later count)) content
      written (s, journal)
    let resumed := runStages can.journaled total' context' stages content written (s', journal')
    whole.1 = resumed.1.mapError (Fault.later count) ∧ Ahead alike front whole.2 resumed.2 := by
  -- On the stages that are left, keeping that the states are alike and one journal is ahead.
  induction stages generalizing content written s s' journal journal' with
  | nil => exact ⟨rfl, ahead⟩
  | cons stage rest ih =>
      obtain ⟨sameAnswer, ahead⟩ :=
        runStage_ahead renders ignores respects same ahead count stage content
      simp only [List.map_cons, runStages]
      generalize runStage can.journaled context (stage.later count) content (s, journal) = whole
        at sameAnswer ahead ⊢
      generalize runStage can.journaled context' stage content (s', journal') = resumed
        at sameAnswer ahead ⊢
      obtain ⟨answer, s, journal⟩ := whole
      obtain ⟨answer', s', journal'⟩ := resumed
      obtain rfl : answer = answer'.mapError (Fault.later count) := sameAnswer
      cases answer' with
      | error fault => exact ⟨rfl, ahead⟩
      | ok made =>
          refine ih ⟨respects.announce_state _ _ _ _ _ _ _ _ ahead.state, ?_⟩ made stage.path
          exact ahead.journal

end Ahead

end LayeredFiles
