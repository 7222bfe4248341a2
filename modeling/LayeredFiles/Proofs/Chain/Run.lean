import LayeredFiles.Proofs.Chain.Filing
import LayeredFiles.Proofs.Chain.Name
import LayeredFiles.Proofs.Value.Entries
import Mathlib.Data.List.Nodup
/-
Module: LayeredFiles.Proofs.Chain.Run
Layer: Proofs
Purpose: what the journal of a chain's run shows. Without a failure it has one call and one write for each
  stage of the plan; with one it is the same up to the failing stage, whose fault ends the run. The stages
  of a chain write to different files, wherever files are kept.
Main exports: stagePaths, stageCalls, stageWrites, StagesRun.of_no_failure, StagesRun.of_failure,
  StagesRun.last_of_ok, stagesRun_account, Filing.nodup_fileAt_stagePaths
-/

namespace LayeredFiles

variable {σ : Type}

/-! ### Contexts of stages -/

/-- The context of a stage has the content and the template's name, whatever the caller bound to their
    keys, and is otherwise the caller's. -/
theorem get?_stageContext (context : Entries) (content template : Value) :
    (stageContext context content template).get? contentKey = some content ∧
      (stageContext context content template).get? templateNameKey = some template ∧
      ∀ key, contentKey.equals key = false → templateNameKey.equals key = false →
        (stageContext context content template).get? key = context.get? key := by
  refine ⟨?_, Entries.get?_set_self _ _ _, ?_⟩
  · rw [stageContext, templateNameKey, Entries.get?_set_of_not_equals _ _ (by simp [contentKey]),
      contentKey, Entries.get?_set_self]
  · intro key notContent notTemplate
    rw [stageContext, templateNameKey, Entries.get?_set_of_not_equals _ _ notTemplate, contentKey,
      Entries.get?_set_of_not_equals _ _ notContent]

/-! ### Plans -/

/-- The files of a chain, in the order in which its stages write them. -/
def stagePaths (base : String) (templates : List String) : List String :=
  (List.range templates.length).map (fun (i : Nat) => stagePath base templates i)

@[simp] theorem length_stagePaths (base : String) (templates : List String) :
    (stagePaths base templates).length = templates.length := by
  simp [stagePaths]

theorem plan_str (base : String) (templates : List String) :
    plan base (templates.map .str) =
      templates.zipIdx.map (fun t => ⟨t.2, .str t.1, stagePath base templates t.2⟩) := by
  have shown : (templates.map Value.str).map Value.display = templates := by
    simp [Function.comp_def, Value.display]
  rw [plan, shown, List.zipIdx_map, List.map_map]
  rfl

@[simp] theorem length_plan_str (base : String) (templates : List String) :
    (plan base (templates.map .str)).length = templates.length := by
  simp [plan_str]

@[simp] theorem map_template_plan (base : String) (templates : List String) :
    (plan base (templates.map .str)).map Stage.template = templates.map .str := by
  have names : templates.zipIdx.map Prod.fst = templates := List.zipIdx_map_fst _ _
  rw [plan_str, List.map_map]
  conv_rhs => rw [← names, List.map_map]
  rfl

@[simp] theorem map_path_plan (base : String) (templates : List String) :
    (plan base (templates.map .str)).map Stage.path = stagePaths base templates := by
  have numbers : templates.zipIdx.map Prod.snd = List.range templates.length := by
    rw [List.zipIdx_map_snd, List.range_eq_range']
  rw [plan_str, List.map_map, stagePaths, ← numbers, List.map_map]
  rfl

theorem getElem?_plan_str (base : String) (templates : List String) (k : Nat) :
    (plan base (templates.map .str))[k]? =
      templates[k]?.map (fun template => ⟨k, .str template, stagePath base templates k⟩) := by
  simp [plan_str, Function.comp_def]

/-- The last file of a chain is its base. -/
theorem getLast?_stagePaths (base : String) {templates : List String} (nonempty : templates ≠ []) :
    (stagePaths base templates).getLast? = some base := by
  have positive : 0 < templates.length := List.length_pos_iff.2 nonempty
  have done : pending templates ((templates.length - 1 : Nat) : Int) = [] := by
    rw [pending_eq_drop _ (by omega), List.drop_eq_nil_iff]
    omega
  rw [stagePaths, List.getLast?_map, List.getLast?_range, if_neg (by omega), Option.map_some,
    stagePath_of_pending_nil done]

/-! ### What the journal of a run shows -/

/-- The calls that render some templates to these texts: the first starts from the content, every other
    one from the text before it. -/
def stageCalls (context : Entries) (content : Value) (templates texts : List Value) : List Call :=
  ((templates.zip (content :: texts)).zip texts).map (fun stage =>
    ⟨stage.1.1, stageContext context stage.1.2 stage.1.1, .ok stage.2⟩)

/-- Writes of these texts to these paths that all went well. -/
def stageWrites (paths : List String) (texts : List Value) : List Write :=
  (paths.zip texts).map (fun stage => ⟨stage.1, stage.2, .ok ()⟩)

theorem length_stageCalls (context : Entries) (content : Value) (templates texts : List Value) :
    (stageCalls context content templates texts).length = min templates.length texts.length := by
  simp [stageCalls]

theorem length_stageWrites (paths : List String) (texts : List Value) :
    (stageWrites paths texts).length = min paths.length texts.length := by
  simp [stageWrites]

theorem map_path_stageWrites (paths : List String) (texts : List Value) :
    (stageWrites paths texts).map Write.path = paths.take texts.length := by
  induction paths generalizing texts with
  | nil => simp [stageWrites]
  | cons path rest ih =>
      cases texts with
      | nil => rfl
      | cons text texts => simpa [stageWrites] using ih texts

/-- The writes of a failing run go to the first of the paths, the last of them to that of the failing
    stage if its template was rendered. -/
theorem map_path_of_failure {paths : List String} {texts : List Value} {path : String}
    {answer : Except Fault Value} {cause : Fault} {last : List Write}
    (isPath : paths[texts.length]? = some path)
    (wrote : answer = .error cause ∧ last = [] ∨
      ∃ text, answer = .ok text ∧ last = [⟨path, text, .error cause⟩]) :
    ∃ count, (stageWrites paths texts ++ last).map Write.path = paths.take count ∧
      texts.length ≤ count ∧ count ≤ texts.length + 1 ∧
      (answer = .error cause → count = texts.length) := by
  rcases wrote with ⟨-, rfl⟩ | ⟨text, rendered, rfl⟩
  · refine ⟨texts.length, ?_, Nat.le_refl _, Nat.le_succ _, fun _ => rfl⟩
    rw [List.append_nil, map_path_stageWrites]
  · refine ⟨texts.length + 1, ?_, Nat.le_succ _, Nat.le_refl _, fun failed => ?_⟩
    · rw [List.map_append, map_path_stageWrites, List.take_add_one, isPath]
      rfl
    · rw [rendered] at failed
      cases failed

theorem mem_stageWrites {paths : List String} {texts : List Value} {i : Nat} {path : String}
    {text : Value} (isPath : paths[i]? = some path) (isText : texts[i]? = some text) :
    ⟨path, text, .ok ()⟩ ∈ stageWrites paths texts := by
  have isPair : (paths.zip texts)[i]? = some (path, text) := by
    simp [List.getElem?_zip_eq_some, isPath, isText]
  exact List.mem_map.2 ⟨(path, text), List.mem_of_getElem? isPair, rfl⟩

/-- The actions of stages that render these texts and write them. -/
def doneActions (context : Entries) : Value → List (Stage × Value) → List Action
  | _, [] => []
  | content, (stage, text) :: rest =>
    .call ⟨stage.template, stageContext context content stage.template, .ok text⟩ ::
      .write ⟨stage.path, text, .ok ()⟩ :: doneActions context text rest

theorem callsOf_doneActions (context : Entries) (content : Value) (stages : List Stage)
    (texts : List Value) :
    callsOf (doneActions context content (stages.zip texts)) =
      stageCalls context content (stages.map Stage.template) texts := by
  induction stages generalizing content texts with
  | nil => rfl
  | cons stage rest ih =>
      cases texts with
      | nil => rfl
      | cons text texts => simp [doneActions, callsOf, ih, stageCalls]

theorem writesOf_doneActions (context : Entries) (content : Value) (stages : List Stage)
    (texts : List Value) :
    writesOf (doneActions context content (stages.zip texts)) =
      stageWrites (stages.map Stage.path) texts := by
  induction stages generalizing content texts with
  | nil => rfl
  | cons stage rest ih =>
      cases texts with
      | nil => rfl
      | cons text texts => simp [doneActions, writesOf, ih, stageWrites]

namespace StagesRun

variable {context : Entries} {stages : List Stage} {content : Value} {written : String}
  {actions : List Action} {ending : Except Fault String}

/-- Without a failure every stage has rendered and written a text, and the last path is given. -/
theorem of_no_failure (run : StagesRun context stages content written actions ending) {number : Nat}
    (succeeds : failureFrom number actions = none) :
    ∃ texts, texts.length = stages.length ∧
      actions = doneActions context content (stages.zip texts) ∧
      ending = .ok ((stages.map Stage.path).getLast?.getD written) := by
  -- On the journal, with any number for its first stage: every stage counts one further.
  induction run generalizing number with
  | done content written => exact ⟨[], rfl, rfl, rfl⟩
  | renderFailed stage rest content written cause => simp [failureFrom] at succeeds
  | writeFailed stage rest content written text cause => simp [failureFrom] at succeeds
  | stage stage rest content written text actions ending _ ih =>
      simp only [failureFrom] at succeeds
      obtain ⟨texts, sameLength, rfl, rfl⟩ := ih succeeds
      refine ⟨text :: texts, by simp [sameLength], rfl, ?_⟩
      rw [List.map_cons, List.getLast?_cons, Option.getD_some]

/-- The fault of a rendering names the stage and keeps the cause. -/
theorem renderFault_eq (stage : Stage) (cause : Fault) :
    ∃ kind, renderFault stage cause =
      .stage kind stage.index stage.template stage.path cause := by
  unfold renderFault
  split
  · exact ⟨.lookup, rfl⟩
  · exact ⟨.rendering, rfl⟩

/-- With a failure, the stages before the failing one have rendered and written a text each, and the
    failing one was rendered and, if that went well, written. -/
theorem of_failure (run : StagesRun context stages content written actions ending) {number k : Nat}
    {cause : Fault} (fails : failureFrom number actions = some (k, cause)) :
    ∃ stage texts kind answer last,
      stages[texts.length]? = some stage ∧ k = number + texts.length ∧
      ending = .error (.stage kind stage.index stage.template stage.path cause) ∧
      actions = doneActions context content (stages.zip texts) ++ last ∧
      callsOf last =
        [⟨stage.template, stageContext context (texts.getLastD content) stage.template, answer⟩] ∧
      (answer = .error cause ∧ writesOf last = [] ∨
        ∃ text, answer = .ok text ∧ writesOf last = [⟨stage.path, text, .error cause⟩]) := by
  induction run generalizing number with
  | done content written => simp [failureFrom] at fails
  | renderFailed stage rest content written cause' =>
      simp only [failureFrom, Option.some.injEq, Prod.mk.injEq] at fails
      obtain ⟨rfl, rfl⟩ := fails
      obtain ⟨kind, fault⟩ := renderFault_eq stage cause'
      exact ⟨stage, [], kind, .error cause', _, rfl, rfl, by rw [fault], rfl, rfl,
        Or.inl ⟨rfl, rfl⟩⟩
  | writeFailed stage rest content written text cause' =>
      simp only [failureFrom, Option.some.injEq, Prod.mk.injEq] at fails
      obtain ⟨rfl, rfl⟩ := fails
      exact ⟨stage, [], .writing, .ok text, _, rfl, rfl, rfl, rfl, rfl, Or.inr ⟨text, rfl, rfl⟩⟩
  | stage stage rest content written text actions ending _ ih =>
      simp only [failureFrom] at fails
      obtain ⟨failing, texts, kind, answer, last, found, rfl, rfl, rfl, called, wrote⟩ := ih fails
      refine ⟨failing, text :: texts, kind, answer, last, by simpa using found, ?_, rfl, rfl, ?_,
        wrote⟩
      · rw [List.length_cons]
        omega
      · rw [called, List.getLastD_cons]

/-- Stages that go well end with the write of the text that was rendered last to the path that is given
    back. -/
theorem last_of_ok (run : StagesRun context stages content written actions ending) {path : String}
    (ended : ending = .ok path) (nonempty : stages ≠ []) :
    (stages.map Stage.path).getLast? = some path ∧ ∃ front text,
      writesOf actions = front ++ [⟨path, text, .ok ()⟩] ∧
      (callsOf actions).getLast?.bind (fun call => call.answer.toOption) = some text := by
  induction run with
  | done content written => exact absurd rfl nonempty
  | renderFailed stage rest content written cause => cases ended
  | writeFailed stage rest content written text cause => cases ended
  | stage stage rest content written text actions ending others ih =>
      cases rest with
      | nil =>
          cases others with
          | done =>
              cases ended
              exact ⟨rfl, [], text, rfl, rfl⟩
      | cons next rest =>
          obtain ⟨last, front, text', wrote, rendered⟩ := ih ended nofun
          refine ⟨last, ⟨stage.path, text, .ok ()⟩ :: front, text', ?_, ?_⟩
          · rw [writesOf, writesOf, wrote, List.cons_append]
          · obtain ⟨call, isLast, answered⟩ := Option.bind_eq_some_iff.1 rendered
            rw [callsOf, callsOf, List.getLast?_cons, isLast]
            exact answered

end StagesRun

/-! ### Accounts of chains -/

/-- A mapping is taken as a context as it is. -/
theorem entriesOf_dict (context : Entries) : entriesOf (.dict context) = .ok context := by
  cases context with
  | nil => rfl
  | cons e rest => rfl

section Account

variable {can : Capabilities σ} {path base : String} {templates : List String}

/-- The account of a path with a chain is that of the stages of its plan. -/
theorem account_eq (parsed : ChainName.parse path = ⟨base, templates⟩) (nonempty : templates ≠ [])
    (context : Entries) (s : σ) :
    account can path context s =
      let done := runStages can.journaled templates.length context (plan base (templates.map .str))
        (initialContent context) base (s, [])
      ⟨done.1, done.2.2, done.2.1⟩ := by
  have chained : (ChainName.parse path).hasChain = true := by
    simpa [parsed, ChainName.hasChain] using nonempty
  simp only [account, processName, if_pos chained, entriesOf_dict]
  simp only [parsed, applyChain, List.length_map]

theorem account_of_nil (parsed : ChainName.parse path = ⟨base, []⟩) (context : Entries) (s : σ) :
    account can path context s = ⟨.ok path, [], s⟩ := by
  simp [account, processName, parsed, ChainName.hasChain]

/-- The journal in the account of a path with a chain is one of its plan. -/
theorem stagesRun_account (parsed : ChainName.parse path = ⟨base, templates⟩)
    (nonempty : templates ≠ []) (context : Entries) (s : σ) :
    StagesRun context (plan base (templates.map .str)) (initialContent context) base
      (account can path context s).actions (account can path context s).ending := by
  obtain ⟨actions, journaled, run⟩ := stagesRun_journaled can templates.length context
    (plan base (templates.map .str)) (initialContent context) base s []
  rw [List.nil_append] at journaled
  rw [account_eq parsed nonempty]
  simpa only [journaled] using run

end Account

/-! ### The files of a chain -/

theorem mem_stagePaths {base : String} {templates : List String} {path : String} :
    path ∈ stagePaths base templates ↔
      ∃ i < templates.length, stagePath base templates i = path := by
  simp [stagePaths]

theorem mem_take_stagePaths {base : String} {templates : List String} {count : Nat} {path : String} :
    path ∈ (stagePaths base templates).take count ↔
      ∃ i, i < count ∧ i < templates.length ∧ stagePath base templates i = path := by
  simp only [stagePaths, ← List.map_take, List.take_range, List.mem_map, List.mem_range, Nat.lt_min,
    and_assoc]

theorem getElem?_stagePaths (base : String) {templates : List String} {i : Nat}
    (inRange : i < templates.length) :
    (stagePaths base templates)[i]? = some (stagePath base templates i) := by
  simp [stagePaths, inRange]

namespace Filing

variable {can : Capabilities σ} {name : ChainName}

/-- Different stages of a chain write to different files. -/
theorem fileAt_stagePath_inj (files : Filing can) (s : σ) (wellFormed : name.WellFormed) {i j : Nat}
    (iInRange : i < name.templates.length) (jInRange : j < name.templates.length)
    (same : files.fileAt s (stagePath name.base name.templates i) =
      files.fileAt s (stagePath name.base name.templates j)) : i = j :=
  wellFormed.fileName_stagePath_inj iInRange jInRange (files.fileName_eq s _ _ same)

/-- The files of a chain's stages are pairwise different. -/
theorem nodup_fileAt_stagePaths (files : Filing can) (s : σ) (wellFormed : name.WellFormed) :
    ((stagePaths name.base name.templates).map (files.fileAt s)).Nodup := by
  rw [stagePaths, List.map_map]
  refine List.Nodup.map_on (fun i iMem j jMem same => ?_) List.nodup_range
  exact files.fileAt_stagePath_inj s wellFormed (List.mem_range.1 iMem) (List.mem_range.1 jMem) same

end Filing

/-- The paths of a chain's stages are pairwise different. -/
theorem nodup_stagePaths {name : ChainName} (wellFormed : name.WellFormed) :
    (stagePaths name.base name.templates).Nodup := by
  refine List.Nodup.map_on (fun i iMem j jMem same => ?_) List.nodup_range
  exact wellFormed.fileName_stagePath_inj (List.mem_range.1 iMem) (List.mem_range.1 jMem)
    (congrArg Path.fileName same)

end LayeredFiles
