import LayeredFiles.Proofs.Chain.Run
import LayeredFiles.Proofs.Generator.Chains
/-
Module: LayeredFiles.Proofs.Chain.Contract
Layer: Proofs
Purpose: the contract of a chain's run, for any renderer and any place where files are kept. If nothing
  fails, every template is rendered once and in order with the text of the one before, and every stage
  writes its own file and no other. If something fails, the fault tells the stage, its template, its path
  and the cause; the stages before it have written their files, and those behind it were never touched.
  Both follow from the journal of the run and from the fact that the stages' files differ.
Main exports: Filing.Follows.stageFiles, account_of_no_failure, account_of_failure
-/

namespace LayeredFiles

variable {σ : Type} {can : Capabilities σ}

namespace Filing

/-- After writes to the first `count` files of a chain, these hold what was written, and the files
    behind them and outside the chain are as they were. -/
theorem Follows.stageFiles {files : Filing can} {name : ChainName} {start s : σ}
    {writes : List Write} (follows : files.Follows start writes s) (wellFormed : name.WellFormed)
    {count : Nat} (paths : writes.map Write.path = (stagePaths name.base name.templates).take count) :
    (∀ write ∈ writes, write.answer = .ok () → (files.form write.content).isSome ∧
      files.content s (files.fileAt start write.path) = files.form write.content) ∧
    (∀ j, count ≤ j → j < name.templates.length →
      files.content s (files.fileAt start (stagePath name.base name.templates j)) =
        files.content start (files.fileAt start (stagePath name.base name.templates j))) ∧
    (∀ file, (∀ path ∈ (stagePaths name.base name.templates).take count,
        files.fileAt start path ≠ file) →
      files.content s file = files.content start file) := by
  have distinct := files.nodup_fileAt_stagePaths start wellFormed
  have others : ∀ file, (∀ path ∈ (stagePaths name.base name.templates).take count,
      files.fileAt start path ≠ file) → files.content s file = files.content start file := by
    intro file apart
    refine follows.untouched file (fun write mem => apart write.path ?_)
    rw [← paths]
    exact List.mem_map_of_mem mem
  refine ⟨fun write mem wrote => follows.content_of_nodup ?_ mem wrote, fun j behind inRange => ?_,
    others⟩
  · have front : (writes.map Write.path).map (files.fileAt start) =
        ((stagePaths name.base name.templates).map (files.fileAt start)).take count := by
      rw [paths, List.map_take]
    rw [List.map_map] at front
    exact front ▸ distinct.sublist (List.take_sublist _ _)
  · refine others _ (fun path mem same => ?_)
    obtain ⟨i, inFront, iInRange, rfl⟩ := mem_take_stagePaths.1 mem
    have := files.fileAt_stagePath_inj start wellFormed iInRange inRange same
    omega

end Filing

/-! ### A generator for examples -/

/-- A template puts its name around the content; the one called "gone" is not there. -/
def wrapText (template : Value) (context : Entries) : Except Fault String :=
  if template.display = "gone" then .error (.noTemplate "gone" [])
  else .ok (template.display ++ "<" ++ ((context.get? contentKey).getD (.str "")).display ++ ">")

/-- A plain generator with these templates, which tells of its stages. -/
def wrapping : Generator World :=
  .ofText { Settings.default (.ofChars "/templates".toList) with verbose := true } wrapText

theorem plain_wrapping : wrapping.Plain := Generator.plain_ofText _ _

/-- A disk with nothing on it but the folder that relative paths start from. -/
def emptyWorld : World := ⟨⟨["home"], [(["home"], .folder)]⟩, ""⟩

/-! ### Runs that go well -/

/-- A run in which nothing fails renders every template once and in order, the first with the initial
    content and every other one with the text before it. The texts go to the files of the stages, which
    differ from one another and from the path; the base is the last of them and is given back. Wherever
    files are kept, these hold the texts and all others are as they were. -/
theorem account_of_no_failure (can : Capabilities σ) (path : String) (context : Entries) (s : σ)
    {base : String} {templates : List String} (parsed : ChainName.parse path = ⟨base, templates⟩)
    (nonempty : templates ≠ []) (succeeds : (account can path context s).failure = none) :
    ∃ texts : List Value,
      texts.length = templates.length ∧
      processName can path (.dict context) s = (.ok base, (account can path context s).state) ∧
      (account can path context s).calls =
        stageCalls context (initialContent context) (templates.map .str) texts ∧
      (account can path context s).calls.length = templates.length ∧
      (account can path context s).writes = stageWrites (stagePaths base templates) texts ∧
      (account can path context s).writes.length = templates.length ∧
      (stagePaths base templates).Nodup ∧ path ∉ stagePaths base templates ∧
      (stagePaths base templates).getLast? = some base ∧
      (∀ content template : Value,
        (stageContext context content template).get? contentKey = some content ∧
        (stageContext context content template).get? templateNameKey = some template ∧
        ∀ key, contentKey.equals key = false → templateNameKey.equals key = false →
          (stageContext context content template).get? key = context.get? key) ∧
      ∀ files : Filing can,
        (∀ (i : Nat) (text : Value), texts[i]? = some text → (files.form text).isSome ∧
          files.content (account can path context s).state
            (files.fileAt s (stagePath base templates i)) = files.form text) ∧
        ∀ file, (∀ path ∈ stagePaths base templates, files.fileAt s path ≠ file) →
          files.content (account can path context s).state file = files.content s file := by
  have wellFormed := ChainName.wellFormed_of_parse parsed nonempty
  obtain ⟨texts, sameLength, actions, ending⟩ :=
    (stagesRun_account parsed nonempty context s).of_no_failure succeeds
  rw [length_plan_str] at sameLength
  have writes : (account can path context s).writes =
      stageWrites (stagePaths base templates) texts := by
    rw [Account.writes, actions, writesOf_doneActions, map_path_plan]
  have calls : (account can path context s).calls =
      stageCalls context (initialContent context) (templates.map .str) texts := by
    rw [Account.calls, actions, callsOf_doneActions, map_template_plan]
  refine ⟨texts, sameLength, ?_, calls, ?_, writes, ?_, nodup_stagePaths wellFormed, ?_,
    getLast?_stagePaths base nonempty, get?_stageContext context, fun files => ?_⟩
  · rw [processName_eq_account, ending, map_path_plan, getLast?_stagePaths base nonempty,
      Option.getD_some]
  · rw [calls, length_stageCalls, List.length_map, sameLength, Nat.min_self]
  · rw [writes, length_stageWrites, length_stagePaths, sameLength, Nat.min_self]
  · rw [mem_stagePaths]
    rintro ⟨i, -, same⟩
    have differs := ChainName.stagePath_ne_of_hasChain (ChainName.hasChain_of_parse parsed nonempty) i
    rw [parsed] at differs
    exact differs same
  · have follows := files.follows_account path context s
    rw [writes] at follows
    obtain ⟨kept, -, others⟩ := follows.stageFiles wellFormed (map_path_stageWrites _ _)
    refine ⟨fun i text isText => ?_, fun file apart => others file (fun path mem => ?_)⟩
    · have inRange : i < templates.length := by
        rw [← sameLength]
        exact (List.getElem?_eq_some_iff.1 isText).1
      exact kept _ (mem_stageWrites (getElem?_stagePaths base inRange) isText) rfl
    · exact apart path (List.mem_of_mem_take mem)

/-- Empty and underscored names in a folder that is yet to be made. -/
theorem account_of_nested_names :
    ∃ texts : List Value, texts.length = 4 ∧
      (processName wrapping.chains "out//a._p.q.__r._" (.dict []) emptyWorld).1 = .ok "out/a" ∧
      (account wrapping.chains "out//a._p.q.__r._" [] emptyWorld).writes = stageWrites
        ["out/a._p._q.__r", "out/a._p._q", "out/a._p", "out/a"] texts ∧
      ∀ place, (∀ path ∈ stagePaths "out/a" ["", "_r", "q", "p"],
          emptyWorld.disk.fileAt path ≠ place) →
        (account wrapping.chains "out//a._p.q.__r._" [] emptyWorld).state.disk.contentAt place =
          emptyWorld.disk.contentAt place := by
  have parsed : ChainName.parse "out//a._p.q.__r._" = ⟨"out/a", ["", "_r", "q", "p"]⟩ := by
    decide
  have succeeds : (account wrapping.chains "out//a._p.q.__r._" [] emptyWorld).failure = none :=
    Option.isNone_iff_eq_none.1 (by decide +kernel)
  obtain ⟨texts, number, returned, -, -, writes, -, -, -, -, -, files⟩ :=
    account_of_no_failure wrapping.chains "out//a._p.q.__r._" [] emptyWorld parsed (by decide)
      succeeds
  have paths : stagePaths "out/a" ["", "_r", "q", "p"] =
      ["out/a._p._q.__r", "out/a._p._q", "out/a._p", "out/a"] := by decide
  exact ⟨texts, number, congrArg Prod.fst returned, paths ▸ writes,
    (files (wrapping.filing plain_wrapping)).2⟩

/-! ### Runs that fail -/

/-- A run whose first failing action, a rendering or a write, is at stage `k` ends with a fault that names
    the stage, its template, its path and the cause. The stages before it have left their texts in their
    files; the files behind it, and its own if it was the rendering that failed, are as they were. -/
theorem account_of_failure (can : Capabilities σ) (path : String) (context : Entries) (s : σ)
    {base : String} {templates : List String} (parsed : ChainName.parse path = ⟨base, templates⟩)
    {k : Nat} {cause : Fault}
    (fails : (account can path context s).failure = some (k, cause)) :
    ∃ (template : String) (texts : List Value) (kind : StageFailure) (answer : Except Fault Value),
      templates[k]? = some template ∧ texts.length = k ∧
      processName can path (.dict context) s =
        (.error (.stage kind k (.str template) (stagePath base templates k) cause),
          (account can path context s).state) ∧
      (account can path context s).calls =
        stageCalls context (initialContent context) (templates.map .str) texts ++
          [⟨.str template, stageContext context (texts.getLastD (initialContent context))
            (.str template), answer⟩] ∧
      (account can path context s).calls.length = k + 1 ∧
      (answer = .error cause ∧
          (account can path context s).writes = stageWrites (stagePaths base templates) texts ∨
        ∃ text, answer = .ok text ∧
          (account can path context s).writes = stageWrites (stagePaths base templates) texts ++
            [⟨stagePath base templates k, text, .error cause⟩]) ∧
      ∀ files : Filing can,
        (∀ (i : Nat) (text : Value), texts[i]? = some text → (files.form text).isSome ∧
          files.content (account can path context s).state
            (files.fileAt s (stagePath base templates i)) = files.form text) ∧
        (∀ j : Nat, k < j ∨ j = k ∧ answer = .error cause → j < templates.length →
          files.content (account can path context s).state
              (files.fileAt s (stagePath base templates j)) =
            files.content s (files.fileAt s (stagePath base templates j))) ∧
        ∀ file, (∀ path ∈ stagePaths base templates, files.fileAt s path ≠ file) →
          files.content (account can path context s).state file = files.content s file := by
  have nonempty : templates ≠ [] := by
    rintro rfl
    simp [account_of_nil parsed, Account.failure, failureFrom] at fails
  have wellFormed := ChainName.wellFormed_of_parse parsed nonempty
  obtain ⟨stage, texts, kind, answer, last, found, number, ending, actions, called, wrote⟩ :=
    (stagesRun_account parsed nonempty context s).of_failure fails
  obtain rfl : k = texts.length := by omega
  rw [getElem?_plan_str] at found
  obtain ⟨template, isTemplate, rfl⟩ := Option.map_eq_some_iff.1 found
  have inRange : texts.length < templates.length := (List.getElem?_eq_some_iff.1 isTemplate).1
  have calls : (account can path context s).calls =
      stageCalls context (initialContent context) (templates.map .str) texts ++
        [⟨.str template, stageContext context (texts.getLastD (initialContent context))
          (.str template), answer⟩] := by
    rw [Account.calls, actions, callsOf_append, callsOf_doneActions, map_template_plan, called]
  have writes : (account can path context s).writes =
      stageWrites (stagePaths base templates) texts ++ writesOf last := by
    rw [Account.writes, actions, writesOf_append, writesOf_doneActions, map_path_plan]
  refine ⟨template, texts, kind, answer, isTemplate, rfl, ?_, calls, ?_, ?_, fun files => ?_⟩
  · rw [processName_eq_account, ending]
  · rw [calls, List.length_append, length_stageCalls, List.length_map, List.length_singleton,
      Nat.min_eq_right (Nat.le_of_lt inRange)]
  · rcases wrote with ⟨failed, wrote⟩ | ⟨text, rendered, wrote⟩
    · exact Or.inl ⟨failed, by rw [writes, wrote, List.append_nil]⟩
    · exact Or.inr ⟨text, rendered, by rw [writes, wrote]⟩
  · have follows := files.follows_account path context s
    obtain ⟨count, paths, atLeast, atMost, unwritten⟩ :=
      map_path_of_failure (getElem?_stagePaths base inRange) wrote
    rw [← writes] at paths
    obtain ⟨kept, behind, others⟩ := follows.stageFiles wellFormed paths
    refine ⟨fun i text isText => ?_, fun j isLater jInRange => ?_, fun file apart => ?_⟩
    · have iInRange : i < templates.length :=
        Nat.lt_trans (List.getElem?_eq_some_iff.1 isText).1 inRange
      refine kept ⟨stagePath base templates i, text, .ok ()⟩ ?_ rfl
      rw [writes]
      exact List.mem_append_left _ (mem_stageWrites (getElem?_stagePaths base iInRange) isText)
    · refine behind j ?_ jInRange
      rcases isLater with later | ⟨rfl, failed⟩
      · omega
      · rw [unwritten failed]
    · exact others file (fun path mem => apart path (List.mem_of_mem_take mem))

/-- The second template is not there, so the first file is written and the last one is not. -/
theorem account_of_missing_template :
    ∃ texts : List Value, ∃ kind cause, texts.length = 1 ∧
      (processName wrapping.chains "out/a._p._gone._r" (.dict []) emptyWorld).1 =
        .error (.stage kind 1 (.str "gone") "out/a._p" cause) ∧
      (account wrapping.chains "out/a._p._gone._r" [] emptyWorld).calls.length = 2 := by
  have parsed : ChainName.parse "out/a._p._gone._r" = ⟨"out/a", ["r", "gone", "p"]⟩ := by
    decide
  have failed : (account wrapping.chains "out/a._p._gone._r" [] emptyWorld).failure.map Prod.fst =
      some 1 := by decide
  obtain ⟨⟨_, cause⟩, fails, rfl⟩ := Option.map_eq_some_iff.1 failed
  obtain ⟨template, texts, kind, answer, isTemplate, number, raised, -, calls, -, -⟩ :=
    account_of_failure wrapping.chains "out/a._p._gone._r" [] emptyWorld parsed fails
  obtain rfl : "gone" = template := by simpa using isTemplate
  have place : stagePath "out/a" ["r", "gone", "p"] ((1 : Nat) : Int) = "out/a._p" := by
    decide
  refine ⟨texts, kind, cause, number, ?_, calls⟩
  rw [raised, place]

end LayeredFiles
