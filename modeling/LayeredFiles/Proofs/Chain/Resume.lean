import LayeredFiles.Proofs.Chain.Ahead
import LayeredFiles.Proofs.Chain.Contract
/-
Module: LayeredFiles.Proofs.Chain.Resume
Layer: Proofs
Purpose: a chain can be taken up again at any file that one of its stages has written. The name of that
  file names the stages that are left, and its text is the content that they start from. The run that
  starts there does what the first run does behind that stage, down to the fault that ends it.
Main exports: account_ahead, chain_resumes
-/

namespace LayeredFiles

variable {σ : Type}

/-- A run that ends with a path gave the base, and one that ends with a fault names a stage. -/
theorem ending_account (can : Capabilities σ) {path base : String} {templates : List String}
    (parsed : ChainName.parse path = ⟨base, templates⟩) (nonempty : templates ≠ [])
    (context : Entries) (s : σ) :
    (account can path context s).ending = .ok base ∨
      ∃ kind index template place cause,
        (account can path context s).ending = .error (.stage kind index template place cause) := by
  have run : StagesRun context _ _ base (account can path context s).actions _ :=
    stagesRun_account parsed nonempty context s
  cases failed : failureFrom 0 (account can path context s).actions with
  | none =>
      obtain ⟨texts, -, -, ending⟩ := run.of_no_failure failed
      rw [map_path_plan, getLast?_stagePaths base nonempty] at ending
      exact Or.inl ending
  | some failure =>
      obtain ⟨stage, texts, kind, answer, last, -, -, ending, -⟩ := run.of_failure failed
      exact Or.inr ⟨kind, stage.index, stage.template, stage.path, failure.2, ending⟩

section Resume

variable {can : Capabilities σ} {text : Value → Entries → Except Fault String}
  {alike : σ → σ → Prop} {path base : String} {templates : List String} {context : Entries} {k : Nat}
  {content : Value} {s sₖ : σ}

/-- The account of the whole run is that of the resumed one behind the actions of the first stages. -/
theorem account_ahead (renders : can.RendersBy text) (ignores : IgnoresInitialContent text)
    (respects : can.Respects alike) (parsed : ChainName.parse path = ⟨base, templates⟩)
    (notLast : k + 1 < templates.length)
    (reached : runTo can templates.length context ((plan base (templates.map .str)).take (k + 1))
      (initialContent context) s = (.ok content, sₖ)) (s' : σ) (resumesFrom : alike sₖ s') :
    let run := account can path context s
    let resumed := account can (stagePath base templates k)
      (context.set initialContentKey content) s'
    ∃ first behind, run.actions = first ++ behind ∧
      (callsOf first).length = k + 1 ∧ (writesOf first).length = k + 1 ∧
      resumed.actions.map (Action.without initialContentKey) =
        behind.map (Action.without initialContentKey) ∧
      run.ending = resumed.ending.mapError (Fault.later (k + 1)) ∧
      alike run.state resumed.state := by
  have firstPlanned : (plan base (templates.map .str)).take (k + 1) ≠ [] := by
    rw [← List.length_pos_iff, List.length_take, length_plan_str]
    omega
  obtain ⟨c, rfl⟩ := text_of_runTo renders firstPlanned reached
  have nonempty : templates ≠ [] := List.length_pos_iff.1 (by omega)
  have restNonempty : templates.drop (k + 1) ≠ [] := by simpa using notLast
  have parsedRest := ChainName.parse_stagePath_of_parse parsed nonempty k
  have restPlanned :
      (plan base ((templates.drop (k + 1)).map .str)).map (Stage.later (k + 1)) ≠ [] := by
    rw [← List.length_pos_iff, List.length_map, length_plan_str]
    exact List.length_pos_iff.2 restNonempty
  -- The whole run goes on behind its first stages, and the resumed run starts with an empty journal.
  obtain ⟨first, calls, writes, whole⟩ :=
    runStages_append reached ((plan base (templates.map .str)).drop (k + 1)) base []
  rw [List.take_append_drop, plan_drop, List.nil_append] at whole
  rw [List.length_take, length_plan_str, Nat.min_eq_left (Nat.le_of_lt notLast)] at calls writes
  simp only [account_eq parsed nonempty context s, whole.trans (runStages_written restPlanned _ _ base _),
    account_eq parsedRest restNonempty _ s', initialContent_set_str, List.length_drop]
  have same : context.without initialContentKey =
      (context.set initialContentKey (.str c)).without initialContentKey := by
    rw [initialContentKey, Entries.without_set_self]
  have start : Ahead alike (first.map (Action.without initialContentKey)) (sₖ, first) (s', []) :=
    ⟨resumesFrom, by simp⟩
  obtain ⟨ending, sameState, journal⟩ := runStages_ahead renders ignores respects same start (k + 1)
    templates.length (templates.length - (k + 1)) (plan base ((templates.drop (k + 1)).map .str))
    (.str c) base
  obtain ⟨behind, journaled, -⟩ := stagesRun_journaled can templates.length context
    ((plan base ((templates.drop (k + 1)).map .str)).map (Stage.later (k + 1))) (.str c) base
    sₖ first
  rw [journaled, List.map_append] at journal
  exact ⟨first, behind, journaled, calls, writes, (List.append_cancel_left journal).symm, ending,
    sameState⟩

/-- A chain that is taken up at the file of stage `k`, with the text of that stage as the initial
    content, does what is left of it: the same calls but for the initial content in their contexts, the
    same writes, and the same ending, where the stage of a fault is counted from the file taken up. -/
theorem chain_resumes (renders : can.RendersBy text) (ignores : IgnoresInitialContent text)
    (respects : can.Respects alike) (parsed : ChainName.parse path = ⟨base, templates⟩)
    (notLast : k + 1 < templates.length)
    (reached : runTo can templates.length context ((plan base (templates.map .str)).take (k + 1))
      (initialContent context) s = (.ok content, sₖ)) (s' : σ) (resumesFrom : alike sₖ s') :
    let run := account can path context s
    let resumed := account can (stagePath base templates k)
      (context.set initialContentKey content) s'
    resumed.calls.map (Call.without initialContentKey) =
      (run.calls.drop (k + 1)).map (Call.without initialContentKey) ∧
    resumed.writes = run.writes.drop (k + 1) ∧
    (∃ first behind, run.actions = first ++ behind ∧
      (callsOf first).length = k + 1 ∧ (writesOf first).length = k + 1 ∧
      resumed.actions.map (Action.without initialContentKey) =
        behind.map (Action.without initialContentKey)) ∧
    alike run.state resumed.state ∧
    (run.ending = .ok base ∧ resumed.ending = .ok base ∨
      ∃ kind j template place cause, k < j ∧
        run.ending = .error (.stage kind j template place cause) ∧
        resumed.ending = .error (.stage kind (j - k - 1) template place cause)) := by
  intro run resumed
  obtain ⟨first, behind, runActions, calls, writes, sameActions, sameEnding, sameState⟩ :=
    account_ahead renders ignores respects parsed notLast reached s' resumesFrom
  refine ⟨?_, ?_, ⟨first, behind, runActions, calls, writes, sameActions⟩, sameState, ?_⟩
  · rw [Account.calls, Account.calls, ← callsOf_map_without, sameActions, callsOf_map_without,
      runActions, callsOf_append, List.drop_left' calls]
  · rw [Account.writes, Account.writes, ← writesOf_map_without initialContentKey, sameActions,
      writesOf_map_without, runActions, writesOf_append, List.drop_left' writes]
  · have nonempty : templates ≠ [] := List.length_pos_iff.1 (by omega)
    have endings := ending_account can (ChainName.parse_stagePath_of_parse parsed nonempty k)
      (by simpa using notLast) (context.set initialContentKey content) s'
    rcases endings with done | ⟨kind, i, template, place, cause, failed⟩
    · rw [done] at sameEnding
      exact Or.inl ⟨sameEnding, done⟩
    · rw [failed] at sameEnding
      refine Or.inr ⟨kind, i + (k + 1), template, place, cause, by omega, sameEnding, ?_⟩
      rw [failed, show i + (k + 1) - k - 1 = i by omega]

end Resume

theorem rendersBy_wrapping [Host] : wrapping.chains.RendersBy wrapText := Generator.rendersBy_ofText _ _

theorem ignoresInitialContent_wrapText : IgnoresInitialContent wrapText := by
  intro template context other same
  have differs : initialContentKey.equals contentKey = false := by decide
  have sameContent := congrArg (fun entries : Entries => entries.get? contentKey) same
  simp only [initialContentKey] at sameContent differs
  rw [Entries.get?_without_of_not_equals _ differs, Entries.get?_without_of_not_equals _ differs]
    at sameContent
  simp only [wrapText, sameContent]

/-- A chain of four is taken up at its second file, on the disk that the first two stages left but with
    nothing shown. -/
theorem chain_resumes_at_second_file :
    ∃ content w,
      let run := account wrapping.chains "out//a._p.q.__r._" [] emptyWorld
      let resumed := account wrapping.chains "out/a._p._q" (Entries.set [] initialContentKey content)
        ⟨w, ""⟩
      resumed.writes = run.writes.drop 2 ∧ run.state.disk = resumed.state.disk := by
  have parsed : ChainName.parse "out//a._p.q.__r._" = ⟨"out/a", ["", "_r", "q", "p"]⟩ := by
    decide
  have place : stagePath "out/a" ["", "_r", "q", "p"] ((1 : Nat) : Int) = "out/a._p._q" := by
    decide
  have succeeds : (runTo wrapping.chains ["", "_r", "q", "p"].length []
      ((plan "out/a" (["", "_r", "q", "p"].map .str)).take (1 + 1)) (initialContent [])
      emptyWorld).1.isOk = true := by decide +kernel
  cases reached : runTo wrapping.chains ["", "_r", "q", "p"].length []
      ((plan "out/a" (["", "_r", "q", "p"].map .str)).take (1 + 1)) (initialContent [])
      emptyWorld with
  | mk answer w =>
      rw [reached] at succeeds
      cases answer with
      | error fault => cases succeeds
      | ok content =>
          have resumes := chain_resumes rendersBy_wrapping
            ignoresInitialContent_wrapText (wrapping.respects_disk plain_wrapping) parsed
            (by decide) reached ⟨w.disk, ""⟩ rfl
          rw [place] at resumes
          exact ⟨content, w.disk, resumes.2.1, resumes.2.2.2.1⟩

end LayeredFiles
