import LayeredFiles.CommandLine.Run
import LayeredFiles.Proofs.Batch.Returns
import LayeredFiles.Proofs.Fault
import LayeredFiles.Proofs.Settings.Valid
/-
Module: LayeredFiles.Proofs.CommandLine.Settings
Layer: Proofs
Purpose: the settings that a command line works with. Whatever the environment says and whatever numbers the
  options give, they are refused as malformed or they are valid; and a batch takes valid settings as they
  are: it neither refuses the number of files at once nor finds that no time is left.
Main exports: CommandLine.yields_settingsFor, BatchSettings.IsValid.runBatch_eq,
  CommandLine.processFiles_eq, CommandLine.settingsFor_usable
-/

namespace LayeredFiles

open Number

/-! ### Settings from outside -/

/-- What passes the check is valid, and the check fails as such. -/
theorem Settings.yields_validateBatch (v : Value) :
    Yields Fault.IsMalformed BatchSettings.IsValid (validateBatch v) := by
  cases checked : validateBatch v with
  | ok batch => exact isValid_of_validateBatch checked
  | error fault =>
      unfold validateBatch reported at checked
      split at checked
      · cases checked
      · cases checked
        exact .settings _

namespace Environment

theorem yields_int? (env : Environment) (name : String) :
    Yields Fault.IsMalformed (fun _ => True) (env.int? name) := by
  unfold int?
  split
  · trivial
  · split
    · trivial
    · exact .value _
    · exact .value _

theorem yields_float? (env : Environment) (name : String) :
    Yields Fault.IsMalformed (fun _ => True) (env.float? name) := by
  unfold float?
  split
  · trivial
  · split
    · trivial
    · exact .value _

/-- The settings of a batch that variables ask for are malformed or valid. -/
theorem yields_batch (env : Environment) :
    Yields Fault.IsMalformed BatchSettings.IsValid env.batch := by
  unfold batch
  apply (env.yields_int? _).bind
  intro parallel _
  apply (env.yields_float? _).bind
  intro timeout _
  exact Settings.yields_validateBatch _

end Environment

namespace CommandLine

/-- Options keep the settings of a batch valid: without them they stay as they are, and with them all fields
    are checked once more. -/
theorem yields_overridden {batch : BatchSettings} (valid : batch.IsValid) (c : Choices) :
    Yields Fault.IsMalformed BatchSettings.IsValid (overridden batch c) := by
  unfold overridden
  split
  · exact valid
  · exact Settings.yields_validateBatch _

/-- The settings of a run are malformed or valid. -/
theorem yields_settingsFor (home : NormalPath) (env : Environment) (c : Choices) :
    Yields Fault.IsMalformed (fun settings => settings.batch.IsValid) (settingsFor home env c) := by
  have fromEnvironment : Yields Fault.IsMalformed (fun settings => settings.batch.IsValid)
      (Settings.ofEnvironment home env) := by
    apply env.yields_batch.bind
    intro batch valid
    exact valid
  apply fromEnvironment.bind
  intro settings valid
  apply (yields_overridden valid c).bind
  intro batch valid
  exact valid

end CommandLine

/-! ### Batches with valid settings -/

namespace BatchSettings.IsValid

variable {b : BatchSettings} (valid : b.IsValid)
include valid

/-- A limit of time is a number. -/
theorem isNaN_eq_false {x : Binary64} (limit : b.chainTimeout = some x) : x.isNaN = false := by
  have positive := valid.timeout x limit
  cases x with
  | nan => cases positive
  | number negative rank => rfl

theorem checkParallel_eq : checkParallel (.int b.maxParallel) = .ok () := by
  obtain ⟨count, isCount⟩ := Int.eq_ofNat_of_zero_le (Int.le_trans Int.one_nonneg valid.parallel)
  have atLeast := valid.parallel
  rw [isCount] at atLeast ⊢
  exact Driver.checkParallel_of_pos (by omega)

theorem leavesNoTime_eq : leavesNoTime (CommandLine.timeoutValue b) = .ok false := by
  unfold CommandLine.timeoutValue
  cases limit : b.chainTimeout with
  | none => rfl
  | some x =>
      have positive := valid.timeout x limit
      simp [leavesNoTime, Value.isOrdered, Value.compare?, Value.text?, Value.numeral?,
        Value.Numeral.compare?, positive]

/-- A batch with valid settings runs all its jobs. -/
theorem runBatch_eq {σ : Type} (can : Capabilities σ) (jobs : List ChainJob) (s : σ) :
    runBatch can (.int b.maxParallel) (CommandLine.timeoutValue b) jobs s =
      (.ok (runJobs can jobs s).1, (runJobs can jobs s).2) := by
  rw [runBatch, valid.checkParallel_eq, valid.leavesNoTime_eq]

end BatchSettings.IsValid

namespace CommandLine

/-- The jobs for some files, with one context for all of them. -/
def jobsFor (context : Entries) (files : List String) : List ChainJob :=
  files.map (fun file => ⟨.str file, .dict context⟩)

/-- With valid settings the files are made one after another, and then it is told what became of them. -/
theorem processFiles_eq [Host] {settings : Settings} (valid : settings.batch.IsValid)
    (context : Entries) (files : List String) (w : World) :
    let ran := runJobs (Generator.standard settings World.site).chains (jobsFor context files) w
    processFiles settings context files w =
      (sayLines (ran.1.map (fun r => "  " ++ r.summary))).andThen (fun _ => verdict ran.1) ran.2 := by
  simp only [processFiles, processFilesBy, oneByOne, Work.andThen, valid.runBatch_eq, jobsFor]

/-- The settings of a run, whatever the environment says and whatever the options give, are refused as
    malformed, or they are usable: at least one file at once, and no limit of time or one above zero, which
    is a number. With usable settings a batch runs its jobs; it refuses nothing and no job is out of time
    from the start. -/
theorem settingsFor_usable [Host] (home : NormalPath) (env : Environment) (c : Choices) :
    (∃ fault, settingsFor home env c = .error fault ∧ fault.IsMalformed) ∨
    ∃ settings, settingsFor home env c = .ok settings ∧
      1 ≤ settings.batch.maxParallel ∧
      (∀ x, settings.batch.chainTimeout = some x →
        x.isNaN = false ∧ Binary64.compareInt? 0 x = some .lt) ∧
      leavesNoTime (timeoutValue settings.batch) = .ok false ∧
      (∀ (σ : Type) (can : Capabilities σ) (jobs : List ChainJob) (s : σ),
        runBatch can (.int settings.batch.maxParallel) (timeoutValue settings.batch) jobs s =
          (.ok (runJobs can jobs s).1, (runJobs can jobs s).2)) ∧
      ∀ (context : Entries) (files : List String) (w : World),
        let ran := runJobs (Generator.standard settings World.site).chains (jobsFor context files) w
        processFiles settings context files w =
          (sayLines (ran.1.map (fun r => "  " ++ r.summary))).andThen (fun _ => verdict ran.1)
            ran.2 := by
  rcases (yields_settingsFor home env c).cases with refused | ⟨settings, isOk, valid⟩
  · exact Or.inl refused
  · refine Or.inr ⟨settings, isOk, valid.parallel, ?_, valid.leavesNoTime_eq, ?_, ?_⟩
    · intro x limit
      exact ⟨valid.isNaN_eq_false limit, valid.timeout x limit⟩
    · intro σ can jobs s
      exact valid.runBatch_eq can jobs s
    · intro context files w
      exact processFiles_eq valid context files w

end CommandLine

end LayeredFiles
