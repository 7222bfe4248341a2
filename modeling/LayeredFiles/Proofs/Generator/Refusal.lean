import LayeredFiles.Proofs.Generator.Create
/-
Module: LayeredFiles.Proofs.Generator.Refusal
Layer: Proofs
Purpose: why a file is not made. What goes wrong in a stage or on a shelf is reported; only a destination that
  is no path makes a fault of another kind. What is told about a file can always be told, so it does not
  change how the work on the file ended.
Main exports: Fault.ReportedOrNoPath, yields_runStages, Generator.yields_make, Generator.fst_conclude,
  Generator.yields_create
-/

namespace LayeredFiles

variable {σ : Type}

/-- What is reported, or is no path. -/
def Fault.ReportedOrNoPath (v : Value) (fault : Fault) : Prop :=
  fault.isReported = true ∨ pathOf v = .error fault

/-- Stages fail with faults of stages, which are reported. -/
theorem yields_runStages (can : Capabilities σ) (total : Nat) (context : Entries)
    (stages : List Stage) (content : Value) (written : String) (s : σ) :
    Yields (fun fault => fault.isReported = true) (fun _ => True)
      (runStages can total context stages content written s).1 := by
  induction stages generalizing content written s with
  | nil => exact True.intro
  | cons stage rest ih =>
      simp only [runStages, runStage]
      cases can.render stage.template (stageContext context content stage.template) s with
      | mk answer s₁ =>
          cases answer with
          | error cause =>
              obtain ⟨kind, isStage⟩ := StagesRun.renderFault_eq stage cause
              simp only [isStage]
              rfl
          | ok text =>
              simp only
              cases can.write stage.path text s₁ with
              | mk answer s₂ =>
                  cases answer with
                  | error cause => rfl
                  | ok => exact ih _ _ _

theorem yields_processName (can : Capabilities σ) (path : String) (context : Entries) (s : σ) :
    Yields (fun fault => fault.isReported = true) (fun _ => True)
      (processName can path (.dict context) s).1 := by
  simp only [processName]
  split
  · rw [entriesOf_dict]
    exact yields_runStages _ _ _ _ _ _ _
  · exact True.intro

namespace Generator

variable (g : Generator σ)

/-- A file is made, or it is reported why not, unless the destination is no path. -/
theorem yields_make [Host] (name destination : Value) (context : Entries) (s : σ) :
    Yields (Fault.ReportedOrNoPath destination) (fun _ => True)
      (g.make name destination (.dict context) s).1 := by
  unfold make
  cases isPath : pathOf destination with
  | error fault => exact Or.inr isPath
  | ok path =>
      simp only
      split
      · simp only [process, isPath]
        exact (yields_processName _ path context s).mono (fun _ reported => Or.inl reported)
          (fun _ _ => True.intro)
      · have isEnd := g.shelf.applied_apply (g.site.disk s) name destination (.dict context) s
        generalize g.shelf.apply (g.site.disk s) name destination (.dict context) s = ended at isEnd
        cases isEnd with
        | refused | missing | unrendered | unwritten => exact Or.inl rfl
        | written => exact True.intro

/-- What is told behind a plain status word is told. -/
theorem report_ok [Host] {status : String} (isPlain : Console.IsPlain status.toList)
    (message : String) (s : σ) : ∃ line, g.report status message s = (.ok (), g.site.tell line s) := by
  obtain ⟨line, isLine⟩ := Console.exists_statusLine isPlain message
  exact ⟨line, g.report_of_line isLine s⟩

/-- If it can be told, what is told about a file does not change how the work on it ended. -/
theorem fst_conclude {report : String → String → σ → Except Fault Unit × σ} (destination : Value)
    (made : Except Fault String × σ)
    (told : ∀ status ∈ ["error", "create"], ∀ message s, (report status message s).1 = .ok ()) :
    (conclude report destination made).1 = made.1 := by
  obtain ⟨made, s⟩ := made
  unfold conclude
  cases made with
  | error fault =>
      have said := told "error" (by simp)
        ("Failed to create " ++ destination.display ++ ": " ++ fault.message) s
      simp only
      split
      · rename_i failed
        rw [failed] at said
        cases said
      · rfl
  | ok path =>
      have said := told "create" (by simp) path s
      simp only
      split
      · rename_i failed
        rw [failed] at said
        cases said
      · rfl

/-- A file is created, or it is reported why not, unless the destination is no path. -/
theorem yields_create [Host] (name destination : Value) (context : Entries) (s : σ) :
    Yields (Fault.ReportedOrNoPath destination) (fun _ => True)
      (g.create name destination (.dict context) s).1 := by
  have isDict : ∃ entries, (if (Value.dict context).isTrue then .dict context else .dict []) =
      Value.dict entries := by
    split
    · exact ⟨context, rfl⟩
    · exact ⟨[], rfl⟩
  obtain ⟨entries, isDict⟩ := isDict
  have told : ∀ status ∈ ["error", "create"], ∀ message s, (g.report status message s).1 = .ok () := by
    intro status isOne message s
    have all : ["error", "create"].all
        (fun status => status.toList.all (fun c => c != '\\' && c != '[')) = true := by decide
    obtain ⟨line, told⟩ :=
      g.report_ok (Console.isPlain_of_all (List.all_eq_true.1 all status isOne)) message s
    rw [told]
  rw [create_eq, isDict, fst_conclude destination _ told]
  exact g.yields_make name destination entries s

end Generator

end LayeredFiles
