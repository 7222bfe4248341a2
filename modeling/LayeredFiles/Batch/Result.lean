import LayeredFiles.Number.Decimal
import LayeredFiles.Template.Argument
import LayeredFiles.Value.Order
/-
Module: LayeredFiles.Batch.Result
Layer: Batch
Purpose: what became of one file of a batch: the path that was written, or why there is none, and the
  seconds it took. A summary is one line of console text.
Main exports: Outcome, ChainResult, ChainResult.summary, summaryOf
-/

namespace LayeredFiles

open Number

/-- How the work on a file ended. -/
inductive Outcome where
  | made (path : String)
  | failed (detail : String)
deriving DecidableEq, Repr

/-- What became of a file of a batch. -/
structure ChainResult where
  file : Value
  outcome : Outcome
  seconds : Binary64
deriving Repr

/-- The summary of a file that was made. -/
def madeSummary (file path : String) (seconds : Binary64) : String :=
  "[green]OK[/green] " ++ file ++ " -> " ++ path ++ " (" ++ String.ofList (fixedPlaces 2 seconds) ++
    "s)"

/-- The summary of a file that could not be made. -/
def failedSummary (file detail : String) : String := "[red]FAILED[/red] " ++ file ++ ": " ++ detail

namespace ChainResult

/-- The file was made. -/
def isMade (r : ChainResult) : Bool :=
  match r.outcome with
  | .made _ => true
  | .failed _ => false

/-- One line of console text. -/
def summary (r : ChainResult) : String :=
  match r.outcome with
  | .made path => madeSummary r.file.display path r.seconds
  | .failed detail => failedSummary r.file.display detail

end ChainResult

/-! ### Results given as values -/

/-- A count of seconds that may be shown with two places. -/
def secondsOf : Value → Except Fault Binary64
  | .float x => .ok x
  | .str _ => .error (.value (.formatCode "str"))
  | v =>
    match v.int? with
    | some i =>
      match Binary64.ofInt? i with
      | some x => .ok x
      | none => .error (.arithmetic .intTooLarge)
    | none => .error (.type (.notFormattable v.typeName))

/-- What a result is made of. -/
def resultFields : Template.Signature where
  name := "ChainResult.__init__"
  given := 1
  required := ["file_path", "success"]
  optional := ["output", "error", "duration_seconds"]

/-- The summary of a result whose fields are given by name. The seconds count only for a file that was
    made. -/
def summaryOf (fields : List (String × Value)) : Except Fault String := do
  match ← resultFields.bind ⟨[], fields⟩ with
  | [file, success, output, detail, seconds] =>
    let text (v : Option Value) : String := (v.getD .null).display
    if (success.getD .null).isTrue then
      pure (madeSummary (text file) (text output) (← secondsOf (seconds.getD (.float (.zero false)))))
    else pure (failedSummary (text file) (text detail))
  | _ => throw .index

example : failedSummary "a" "no" = "[red]FAILED[/red] a: no" := by decide

end LayeredFiles
