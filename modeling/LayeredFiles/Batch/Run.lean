import LayeredFiles.Batch.Result
import LayeredFiles.Chain.Run
import LayeredFiles.Value.Compute
/-
Module: LayeredFiles.Batch.Run
Layer: Batch
Purpose: many chains, each for a file of its own. Every file gets one result, in the order of the files;
  a file that fails does not keep the others from being made. How many chains run at a time is bounded
  and bears on no result. A limit of time that has passed before the work began fails every file.
Main exports: ChainJob, runJob, runJobs, runBatch
-/

namespace LayeredFiles

open Number

/-- A file to be made, and the context of its chain. -/
structure ChainJob where
  file : Value
  context : Value
deriving Repr

/-- The result of a job whose chain ended like this. -/
def resultOf (job : ChainJob) : Except Fault String → ChainResult
  | .ok path => ⟨job.file, .made path, .zero false⟩
  | .error fault => ⟨job.file, .failed fault.message, .zero false⟩

/-- Makes the file of a job. -/
def runJob {σ : Type} (can : Capabilities σ) (job : ChainJob) (s : σ) : ChainResult × σ :=
  let (ended, s) := process can job.file job.context s
  (resultOf job ended, s)

/-- Makes the files of some jobs. -/
def runJobs {σ : Type} (can : Capabilities σ) : List ChainJob → σ → List ChainResult × σ
  | [], s => ([], s)
  | job :: rest, s =>
    let (result, s) := runJob can job s
    let (results, s) := runJobs can rest s
    (result :: results, s)

/-- The result of a job that was out of time; `timeout` is the limit as it was given. -/
def outOfTime (timeout : Value) (job : ChainJob) : ChainResult :=
  ⟨job.file, .failed ("Timed out after " ++ timeout.display ++ "s"), .zero false⟩

/-- A limit of time that leaves no time at all. -/
def leavesNoTime (timeout : Value) : Except Fault Bool :=
  match timeout with
  | .null => .ok false
  | v => Value.isOrdered "<=" (· != .gt) v (.int 0)

/-- The number of chains at a time is at least one. -/
def checkParallel (limit : Value) : Except Fault Unit := do
  if ← Value.isOrdered "<" (· == .lt) limit (.int 1) then throw (.value .noParallelism)

/-- Makes the files of some jobs, at most `limit` at a time and each within `timeout` seconds. -/
def runBatch {σ : Type} (can : Capabilities σ) (limit timeout : Value) (jobs : List ChainJob)
    (s : σ) : Except Fault (List ChainResult) × σ :=
  match checkParallel limit with
  | .error fault => (.error fault, s)
  | .ok () =>
    match leavesNoTime timeout with
    | .error fault => (.ok (jobs.map (fun job => resultOf job (.error fault))), s)
    | .ok true => (.ok (jobs.map (outOfTime timeout)), s)
    | .ok false =>
      let (results, s) := runJobs can jobs s
      (.ok results, s)

/-- A result is about the file of its job. -/
theorem file_resultOf (job : ChainJob) (ended : Except Fault String) :
    (resultOf job ended).file = job.file := by
  cases ended <;> rfl

/-- Every job has one result, for its file and at its place. -/
theorem map_file_runJobs {σ : Type} (can : Capabilities σ) (jobs : List ChainJob) (s : σ) :
    (runJobs can jobs s).1.map ChainResult.file = jobs.map ChainJob.file := by
  induction jobs generalizing s with
  | nil => rfl
  | cons job rest ih => simp only [runJobs, runJob, List.map_cons, ih, file_resultOf]

end LayeredFiles
