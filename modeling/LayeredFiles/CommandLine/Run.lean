import LayeredFiles.Batch.Run
import LayeredFiles.CommandLine.Request
import LayeredFiles.Console.Table
import LayeredFiles.Context
import LayeredFiles.Generator.Basic
import LayeredFiles.Settings.Environment
/-
Module: LayeredFiles.CommandLine.Run
Layer: CommandLine
Purpose: the execution of command lines. Settings come from the environment first and from options
  second, contexts from a file first and from assignments second. A fault that is reported ends the run
  with one line and the code 1; other faults end it without a word.
Main exports: Ending, settingsFor, contextFor, BatchDriver, oneByOne, executeBy, execute, runBy, run
-/

namespace LayeredFiles.CommandLine

open Template

/-- How a run ended. -/
inductive Ending where
  | done (code : Nat)
  | refused (refusal : Refusal)
deriving DecidableEq, Repr

/-- The code that a run leaves behind. -/
def Ending.code : Ending → Nat
  | .done code => code
  | .refused .help => 0
  | .refused (.usage _ _) => 2

/-- What is said about a run that was refused. -/
def Ending.complaint : Ending → String
  | .refused (.usage program fault) => usageLine program fault
  | _ => ""

/-- A piece of work over a world, which a fault can end. -/
abbrev Work (α : Type) := World → Except Fault α × World

/-- Shows a console text. -/
def say (text : Except Fault String) : Work Unit := fun w =>
  match text with
  | .error fault => (.error fault, w)
  | .ok text => (.ok (), w.tell text)

/-- One piece of work after another. -/
def Work.andThen {α β : Type} (first : Work α) (next : α → Work β) : Work β := fun w =>
  match first w with
  | (.error fault, w) => (.error fault, w)
  | (.ok a, w) => next a w

/-- Shows console texts as lines, one after another. -/
def sayLines [Host] : List String → Work Unit
  | [] => fun w => (.ok (), w)
  | text :: rest => (say (Console.line text.toList)).andThen (fun _ => sayLines rest)

/-! ### Settings and contexts -/

/-- The settings of a batch with what options ask for in place of what was set. -/
def overridden (batch : BatchSettings) (c : Choices) : Except Fault BatchSettings :=
  match c.parallel, c.timeout with
  | none, none => .ok batch
  | parallel, timeout =>
    Settings.validateBatch (.dict [
      (.str "max_parallel", .int (parallel.getD batch.maxParallel)),
      (.str "chain_timeout", ((timeout.orElse (fun _ => batch.chainTimeout)).map .float).getD .null)])

/-- The settings of a run. -/
def settingsFor (home : NormalPath) (env : Environment) (c : Choices) : Except Fault Settings := do
  let set ← Settings.ofEnvironment home env
  let batch ← overridden set.batch c
  pure { set with
    templatesPath := ((c.templates.filter (· ≠ "")).map .ofString).getD set.templatesPath
    verbose := set.verbose || c.verbose
    batch := batch }

/-- The context of a run: what the file binds, and on top of it the assignments. -/
def contextFor [Host] (disk : Disk) (c : Choices) : Except Fault Entries := do
  let bound ← match c.context.filter (· ≠ "") with
    | none => pure []
    | some path => loadContext disk path
  let assigned ← readAssignments (c.assignments.map .str)
  pure (Entries.update bound assigned)

/-! ### Commands -/

/-- The limit of time as a value. -/
def timeoutValue (batch : BatchSettings) : Value := (batch.chainTimeout.map .float).getD .null

/-- How a batch ended, in a line. -/
def verdict [Host] (results : List ChainResult) : Work Nat :=
  let failed := results.countP (fun r => !r.isMade)
  let count := toString results.length
  if failed = 0 then
    (say (Console.successLine ("Processed " ++ count ++ " file(s)."))).andThen
      (fun _ w => (.ok 0, w))
  else
    (say (Console.errorLine (toString failed ++ " of " ++ count ++ " file(s) failed."))).andThen
      (fun _ w => (.ok 1, w))

/-- What runs the jobs of a batch, so many at a time and each in a limit of time. In which order they run, which
    of them are out of time and how long the others take is up to it. -/
abbrev BatchDriver := Capabilities World → Value → Value → List ChainJob → Work (List ChainResult)

/-- Runs jobs one after another, as if they took no time. -/
def oneByOne : BatchDriver := runBatch

/-- Makes files by their chains. -/
def processFilesBy [Host] (drive : BatchDriver) (settings : Settings) (context : Entries)
    (files : List String) : Work Nat :=
  let g := Generator.standard settings World.site
  let jobs := files.map (fun file => (⟨.str file, .dict context⟩ : ChainJob))
  (drive g.chains (.int settings.batch.maxParallel) (timeoutValue settings.batch) jobs).andThen
    (fun results => (sayLines (results.map (fun r => "  " ++ r.summary))).andThen (fun _ => verdict results))

/-- Makes files by their chains, one after another. -/
def processFiles [Host] (settings : Settings) (context : Entries) (files : List String) : Work Nat :=
  processFilesBy oneByOne settings context files

/-- Makes a file from the template of a generator. -/
def generateFile [Host] (settings : Settings) (context : Entries) (generator destination : Value) :
    Work Nat :=
  let made : Work String :=
    (Generator.standard settings World.site).create generator destination (.dict context)
  made.andThen (fun _ w => (.ok 0, w))

/-- The lines that tell what templates there are. -/
def listing (lib : Library) (disk : Disk) : Except Fault (List String) := do
  match ← lib.generators disk with
  | [] => pure ["[yellow]No templates found in " ++ lib.root.text ++ "[/yellow]"]
  | names => pure names

/-- The line that tells what templates of chains there are; none if there are none. -/
def partialsListing (lib : Library) (disk : Disk) : Except Fault (List String) := do
  match ← lib.generators disk, ← lib.partials disk with
  | [], _ => pure []
  | _, [] => pure []
  | _, names => pure ["[dim]partials: " ++ ", ".intercalate names ++ "[/dim]"]

/-- Shows lines that may not be there. -/
def sayFound [Host] (lines : Except Fault (List String)) : Work Unit := fun w =>
  match lines with
  | .error fault => (.error fault, w)
  | .ok lines => sayLines lines w

/-- Shows the templates there are. -/
def listTemplates [Host] (settings : Settings) : Work Nat := fun w =>
  let lib := Generator.libraryOf settings
  ((sayFound (listing lib w.disk)).andThen (fun _ =>
    (sayFound (partialsListing lib w.disk)).andThen (fun _ w => (.ok 0, w)))) w

/-- Executes a request and gives the code that the run leaves behind. -/
def executeBy [Host] (drive : BatchDriver) (home : NormalPath) (env : Environment) (request : Request) :
    Work Nat := fun w =>
  let settings := settingsFor home env request.choices
  let withContext (next : Settings → Entries → Work Nat) : Except Fault Nat × World :=
    match settings with
    | .error fault => (.error fault, w)
    | .ok settings =>
      match contextFor w.disk request.choices with
      | .error fault => (.error fault, w)
      | .ok context => next settings context w
  match request.command with
  | .parse files =>
    ((say (Console.chainTable Console.defaultTitle files)).andThen (fun _ w => (.ok 0, w))) w
  | .process files =>
    withContext (fun settings context => processFilesBy drive settings context files)
  | .generate generator destination =>
    withContext (fun settings context => generateFile settings context generator destination)
  | .list =>
    match settings with
    | .error fault => (.error fault, w)
    | .ok settings => listTemplates settings w

/-- Executes a request with jobs one after another. -/
def execute [Host] (home : NormalPath) (env : Environment) (request : Request) : Work Nat :=
  executeBy oneByOne home env request

/-- Reports a fault in one line, if it is one of those that are reported. -/
def reportFault [Host] (fault : Fault) : Work Nat :=
  if fault.isReported then
    (say (Console.errorLine ("Error: " ++ fault.message))).andThen (fun _ w => (.ok 1, w))
  else fun w => (.error fault, w)

/-- Runs a command line. The templates are at `home` if nothing else is said. -/
def runBy [Host] (drive : BatchDriver) (home : NormalPath) (env : Environment) (texts : List String) :
    Work Ending := fun w =>
  match Request.ofTexts texts with
  | .error refusal => (.ok (.refused refusal), w)
  | .ok request =>
    let ended :=
      match executeBy drive home env request w with
      | (.error fault, w) => reportFault fault w
      | (.ok code, w) => (.ok code, w)
    (ended.1.map .done, ended.2)

/-- Runs a command line with jobs one after another. -/
def run [Host] (home : NormalPath) (env : Environment) (texts : List String) : Work Ending :=
  runBy oneByOne home env texts

end LayeredFiles.CommandLine
