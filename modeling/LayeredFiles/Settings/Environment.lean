import LayeredFiles.Settings.Validate
/-
Module: LayeredFiles.Settings.Environment
Layer: Settings
Purpose: settings out of environment variables. A variable that is empty counts as not set. Numbers are
  read first and checked against their bounds together, so a text that is no number hides a number that
  is out of bounds.
Main exports: Environment, Environment.get?, Settings.ofEnvironment
-/

namespace LayeredFiles

open Number

/-- The environment variables, each with its text. -/
abbrev Environment := List (String × String)

namespace Environment

/-- The text of a variable that is set and not empty. -/
def get? (env : Environment) (name : String) : Option String :=
  (env.lookup name).filter (· ≠ "")

/-- The whole number in a variable. -/
def int? (env : Environment) (name : String) : Except Fault (Option Int) :=
  match env.get? name with
  | none => .ok none
  | some text =>
    match readInt 10 text.toList with
    | .ok i => .ok (some i)
    | .error .malformed => .error (.value (.intText 10 text))
    | .error (.tooLong digits) => .error (.value (.intTextTooLong digits))

/-- The number in a variable. -/
def float? (env : Environment) (name : String) : Except Fault (Option Binary64) :=
  match env.get? name with
  | none => .ok none
  | some text =>
    match readFloat text.toList with
    | some x => .ok (some x)
    | none => .error (.value (.floatText text))

/-- The words that stand for yes, in lower case. -/
def yesWords : List String := ["1", "true", "yes", "on"]

/-- A variable says yes. Its case and the blanks around it do not count; any other word says no. -/
def isYes (text : String) : Bool :=
  yesWords.contains (String.ofList (Text.lower (Text.strip text.toList)))

/-- The settings of a batch that variables ask for. -/
def batch (env : Environment) : Except Fault BatchSettings := do
  let parallel ← env.int? "TEMPLATE_CHAIN_MAX_PARALLEL"
  let timeout ← env.float? "TEMPLATE_CHAIN_TIMEOUT"
  Settings.validateBatch (.dict
    ((parallel.map (fun i => (.str "max_parallel", .int i))).toList ++
      (timeout.map (fun x => (.str "chain_timeout", .float x))).toList))

end Environment

namespace Settings

/-- The settings that variables ask for; the templates are at `home` if nothing else is said. -/
def ofEnvironment (home : NormalPath) (env : Environment) : Except Fault Settings := do
  let batch ← env.batch
  pure {
    templatesPath := ((env.get? "TEMPLATE_CHAIN_TEMPLATES_PATH").map .ofString).getD home
    encoding := (env.get? "TEMPLATE_CHAIN_ENCODING").getD defaultEncoding
    verbose := ((env.get? "TEMPLATE_CHAIN_VERBOSE").map Environment.isYes).getD false
    batch := batch }

end Settings

example : Environment.isYes " Yes " = true ∧ Environment.isYes "y" = false := by decide +kernel

end LayeredFiles
