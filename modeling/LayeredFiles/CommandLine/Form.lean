import LayeredFiles.Text.Quoted
/-
Module: LayeredFiles.CommandLine.Form
Layer: CommandLine
Purpose: what may stand on a command line: the commands, their options and the words they want. Options
  are listed in the order in which messages name them.
Main exports: OptionKey, OptionForm, Arity, WordForm, CommandForm, mainForm, commandForms, UsageFault,
  UsageFault.message
-/

namespace LayeredFiles.CommandLine

/-- What an option is about. -/
inductive OptionKey where
  | help
  | templates
  | context
  | assignment
  | verbose
  | parallel
  | timeout
deriving DecidableEq, Repr

/-- An option: its spellings, and whether a word belongs to it. -/
structure OptionForm where
  key : OptionKey
  names : List String
  takesWord : Bool
deriving DecidableEq, Repr

/-- How an option is called in messages. -/
def OptionForm.title (o : OptionForm) : String := "/".intercalate o.names

/-- How many words belong together. -/
inductive Arity where
  | one
  /-- At least one. -/
  | some
  /-- One word and everything behind it, options too. -/
  | rest
deriving DecidableEq, Repr

/-- Words that are no options, under a name. -/
structure WordForm where
  name : String
  arity : Arity
deriving DecidableEq, Repr

/-- A command: how it is called in messages, its options and its words. -/
structure CommandForm where
  title : String
  options : List OptionForm
  words : List WordForm
deriving DecidableEq, Repr

/-- The option that asks for help. -/
def helpOption : OptionForm := ⟨.help, ["-h", "--help"], false⟩

/-- The option for the folder of the templates. -/
def templatesOption : OptionForm := ⟨.templates, ["--templates", "-t"], true⟩

/-- The options of the commands that make files. -/
def makingOptions : List OptionForm := [templatesOption, ⟨.context, ["--context", "-c"], true⟩,
  ⟨.assignment, ["--set"], true⟩, ⟨.verbose, ["--verbose", "-v"], false⟩]

/-- The options of a batch. -/
def batchOptions : List OptionForm :=
  [⟨.parallel, ["--parallel", "-p"], true⟩, ⟨.timeout, ["--timeout"], true⟩]

/-- The name of the program. -/
def programName : String := "template-chain"

/-- The form of all command lines: a command and what is left to it. -/
def mainForm : CommandForm := ⟨programName, [helpOption], [⟨"command", .rest⟩]⟩

/-- The form of a command. -/
def commandForm (name : String) (options : List OptionForm) (words : List WordForm) :
    String × CommandForm :=
  (name, ⟨programName ++ " " ++ name, helpOption :: options, words⟩)

/-- The commands. -/
def commandForms : List (String × CommandForm) := [
  commandForm "parse" [] [⟨"files", .some⟩],
  commandForm "process" (makingOptions ++ batchOptions) [⟨"files", .some⟩],
  commandForm "generate" makingOptions [⟨"generator", .one⟩, ⟨"destination", .one⟩],
  commandForm "list" [templatesOption] []]

/-- What is wrong with a command line. -/
inductive UsageFault where
  | required (names : List String)
  | unrecognized (words : List String)
  | ambiguous (word : String) (names : List String)
  | noWord (option : OptionForm)
  | extraWord (option : OptionForm) (word : String)
  | notInt (option : OptionForm) (word : String)
  | notFloat (option : OptionForm) (word : String)
  | noCommand (word : String)
deriving DecidableEq, Repr

/-- The wording of a fault. -/
def UsageFault.message : UsageFault → String
  | .required names => "the following arguments are required: " ++ ", ".intercalate names
  | .unrecognized words => "unrecognized arguments: " ++ " ".intercalate words
  | .ambiguous word names =>
    "ambiguous option: " ++ word ++ " could match " ++ ", ".intercalate names
  | .noWord o => "argument " ++ o.title ++ ": expected one argument"
  | .extraWord o word =>
    "argument " ++ o.title ++ ": ignored explicit argument " ++ Text.quoted word
  | .notInt o word => "argument " ++ o.title ++ ": invalid int value: " ++ Text.quoted word
  | .notFloat o word => "argument " ++ o.title ++ ": invalid float value: " ++ Text.quoted word
  | .noCommand word =>
    "argument command: invalid choice: " ++ Text.quoted word ++ " (choose from " ++
      ", ".intercalate (commandForms.map (fun e => Text.quoted e.1)) ++ ")"

end LayeredFiles.CommandLine
