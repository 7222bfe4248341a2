import LayeredFiles.CommandLine.Read
import LayeredFiles.Value.Basic
/-
Module: LayeredFiles.CommandLine.Request
Layer: CommandLine
Purpose: what a command line asks for. The first word names the command and everything behind it is read
  in the form of that command. Words that neither of the two readings takes are refused at the end.
Main exports: Command, Request, Refusal, Request.ofTexts
-/

namespace LayeredFiles.CommandLine

/-- A command with its words. -/
inductive Command where
  /-- Shows the chains that file names carry. -/
  | parse (files : List String)
  /-- Makes files by their chains. -/
  | process (files : List String)
  /-- Makes a file from the template of a generator. -/
  | generate (generator destination : Value)
  /-- Shows the templates there are. -/
  | list
deriving Repr

/-- A command and what its options ask for. -/
structure Request where
  command : Command
  choices : Choices
deriving Repr

/-- Why a command line is no request. -/
inductive Refusal where
  | help
  /-- Something is wrong with it; `program` is who says so. -/
  | usage (program : String) (fault : UsageFault)
deriving DecidableEq, Repr

/-- The line that reports what is wrong with a command line. -/
def usageLine (program : String) (fault : UsageFault) : String :=
  program ++ ": error: " ++ fault.message ++ "\n"

/-- A refusal out of a stop of the reading. -/
def Refusal.ofStop (program : String) : Stop → Refusal
  | .help => .help
  | .fault fault => .usage program fault

/-- The words under a name that wants one; two dashes alone leave an empty list. -/
def oneWord : List String → Value
  | [word] => .str word
  | words => .list (words.map .str)

/-- The command of a name with the words that were read for it. -/
def Command.ofReading (name : String) (r : Reading) : Command :=
  match name with
  | "parse" => .parse (r.wordsOf "files")
  | "process" => .process (r.wordsOf "files")
  | "generate" => .generate (oneWord (r.wordsOf "generator")) (oneWord (r.wordsOf "destination"))
  | _ => .list

namespace Request

/-- Reads a form, with the refusals of its command. -/
def readForm (form : CommandForm) (texts : List String) : Except Refusal Reading :=
  match Reading.ofTexts form texts with
  | .ok r => .ok r
  | .error stop => .error (.ofStop form.title stop)

/-- What a command line asks for. -/
def ofTexts (texts : List String) : Except Refusal Request := do
  let whole ← readForm mainForm texts
  match whole.wordsOf "command" with
  | [] => throw (.usage mainForm.title (.required ["command"]))
  | name :: texts =>
    match commandForms.lookup name with
    | none => throw (.usage mainForm.title (.noCommand name))
    | some form =>
      let r ← readForm form texts
      match whole.left ++ r.left with
      | [] => pure ⟨.ofReading name r, r.choices⟩
      | left => throw (.usage mainForm.title (.unrecognized left))

end Request

end LayeredFiles.CommandLine
