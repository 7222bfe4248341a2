import LayeredFiles.Chain.Name
import LayeredFiles.Fault
import LayeredFiles.Value.Order
/-
Module: LayeredFiles.Chain.Run
Layer: Chain
Purpose: the execution of a chain, stage by stage. A stage renders one template, with the text of the
  stage before it as content, and writes the result to the file that is named after the templates still
  pending. What renders and what writes are capabilities over a state of any kind, so that a run can be
  followed against any renderer and any store. The first failing action ends the run; what earlier
  stages wrote stays.
Main exports: Capabilities, Stage, plan, stageContext, runStage, runStages, applyChain, process,
  entriesOf, templatesOf
-/

namespace LayeredFiles

/-- What a chain needs from outside, over a state `σ`. -/
structure Capabilities (σ : Type) where
  /-- Renders the template of an identifier with a context. -/
  render : Value → Entries → σ → Except Fault Value × σ
  /-- Writes a text to a path. -/
  write : String → Value → σ → Except Fault Unit × σ
  /-- Tells that the stage of this number, out of so many, has written its file. -/
  announce : Nat → Nat → Value → String → σ → σ

/-- The key of the text that the first stage starts from. -/
def initialContentKey : Value := .str "initial_content"

/-- The key of the text of the stage before. -/
def contentKey : Value := .str "content"

/-- The key of the identifier of the template that is rendered. -/
def templateNameKey : Value := .str "template_name"

/-- One stage: its place in the chain, its template and the file it writes. -/
structure Stage where
  index : Nat
  template : Value
  path : String
deriving Repr

/-- The stages of a chain, in order. -/
def plan (base : String) (templates : List Value) : List Stage :=
  templates.zipIdx.map (fun t =>
    ⟨t.2, t.1, stagePath base (templates.map Value.display) t.2⟩)

/-- The context of a stage. The content and the template's name replace whatever the caller bound to
    their keys. -/
def stageContext (context : Entries) (content template : Value) : Entries :=
  (context.set contentKey content).set templateNameKey template

/-- The text that the first stage starts from: what the caller gives if it counts as true, or the
    empty text. -/
def initialContent (context : Entries) : Value :=
  match context.get? initialContentKey with
  | some v => if v.isTrue then v else .str ""
  | none => .str ""

/-- The fault of a stage whose template could not be rendered. -/
def renderFault (stage : Stage) (cause : Fault) : Fault :=
  match cause with
  | .noTemplate _ _ => .stage .lookup stage.index stage.template stage.path cause
  | _ => .stage .rendering stage.index stage.template stage.path cause

/-- Runs one stage and gives its text. -/
def runStage {σ : Type} (can : Capabilities σ) (context : Entries) (stage : Stage) (content : Value)
    (s : σ) : Except Fault Value × σ :=
  match can.render stage.template (stageContext context content stage.template) s with
  | (.error cause, s) => (.error (renderFault stage cause), s)
  | (.ok text, s) =>
    match can.write stage.path text s with
    | (.error cause, s) =>
      (.error (.stage .writing stage.index stage.template stage.path cause), s)
    | (.ok (), s) => (.ok text, s)

/-- Runs stages one after another, each with the text of the one before, and gives the path that was
    written last. `total` is the number of stages of the whole chain, for the announcements. -/
def runStages {σ : Type} (can : Capabilities σ) (total : Nat) (context : Entries) :
    List Stage → Value → String → σ → Except Fault String × σ
  | [], _, written, s => (.ok written, s)
  | stage :: rest, content, _, s =>
    match runStage can context stage content s with
    | (.error fault, s) => (.error fault, s)
    | (.ok text, s) =>
      let s := can.announce (stage.index + 1) total stage.template stage.path s
      runStages can total context rest text stage.path s

/-- Applies templates to a base path and gives the path that was written last, which is the base
    itself. Without templates nothing is written. -/
def applyChain {σ : Type} (can : Capabilities σ) (base : String) (templates : List Value)
    (context : Entries) (s : σ) : Except Fault String × σ :=
  runStages can templates.length context (plan base templates) (initialContent context) base s

/-! ### Arguments that may be no paths, contexts or chains -/

/-- A value as a path. -/
def pathOf : Value → Except Fault String
  | .str s => .ok s
  | v => .error (.type (.notPath v.typeName))

/-- A pair out of which an entry is made. -/
def pairOf (index : Nat) (v : Value) : Except Fault (Value × Value) :=
  let pair (items : List Value) : Except Fault (Value × Value) :=
    match items with
    | [key, item] =>
      if key.isHashable then .ok (key, item) else .error (.type (.notHashable key.typeName))
    | items => .error (.value (.pairLength index items.length))
  match v with
  | .str s => pair (s.toList.map (fun c => .str c.toString))
  | .list items => pair items
  | .tuple items => pair items
  | .dict entries => pair (entries.map Prod.fst)
  | _ => .error (.type (.pairForm index))

/-- Entries out of a list of pairs. -/
def entriesOfPairs (entries : Entries) (index : Nat) : List Value → Except Fault Entries
  | [] => .ok entries
  | v :: rest =>
    match pairOf index v with
    | .error fault => .error fault
    | .ok (key, item) => entriesOfPairs (entries.set key item) (index + 1) rest

/-- A value as a context. A value that does not count as true is the empty context. -/
def entriesOf (v : Value) : Except Fault Entries :=
  if !v.isTrue then .ok []
  else match v with
    | .dict entries => .ok entries
    | .list items => entriesOfPairs [] 0 items
    | .tuple items => entriesOfPairs [] 0 items
    | .str s => entriesOfPairs [] 0 (s.toList.map (fun c => .str c.toString))
    | v => .error (.type (.notIterable v.typeName))

/-- A value as the templates of a chain. A text is a chain of its characters. -/
def templatesOf : Value → Except Fault (List Value)
  | .list items => .ok items
  | .tuple items => .ok items
  | .str s => .ok (s.toList.map (fun c => .str c.toString))
  | .dict [] => .ok []
  | .dict _ => .error (.type (.notHashable "slice"))
  | v => .error (.type (.notIterable v.typeName))

/-- Applies a chain whose parts are given as values. -/
def applyChainTo {σ : Type} (can : Capabilities σ) (base templates context : Value) (s : σ) :
    Except Fault String × σ :=
  match pathOf base with
  | .error fault => (.error fault, s)
  | .ok base =>
    match entriesOf context with
    | .error fault => (.error fault, s)
    | .ok context =>
      match templatesOf templates with
      | .error fault => (.error fault, s)
      | .ok templates => applyChain can base templates context s

/-- Produces the file that a name describes, by applying the chain that the name carries. A name
    without a chain is given back and nothing is done. -/
def processName {σ : Type} (can : Capabilities σ) (path : String) (context : Value) (s : σ) :
    Except Fault String × σ :=
  let name := ChainName.parse path
  if name.hasChain then
    match entriesOf context with
    | .error fault => (.error fault, s)
    | .ok context => applyChain can name.base (name.templates.map .str) context s
  else (.ok path, s)

/-- Produces a file whose name is given as a value. -/
def process {σ : Type} (can : Capabilities σ) (file context : Value) (s : σ) :
    Except Fault String × σ :=
  match pathOf file with
  | .error fault => (.error fault, s)
  | .ok path => processName can path context s

end LayeredFiles
