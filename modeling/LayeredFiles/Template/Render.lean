import LayeredFiles.Template.Check
import LayeredFiles.Template.Tree.Read
/-
Module: LayeredFiles.Template.Render
Layer: Template
Purpose: running a template. Statements print texts and bind names; what is bound inside a loop or a
  captured text is gone behind it, what is bound under a condition stays.
Main exports: printed, bindTarget, run, runBody, Parsed, Parsed.read, Parsed.render
-/

namespace LayeredFiles.Template

open Value

/-- The text that is printed for a value. -/
def printed (escapes : Bool) (v : Value) : Except Fault (List Char) :=
  if escapes then (safeText v).map String.toList else v.shown.map String.toList

mutual

/-- Binds the names of a target to a value or its items. -/
def bindTarget (env : Env) (v : Value) : Target → Except Fault Env
  | .name name => .ok (env.set name v)
  | .tuple targets =>
    match v.items with
    | .error (.type (.notIterable t)) => .error (.type (.notUnpackable t))
    | .error fault => .error fault
    | .ok items =>
      if items.length < targets.length then
        .error (.value (.tooFewToUnpack targets.length items.length))
      else if targets.length < items.length then .error (.value (.tooManyToUnpack targets.length))
      else bindTargets env items targets
  | .part _ _ => .error (.template .attributeTarget)

/-- Binds the names of some targets to as many values. -/
def bindTargets (env : Env) : List Value → List Target → Except Fault Env
  | v :: values, t :: targets => do bindTargets (← bindTarget env v t) values targets
  | _, _ => .ok env

end

/-- The target has a part of a value in it. -/
def Target.hasPart : Target → Bool
  | .name _ => false
  | .part _ _ => true
  | .tuple items => anyHasPart items
where
  /-- One of some targets has such a part. -/
  anyHasPart : List Target → Bool
    | [] => false
    | t :: rest => t.hasPart || anyHasPart rest

/-- The bindings of the items that pass a condition, up to the first item that fails. -/
def passing (env : Env) (target : Target) (condition : Option Expr) :
    List Value → List Env × Option Fault
  | [] => ([], none)
  | v :: rest =>
    let attempt : Except Fault (Option Env) := do
      let bound ← bindTarget env v target
      match condition with
      | none => pure (some bound)
      | some e => if ← (← eval bound e).truth then pure (some bound) else pure none
    match attempt with
    | .error fault => ([], some fault)
    | .ok none => passing env target condition rest
    | .ok (some bound) =>
      let (others, fault) := passing env target condition rest
      (bound :: others, fault)

/-- The texts of a loop's rounds, the state of the loop bound in each. -/
def runRounds (body : Env → Except Fault (List Char)) (length : Nat) :
    Nat → List Env → Except Fault (List Char)
  | _, [] => .ok []
  | index, env :: rest => do
    let text ← body (env.set loopName (.loop index length))
    pure (text ++ (← runRounds body length (index + 1) rest))

/-- Passes a value through filters. -/
def passThrough (env : Env) : Value → List FilterCall → Except Fault Value
  | v, [] => .ok v
  | v, (name, args) :: rest => do
    let args ← evalArguments env ⟨[], []⟩ args
    match Filter.find? name with
    | some f => passThrough env (← f.apply env.escapes v args) rest
    | none => .error (.template (.unavailableOperation "filter" name))

mutual

/-- Runs a statement: what is bound behind it, and what it prints. -/
def run (env : Env) : Stmt → Except Fault (Env × List Char)
  | .data text => .ok (env, text)
  | .print e => do pure (env, ← printed env.escapes (← eval env e))
  | .cond branches otherwise => runBranches env branches (fun _ => runBody env otherwise)
  | .loop target items condition body otherwise => do
    let values ← (← eval env items).items
    let (rounds, fault) := passing env target condition values
    let text ← runRounds (fun env => do pure (← runBody env body).2) rounds.length 0 rounds
    match fault with
    | some fault => .error fault
    | none =>
      if rounds.isEmpty then pure (env, (← runBody env otherwise).2) else pure (env, text)
  | .assign target value => do
    if target.hasPart then .error (.template .attributeTarget)
    pure (← bindTarget env (← eval env value) target, [])
  | .capture target filters body => do
    let (inner, text) ← runBody env body
    let text := String.ofList text
    let v ← passThrough inner (if env.escapes then .safe text else .str text) filters
    let v ← if env.escapes then v.shown.map .safe else pure v
    pure (← bindTarget env v target, [])

/-- Runs statements one after another. -/
def runBody (env : Env) : List Stmt → Except Fault (Env × List Char)
  | [] => .ok (env, [])
  | s :: rest => do
    let (env, text) ← run env s
    let (env, later) ← runBody env rest
    pure (env, text ++ later)

/-- Runs the first branch whose condition holds. -/
def runBranches (env : Env) :
    List (Expr × List Stmt) → (Unit → Except Fault (Env × List Char)) → Except Fault (Env × List Char)
  | [], otherwise => otherwise ()
  | (test, body) :: rest, otherwise => do
    if ← (← eval env test).truth then runBody env body else runBranches env rest otherwise

end

/-- A template that was read and checked. -/
structure Parsed where
  body : List Stmt
  escapes : Bool

namespace Parsed

/-- Reads a template; `escapes` says whether it makes safe what it prints. -/
def read (source : List Char) (escapes : Bool) : Except TemplateFault Parsed :=
  match readTemplate source with
  | .error fault => .error (.malformed fault)
  | .ok body =>
    match checkBody ⟨[], [], escapes, true⟩ false body with
    | .error fault => .error fault
    | .ok () => .ok ⟨body, escapes⟩

/-- The text of a template in a context. -/
def render (t : Parsed) (context : Entries) : Except Fault (List Char) :=
  (runBody ⟨[], context, t.escapes, false⟩ t.body).map Prod.snd

/-- The names in a context are texts, and none of them is one that rendering keeps for itself. -/
def checkNames : Entries → Except Fault Unit
  | [] => .ok ()
  | (key, _) :: rest =>
    match key.text? with
    | none => .error (.type .keyword)
    | some name => if name = "self" then .error (.type (.keywordTwice name)) else checkNames rest

/-- A value as a context. -/
def contextOf (v : Value) : Except Fault Entries :=
  match v with
  | .dict entries => (checkNames entries).map (fun _ => entries)
  | v => .error (.type (.notMapping v.typeName))

/-- The text of a template in a context that is given as a value. -/
def renderWith (t : Parsed) (context : Value) : Except Fault (List Char) := do
  t.render (← contextOf context)

end Parsed

/-- The text of a template that is given as a text of its own. What it prints is made safe. -/
def renderText (source : String) (context : Value) : Except Fault String :=
  match Parsed.read source.toList true with
  | .error fault => .error (.template fault)
  | .ok t => (t.renderWith context).map String.ofList

end LayeredFiles.Template
