import LayeredFiles.Template.Filter
import LayeredFiles.Template.Tree
/-
Module: LayeredFiles.Template.Evaluate
Layer: Template
Purpose: the values of expressions. Names are looked up among what the template has bound and then in
  the context; a name that is bound nowhere is missing. An expression is constant if it has a value
  without any names, and joining constants keeps no trace of what was safe in them.
Main exports: Env, Env.value, eval
-/

namespace LayeredFiles.Template

open Value

/-- What an expression is evaluated in. -/
structure Env where
  /-- What the template has bound, the latest first. -/
  scope : List (String × Value)
  context : Entries
  /-- What is printed is made safe for markup. -/
  escapes : Bool
  /-- No name may be used. -/
  isClosed : Bool

namespace Env

/-- The value of a name. -/
def value (env : Env) (name : String) : Value :=
  match env.scope.lookup name with
  | some v => v
  | none => (Entries.find? env.context name).getD (.missing (.name name))

/-- Binds a name. -/
def set (env : Env) (name : String) (v : Value) : Env := { env with scope := (name, v) :: env.scope }

/-- Without names. -/
def closed (env : Env) : Env := { env with isClosed := true }

end Env

/-- The fault of an expression that is not constant. -/
def notConstant {α : Type} : Except Fault α := .error (.missing (.name ""))

/-- The result of a comparison. -/
def compareValues (op : Comparison) (a b : Value) : Except Fault Bool :=
  match op with
  | .eq => a.isEqual b
  | .ne => (a.isEqual b).map not
  | .gt => isOrdered ">" (· == .gt) a b
  | .ge => isOrdered ">=" (· != .lt) a b
  | .lt => isOrdered "<" (· == .lt) a b
  | .le => isOrdered "<=" (· != .gt) a b
  | .isIn => b.contains a
  | .notIn => (b.contains a).map not

/-- The result of an operation on two values. -/
def computeValues (op : Arithmetic) (a b : Value) : Except Fault Value :=
  match op with
  | .add => a.add b
  | .sub => a.subtract b
  | .mul => a.multiply b
  | .div => a.divide b
  | .floorDiv => a.floorDivide b
  | .mod => a.remainder b
  | .pow => a.power b

/-- A number with a minus sign in front. -/
def isNegativeNumber (v : Value) : Bool :=
  match v with
  | .int i => i < 0
  | .float x => x.isNegative
  | _ => false

/-- The texts of some values joined, one safe text making all others safe. -/
def joinTexts (escapes : Bool) (values : List Value) : Except Fault Value := do
  let texts ← values.mapM softText
  if escapes && texts.any isSafe then pure (.safe (String.join (texts.map escapedText)))
  else pure (.str (String.join (texts.map display)))

/-- The texts of constants joined. -/
def joinConstants (values : List Value) : Except Fault Value := do
  pure (.str (String.join (← values.mapM shown)))

/-- A dictionary out of keys and values. -/
def dictOf (pairs : List (Value × Value)) : Except Fault Value := do
  let checked ← pairs.mapM (fun e => do pure (← e.1.asKey, e.2))
  pure (.dict (Entries.ofList checked))

/-- An argument put behind others. -/
def Arguments.add (args : Arguments) (kind : ArgumentKind) (v : Value) : Except Fault Arguments :=
  match kind with
  | .positional => .ok { args with positional := args.positional ++ [v] }
  | .named name => .ok { args with named := args.named ++ [(name, v)] }
  | .spread => do
    let items ← v.items
    pure { args with positional := args.positional ++ items }
  | .spreadNamed =>
    match v with
    | .dict entries => do
      let named ← entries.mapM (fun e =>
        match e.1.text? with
        | some name => .ok (name, e.2)
        | none => .error (.type .keyword))
      pure { args with named := args.named ++ named }
    | v => .error (.type (.notIterable v.typeName))

mutual

/-- The value of an expression. -/
def eval (env : Env) : Expr → Except Fault Value
  | .literal v => .ok v
  | .name name => if env.isClosed then notConstant else .ok (env.value name)
  | .tuple items => do pure (.tuple (← evalAll env items))
  | .list items => do pure (.list (← evalAll env items))
  | .dict entries => do dictOf (← evalEntries env entries)
  | .cond line test yes no => do
    if ← (← eval env test).truth then eval env yes else evalAlternative env line no
  | .or left right => do
    let v ← eval env left
    if ← v.truth then pure v else eval env right
  | .and left right => do
    let v ← eval env left
    if ← v.truth then eval env right else pure v
  | .not e => do pure (.bool (!(← (← eval env e).truth)))
  | .compare first rest => do evalComparisons env (← eval env first) rest
  | .binary op left right => do
    let a ← eval env left
    let b ← eval env right
    if op = .pow && !env.isClosed && isNegativeNumber a && (eval env.closed left).toBool &&
        !(eval env.closed right).toBool then
      (← computeValues op (← a.negate) b).negate
    else computeValues op a b
  | .concat items =>
    match evalAll env.closed items with
    | .ok values => joinConstants values
    | .error fault =>
      if env.isClosed then .error fault else do joinTexts env.escapes (← evalAll env items)
  | .neg e => do (← eval env e).negate
  | .pos e => do (← eval env e).keep
  | .part owner name => do (← eval env owner).part name
  | .item owner key => do
    let v ← eval env owner
    v.item (← eval env key)
  | .slice owner start stop step => do
    let v ← eval env owner
    let start' ← evalBound env start
    let stop' ← evalBound env stop
    let step' ← evalBound env step
    let isConstant := (eval env.closed owner).toBool && (evalBound env.closed start).toBool &&
      (evalBound env.closed stop).toBool && (evalBound env.closed step).toBool
    if isConstant then v.slicedByName start' stop' step' else v.sliced start' stop' step'
  | .call callee args => do
    let v ← eval env callee
    let args ← evalArguments env ⟨[], []⟩ args
    if env.isClosed then notConstant else callValue v args
  | .filter e name args => do
    let v ← eval env e
    let args ← evalArguments env ⟨[], []⟩ args
    match Filter.find? name with
    | some f => f.apply env.escapes v args
    | none => .error (.template (.unavailableOperation "filter" name))
  | .test e name args => do
    let v ← eval env e
    let args ← evalArguments env ⟨[], []⟩ args
    match Test.find? name with
    | some t => t.apply v args
    | none => .error (.template (.unavailableOperation "test" name))

/-- The values of some expressions. -/
def evalAll (env : Env) : List Expr → Except Fault (List Value)
  | [] => .ok []
  | e :: rest => do
    let v ← eval env e
    pure (v :: (← evalAll env rest))

/-- The keys and values of a dictionary. -/
def evalEntries (env : Env) : List (Expr × Expr) → Except Fault (List (Value × Value))
  | [] => .ok []
  | (key, e) :: rest => do
    let k ← eval env key
    let v ← eval env e
    pure ((k, v) :: (← evalEntries env rest))

/-- The value of an alternative, missing if there is none. -/
def evalAlternative (env : Env) (line : Nat) : Option Expr → Except Fault Value
  | some e => eval env e
  | none => if env.isClosed then notConstant else .ok (.missing (.alternative line))

/-- The value of a bound of a range. -/
def evalBound (env : Env) : Option Expr → Except Fault Value
  | some e => eval env e
  | none => .ok .null

/-- A chain of comparisons behind the value `left`. The first that fails ends the chain. -/
def evalComparisons (env : Env) (left : Value) : List (Comparison × Expr) → Except Fault Value
  | [] => .ok left
  | (op, e) :: rest => do
    let right ← eval env e
    let holds ← compareValues op left right
    match rest with
    | [] => pure (.bool holds)
    | rest => if holds then evalComparisons env right rest else pure (.bool false)

/-- The values of arguments put behind others. -/
def evalArguments (env : Env) (args : Arguments) :
    List (ArgumentKind × Expr) → Except Fault Arguments
  | [] => .ok args
  | (kind, e) :: rest => do
    let v ← eval env e
    evalArguments env (← args.add kind v) rest

end

end LayeredFiles.Template
