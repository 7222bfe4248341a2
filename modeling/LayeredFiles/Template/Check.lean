import LayeredFiles.Template.Evaluate
/-
Module: LayeredFiles.Template.Check
Layer: Template
Purpose: what is refused in a template before it is run. A filter or test that does not exist is
  refused unless it stands in a condition or under one, where it only fails when it is reached; a loop
  starts afresh in this respect. No statement in a loop may bind the name of the loop.
Main exports: checkExpr, checkBody
-/

namespace LayeredFiles.Template

/-- The name that stands for the state of a loop in its body. -/
def loopName : String := "loop"

mutual

/-- Refuses operations that do not exist. What is constant is never looked at. -/
def checkExpr (env : Env) (e : Expr) : Except TemplateFault Unit :=
  if (eval env.closed e).toBool then .ok ()
  else match e with
    | .literal _ => .ok ()
    | .name _ => .ok ()
    | .tuple items => checkExprs env items
    | .list items => checkExprs env items
    | .dict entries => checkEntries env entries
    | .cond _ _ _ _ => .ok ()
    | .or left right => do checkExpr env left; checkExpr env right
    | .and left right => do checkExpr env left; checkExpr env right
    | .not e => checkExpr env e
    | .compare first rest => do checkExpr env first; checkComparisons env rest
    | .binary _ left right => do checkExpr env left; checkExpr env right
    | .concat items => checkExprs env items
    | .neg e => checkExpr env e
    | .pos e => checkExpr env e
    | .part owner _ => checkExpr env owner
    | .item owner key => do checkExpr env owner; checkExpr env key
    | .slice owner start stop step => do
      checkExpr env owner
      checkBound env start
      checkBound env stop
      checkBound env step
    | .call callee args => do checkExpr env callee; checkArguments env args
    | .filter e name args => do
      if (Filter.find? name).isNone then .error (.unknownOperation "filter" name)
      checkExpr env e
      checkArguments env args
    | .test e name args => do
      if (Test.find? name).isNone then .error (.unknownOperation "test" name)
      checkExpr env e
      checkArguments env args

/-- Checks some expressions. -/
def checkExprs (env : Env) : List Expr → Except TemplateFault Unit
  | [] => .ok ()
  | e :: rest => do checkExpr env e; checkExprs env rest

/-- Checks the keys and values of a dictionary. -/
def checkEntries (env : Env) : List (Expr × Expr) → Except TemplateFault Unit
  | [] => .ok ()
  | (key, e) :: rest => do checkExpr env key; checkExpr env e; checkEntries env rest

/-- Checks the right sides of comparisons. -/
def checkComparisons (env : Env) : List (Comparison × Expr) → Except TemplateFault Unit
  | [] => .ok ()
  | (_, e) :: rest => do checkExpr env e; checkComparisons env rest

/-- Checks arguments. -/
def checkArguments (env : Env) : List (ArgumentKind × Expr) → Except TemplateFault Unit
  | [] => .ok ()
  | (_, e) :: rest => do checkExpr env e; checkArguments env rest

/-- Checks a bound of a range. -/
def checkBound (env : Env) : Option Expr → Except TemplateFault Unit
  | none => .ok ()
  | some e => checkExpr env e

end

/-- The target binds a name. -/
def Target.binds (name : String) : Target → Bool
  | .name n => n == name
  | .tuple items => anyBinds name items
  | .part _ _ => false
where
  /-- One of some targets binds a name. -/
  anyBinds (name : String) : List Target → Bool
    | [] => false
    | t :: rest => t.binds name || anyBinds name rest

mutual

/-- The statement binds a name. -/
def Stmt.binds (name : String) : Stmt → Bool
  | .data _ => false
  | .print _ => false
  | .cond branches otherwise => branchesBind name branches || bodyBinds name otherwise
  | .loop target _ _ body otherwise =>
    target.binds name || bodyBinds name body || bodyBinds name otherwise
  | .assign target _ => target.binds name
  | .capture target _ body => target.binds name || bodyBinds name body

/-- One of some statements binds a name. -/
def bodyBinds (name : String) : List Stmt → Bool
  | [] => false
  | s :: rest => s.binds name || bodyBinds name rest

/-- One of some branches binds a name. -/
def branchesBind (name : String) : List (Expr × List Stmt) → Bool
  | [] => false
  | (_, body) :: rest => bodyBinds name body || branchesBind name rest

end

/-- Checks filters, given with the last one first, around a text. -/
def checkFilters (env : Env) : List FilterCall → Except TemplateFault Unit
  | [] => .ok ()
  | (name, args) :: rest => do
    if (Filter.find? name).isNone then .error (.unknownOperation "filter" name)
    checkFilters env rest
    checkArguments env args

mutual

/-- Checks a statement; `isSoft` says that it stands under a condition. -/
def checkStmt (env : Env) (isSoft : Bool) : Stmt → Except TemplateFault Unit
  | .data _ => .ok ()
  | .print e => if isSoft then .ok () else checkExpr env e
  | .cond branches otherwise => do
    checkBranches env branches
    checkBody env true otherwise
  | .loop target items condition body otherwise => do
    checkBound env condition
    if target.binds loopName || bodyBinds loopName body || bodyBinds loopName otherwise then
      .error .loopTarget
    if !isSoft then checkExpr env items
    checkBody env false body
    checkBody env false otherwise
  | .assign _ value => if isSoft then .ok () else checkExpr env value
  | .capture _ filters body => do
    checkBody env false body
    checkFilters env filters.reverse

/-- Checks some statements. -/
def checkBody (env : Env) (isSoft : Bool) : List Stmt → Except TemplateFault Unit
  | [] => .ok ()
  | s :: rest => do checkStmt env isSoft s; checkBody env isSoft rest

/-- Checks the bodies of the branches of a condition. -/
def checkBranches (env : Env) : List (Expr × List Stmt) → Except TemplateFault Unit
  | [] => .ok ()
  | (_, body) :: rest => do checkBody env true body; checkBranches env rest

end

end LayeredFiles.Template
