import LayeredFiles.Value.Basic
/-
Module: LayeredFiles.Template.Tree
Layer: Template
Purpose: templates as trees of statements and expressions.
Main exports: Comparison, Arithmetic, ArgumentKind, Expr, Target, Stmt
-/

namespace LayeredFiles.Template

/-- How two values are compared. -/
inductive Comparison where
  | eq | ne | gt | ge | lt | le | isIn | notIn
deriving DecidableEq, Repr

/-- The operations on two values that compute a new one. -/
inductive Arithmetic where
  | add | sub | mul | div | floorDiv | mod | pow
deriving DecidableEq, Repr

/-- How an argument is passed. -/
inductive ArgumentKind where
  | positional
  | named (name : String)
  /-- The items of a sequence, one after another. -/
  | spread
  /-- The entries of a dictionary, by name. -/
  | spreadNamed
deriving DecidableEq, Repr

/-- An expression. -/
inductive Expr where
  | literal (v : Value)
  | name (name : String)
  | tuple (items : List Expr)
  | list (items : List Expr)
  | dict (entries : List (Expr × Expr))
  /-- The alternative may be left out; the line is that of the expression. -/
  | cond (line : Nat) (test yes : Expr) (no : Option Expr)
  | or (left right : Expr)
  | and (left right : Expr)
  | not (e : Expr)
  | compare (first : Expr) (rest : List (Comparison × Expr))
  | binary (op : Arithmetic) (left right : Expr)
  | concat (items : List Expr)
  | neg (e : Expr)
  | pos (e : Expr)
  | part (owner : Expr) (name : String)
  | item (owner key : Expr)
  | slice (owner : Expr) (start stop step : Option Expr)
  | call (callee : Expr) (args : List (ArgumentKind × Expr))
  | filter (e : Expr) (name : String) (args : List (ArgumentKind × Expr))
  | test (e : Expr) (name : String) (args : List (ArgumentKind × Expr))
deriving Repr

instance : Inhabited Expr := ⟨.literal .null⟩

/-- What a value is bound to. -/
inductive Target where
  | name (name : String)
  | tuple (items : List Target)
  /-- A part of a value that a name stands for. -/
  | part (owner name : String)
deriving Repr

/-- A filter with its arguments. -/
abbrev FilterCall := String × List (ArgumentKind × Expr)

/-- A statement. -/
inductive Stmt where
  | data (text : List Char)
  | print (e : Expr)
  /-- The first branch whose condition holds, or else the last part. -/
  | cond (branches : List (Expr × List Stmt)) (otherwise : List Stmt)
  /-- The body for each item that passes the condition, or else the last part if there is none. -/
  | loop (target : Target) (items : Expr) (condition : Option Expr) (body otherwise : List Stmt)
  | assign (target : Target) (value : Expr)
  /-- Binds the text of the body, passed through filters, the first one first. -/
  | capture (target : Target) (filters : List FilterCall) (body : List Stmt)
deriving Repr

end LayeredFiles.Template
