import LayeredFiles.Number.Reading
import LayeredFiles.Template.Operation
import LayeredFiles.Text.Words
/-
Module: LayeredFiles.Template.Filter
Layer: Template
Purpose: the filters, which make a value out of a value and arguments, and the tests, which ask
  something of a value. In templates that escape, filters keep what is safe and make safe what they
  put next to it. The two tables of names are the filters and the tests that there are; a template that
  asks for any other is reported to have an unknown one.
Main exports: Filter, Filter.find?, Filter.apply, Test, Test.find?, Test.apply, sortValues
-/

namespace LayeredFiles.Template

open Number Value

/-! ### Sorting -/

/-- A comparison that may fail: whether the first value comes before the second. -/
abbrev Before (α : Type) := α → α → Except Fault Bool

/-- The place behind all items of a sorted list that a value does not come before, found by halving;
    `fuel` bounds the number of steps. -/
def placeIn {α : Type} (before : Before α) (v : α) (sorted : List α) :
    Nat → Nat → Nat → Except Fault Nat
  | 0, low, _ => .ok low
  | fuel + 1, low, high =>
    if low < high then do
      let middle := low + (high - low) / 2
      match sorted[middle]? with
      | none => pure low
      | some item =>
        if ← before v item then placeIn before v sorted fuel low middle
        else placeIn before v sorted fuel (middle + 1) high
    else .ok low

/-- Puts values into a sorted list one after another. -/
def insertAll {α : Type} (before : Before α) : List α → List α → Except Fault (List α)
  | sorted, [] => .ok sorted
  | sorted, v :: rest => do
    let place ← placeIn before v sorted (sorted.length + 1) 0 sorted.length
    insertAll before (sorted.take place ++ v :: sorted.drop place) rest

/-- The run of values at the front, each of which comes before the one in front of it or none of which
    does, in reverse order, and the rest. -/
def takeRun {α : Type} (before : Before α) (isFalling : Bool) (last : α) (run : List α) :
    List α → Except Fault (List α × List α)
  | [] => .ok (last :: run, [])
  | v :: rest => do
    if (← before v last) == isFalling then takeRun before isFalling v (last :: run) rest
    else pure (last :: run, v :: rest)

/-- Sorts values and keeps the order of equal ones. The run at the front is taken as it is, or turned
    round if it falls; the other values are put in one after another. -/
def sortValues {α : Type} (before : Before α) (values : List α) : Except Fault (List α) := do
  match values with
  | [] => pure []
  | [v] => pure [v]
  | first :: second :: rest =>
    let isFalling ← before second first
    let (run, rest) ← takeRun before isFalling second [first] rest
    insertAll before (if isFalling then run else run.reverse) rest

/-! ### Parts of items -/

/-- The parts that a dotted path leads through: digits are places, all else names. -/
def pathParts (path : Value) : List Value :=
  match path with
  | .null => []
  | path =>
    match path.text? with
    | some s =>
      (Text.splitOn '.' s.toList).map (fun p =>
        if p ≠ [] && p.all Char.isDigit then
          .int (p.foldl (fun n c => n * 10 + (c.toNat - 0x30)) 0)
        else .str (String.ofList p))
    | none => [path]

/-- What a path leads to. -/
def followPath (v : Value) : List Value → Except Fault Value
  | [] => .ok v
  | part :: rest => do followPath (← v.item part) rest

/-! ### Filters -/

/-- A filter. -/
inductive Filter where
  | default | escape | safe | replace | upper | lower | capitalize | trim | join | length | first | last
  | sort | int | string | list | pascalCase | snakeCase
deriving DecidableEq, Repr

namespace Filter

/-- The filters by name. -/
def byName : List (String × Filter) := [("default", default), ("d", default), ("e", escape),
  ("escape", escape), ("safe", safe), ("replace", replace), ("upper", upper), ("lower", lower),
  ("capitalize", capitalize), ("trim", trim), ("join", join), ("length", length), ("count", length),
  ("first", first), ("last", last), ("sort", sort), ("int", int), ("string", string), ("list", list),
  ("pascal_case", pascalCase), ("snake_case", snakeCase)]

/-- The filter of a name. -/
def find? (name : String) : Option Filter := byName.lookup name

/-- The parameters of a filter behind the value it is applied to. -/
def signature : Filter → Signature
  | .default => ⟨"do_default", 1, [], ["default_value", "boolean"]⟩
  | .escape => ⟨"escape", 1, [], []⟩
  | .safe => ⟨"do_mark_safe", 1, [], []⟩
  | .replace => ⟨"do_replace", 2, ["old", "new"], ["count"]⟩
  | .upper => ⟨"do_upper", 1, [], []⟩
  | .lower => ⟨"do_lower", 1, [], []⟩
  | .capitalize => ⟨"do_capitalize", 1, [], []⟩
  | .trim => ⟨"do_trim", 1, [], ["chars"]⟩
  | .join => ⟨"sync_do_join", 2, [], ["d", "attribute"]⟩
  | .length => ⟨"len", 1, [], []⟩
  | .first => ⟨"sync_do_first", 2, [], []⟩
  | .last => ⟨"do_last", 2, [], []⟩
  | .sort => ⟨"do_sort", 2, [], ["reverse", "case_sensitive", "attribute"]⟩
  | .int => ⟨"do_int", 1, [], ["default", "base"]⟩
  | .string => ⟨"soft_str", 1, [], []⟩
  | .list => ⟨"sync_do_list", 1, [], []⟩
  | .pascalCase => ⟨"_pascal_case_filter", 1, [], []⟩
  | .snakeCase => ⟨"_snake_case_filter", 1, [], []⟩

/-- The values of a filter's parameters. -/
def bind (f : Filter) (args : Arguments) : Except Fault (List (Option Value)) :=
  match f with
  | .length => do
    refuseNamed "len" args
    let n := args.positional.length
    if n = 0 then pure []
    else argumentFault ("len() takes exactly one argument (" ++ toString (n + 1) ++ " given)")
  | f => f.signature.bind args

/-- Replaces one text by another one. In a template that escapes, a text that takes in a safe one is
    made safe before. -/
def applyReplace (escapes : Bool) (v old new count : Value) : Except Fault Value := do
  let count := match count with
    | .null => .int (-1)
    | count => count
  if escapes then
    let v ← if old.isSafe || (new.isSafe && !v.isSafe) then (safeText v).map .safe else softText v
    replaceIn v (← softText old) (← softText new) count
  else
    let v ← v.shown
    let old ← old.shown
    let new ← new.shown
    replaceIn (.str v) (.str old) (.str new) count

/-- A text without the given characters, or without blanks, at both ends. -/
def applyTrim (v chars : Value) : Except Fault Value := do
  let v ← softText v
  match chars with
  | .null => pure (mapText Text.strip v)
  | chars =>
    match chars.text? with
    | none => .error (.type .notStrippable)
    | some chars =>
      let isDropped (c : Char) : Bool := chars.toList.contains c
      pure (mapText (fun s => ((s.dropWhile isDropped).reverse.dropWhile isDropped).reverse) v)

/-- The texts of some values with a separator between them. In a template that escapes, a safe part
    makes the whole safe and all other parts escaped. -/
def applyJoin (escapes : Bool) (v separator path : Value) : Except Fault Value := do
  let follow (items : List Value) : Except Fault (List Value) :=
    match path with
    | .null => .ok items
    | path => items.mapM (fun item => followPath item (pathParts path))
  if !escapes then
    let mark ← separator.shown
    let texts ← (← follow (← v.items)).mapM shown
    pure (.str (mark.intercalate texts))
  else if separator.isSafe then
    let texts ← (← follow (← v.items)).mapM safeText
    pure (.safe ((separator.text?.getD "").intercalate texts))
  else
    let items ← (← follow (← v.items)).mapM softText
    if items.any isSafe then
      let mark ← safeText separator
      pure (.safe (mark.intercalate (items.map escapedText)))
    else
      let mark ← separator.shown
      pure (.str (mark.intercalate (items.map display)))

/-- The items of a value that can be read backwards. -/
def reversibleItems (v : Value) : Except Fault (List Value) :=
  match v with
  | .loop _ _ => .error (.type (.notReversible v.typeName))
  | v =>
    match v.items with
    | .error (.type (.notIterable t)) => .error (.type (.notReversible t))
    | result => result

/-- A sorting key: texts count in lower case unless case matters. -/
def sortKey (caseMatters : Bool) (paths : List (List Value)) (v : Value) :
    Except Fault (List Value) :=
  paths.mapM (fun path => do
    let part ← followPath v path
    pure (if caseMatters then part else mapText Text.lower part))

/-- Whether a list of keys comes before another one: the first keys that differ decide. -/
def keysBefore : List Value → List Value → Except Fault Bool
  | a :: as, b :: bs => do
    if ← a.isEqual b then keysBefore as bs else isOrdered "<" (· == .lt) a b
  | as, bs => .ok (as.length < bs.length)

/-- The items of a value in order. -/
def applySort (v reverse caseMatters path : Value) : Except Fault Value := do
  let caseMatters ← caseMatters.truth
  let paths := match path with
    | .str s => (Text.splitOn ',' s.toList).map (fun p => pathParts (.str (String.ofList p)))
    | path => [pathParts path]
  let items ← v.items
  let isReverse ← match reverse.int? with
    | some i => pure (i != 0)
    | none => .error (.type (.notInteger reverse.typeName))
  let keyed ← items.mapM (fun item => do pure (← sortKey caseMatters paths item, item))
  let sorted ← sortValues (fun a b => keysBefore a.1 b.1) (if isReverse then keyed.reverse else keyed)
  let result := sorted.map Prod.snd
  pure (.list (if isReverse then result.reverse else result))

/-- The base that the digits of a text are written in, if it is marked in front of them. -/
def markedBase (s : List Char) : Option Nat :=
  match (takeSign (trimNumber s)).2 with
  | '0' :: mark :: _ =>
    if mark = 'x' || mark = 'X' then some 16
    else if mark = 'o' || mark = 'O' then some 8
    else if mark = 'b' || mark = 'B' then some 2
    else none
  | _ => none

/-- The whole number that a text is in a base. -/
def wholeOfText? (base : Int) (s : List Char) : Option Int :=
  if base = 0 then
    match markedBase s with
    | some base => (readInt base s).toOption
    | none =>
      let digits := (takeSign (trimNumber s)).2
      (readInt 10 s).toOption.filter (fun i => i = 0 || digits.head? ≠ some '0')
  else if 2 ≤ base && base ≤ 36 then (readInt base.toNat s).toOption
  else none

/-- A value as a whole number: what its text gives, or else the number before its point, or else the
    value that is given for all others. -/
def applyInt (v otherwise base : Value) : Except Fault Value :=
  match v with
  | .missing m => .error (.missing m)
  | .float x =>
    if x.isInfinite then .error (.arithmetic .intOfInfinity)
    else .ok ((x.truncate?.map .int).getD otherwise)
  | v =>
    match v.text? with
    | some s =>
      match base.int?.bind (fun base => wholeOfText? base s.toList) with
      | some i => .ok (.int i)
      | none => .ok ((((readFloat s.toList).bind Binary64.truncate?).map .int).getD otherwise)
    | none => .ok ((v.int?.map .int).getD otherwise)

/-- A text with its words spelt another way. -/
def applyWords (spell : List Char → List Char) (v : Value) : Except Fault Value :=
  match v.text?, v with
  | some s, _ => .ok (.str (String.ofList (spell s.toList)))
  | none, .bytes _ => .error (.type .bytesPattern)
  | none, v => .error (.type (.notPattern v.typeName))

/-- The value, unless it is missing, or unless it does not count as true if that is asked. -/
def applyDefault (v otherwise asksTruth : Value) : Except Fault Value :=
  match v with
  | .missing _ => .ok otherwise
  | v => do
    if ← asksTruth.truth then pure (if ← v.truth then v else otherwise) else pure v

/-- Applies a filter whose parameters are bound. -/
def applyBound (escapes : Bool) (f : Filter) (v : Value) (values : List (Option Value)) :
    Except Fault Value :=
  match f, values with
  | .default, [otherwise, asksTruth] =>
    applyDefault v (otherwise.getD (.str "")) (asksTruth.getD (.bool false))
  | .escape, _ => (safeText v).map .safe
  | .safe, _ => v.shown.map .safe
  | .replace, [old, new, count] =>
    applyReplace escapes v (old.getD .null) (new.getD .null) (count.getD .null)
  | .upper, _ => (softText v).map (mapText Text.upper)
  | .lower, _ => (softText v).map (mapText Text.lower)
  | .capitalize, _ => (softText v).map (mapText Text.capitalize)
  | .trim, [chars] => applyTrim v (chars.getD .null)
  | .join, [separator, path] =>
    applyJoin escapes v (separator.getD (.str "")) (path.getD .null)
  | .length, _ => v.size.map (fun n => .int n)
  | .first, _ => v.items.map (fun items => items.head?.getD (.missing (.item true)))
  | .last, _ => (reversibleItems v).map (fun items => items.getLast?.getD (.missing (.item false)))
  | .sort, [reverse, caseMatters, path] =>
    applySort v (reverse.getD (.bool false)) (caseMatters.getD (.bool false)) (path.getD .null)
  | .int, [otherwise, base] => applyInt v (otherwise.getD (.int 0)) (base.getD (.int 10))
  | .string, _ => softText v
  | .list, _ => v.items.map .list
  | .pascalCase, _ => applyWords Text.pascalCase v
  | .snakeCase, _ => applyWords Text.snakeCase v
  | _, _ => .ok v

/-- Applies a filter to a value and arguments. -/
def apply (escapes : Bool) (f : Filter) (v : Value) (args : Arguments) : Except Fault Value := do
  applyBound escapes f v (← f.bind args)

end Filter

/-! ### Tests -/

/-- A test. -/
inductive Test where
  | defined | undefined | none
deriving DecidableEq, Repr

namespace Test

/-- The tests by name. -/
def byName : List (String × Test) := [("defined", defined), ("undefined", undefined), ("none", none)]

/-- The test of a name. -/
def find? (name : String) : Option Test := byName.lookup name

/-- The parameters of a test behind the value. -/
def signature : Test → Signature
  | .defined => ⟨"test_defined", 1, [], []⟩
  | .undefined => ⟨"test_undefined", 1, [], []⟩
  | .none => ⟨"test_none", 1, [], []⟩

/-- Whether the test holds of a value. -/
def holds (t : Test) (v : Value) : Bool :=
  match t, v with
  | .defined, .missing _ => false
  | .defined, _ => true
  | .undefined, .missing _ => true
  | .undefined, _ => false
  | .none, .null => true
  | .none, _ => false

/-- Applies a test to a value and arguments. -/
def apply (t : Test) (v : Value) (args : Arguments) : Except Fault Value := do
  let _ ← t.signature.bind args
  pure (.bool (t.holds v))

end Test

example : (sortValues (fun a b => .ok (decide (a < b))) [2, 1, 3, 1]).toOption = some [1, 1, 2, 3] := by
  decide +kernel

end LayeredFiles.Template
