import LayeredFiles.Template.Argument
import LayeredFiles.Text.Case
import LayeredFiles.Value.Parts
/-
Module: LayeredFiles.Template.Operation
Layer: Template
Purpose: the operations of values that templates call: case, replacement and splitting of texts, and
  looking into dictionaries. Safe texts give safe texts, and escape what is put into them.
Main exports: softText, mapText, replaceIn, splitText, splitBlanks, callOperation, callValue
-/

namespace LayeredFiles.Template

open Value

/-- A text as it is, any other value as its text. -/
def softText (v : Value) : Except Fault Value :=
  match v with
  | .str _ => .ok v
  | .safe _ => .ok v
  | v => v.shown.map .str

/-- The text of a value made safe: a safe text as it is, any other text escaped. -/
def safeText (v : Value) : Except Fault String :=
  match v with
  | .safe s => .ok s
  | v => v.shown.map Text.escape

/-- A text changed by a function; a safe text stays safe. -/
def mapText (f : List Char → List Char) (v : Value) : Value :=
  match v with
  | .str s => .str (String.ofList (f s.toList))
  | .safe s => .safe (String.ofList (f s.toList))
  | v => v

/-- How faults name the type of an argument. -/
def argumentType (v : Value) : String := if v.typeName = "NoneType" then "None" else v.typeName

/-- A limit on a number of times; a negative number is none. -/
def limitOf (v : Value) : Except Fault (Option Nat) :=
  match v.int? with
  | some i => .ok (if i < 0 then none else some i.toNat)
  | none => .error (.type (.notInteger v.typeName))

/-- An argument of a replacement that has to be a text. -/
def replaceArgument (place : Nat) (v : Value) : Except Fault String :=
  match v.text? with
  | some s => .ok s
  | none =>
    .error (.type (.arguments
      ("replace() argument " ++ toString place ++ " must be str, not " ++ argumentType v)))

/-- A text with every occurrence of one text replaced by another one, up to a limit. What is put into a
    safe text is made safe first. -/
def replaceIn (v old new count : Value) : Except Fault Value := do
  let new ← if v.isSafe then (safeText new).map .str else pure new
  let old ← replaceArgument 1 old
  let new ← replaceArgument 2 new
  let limit ← limitOf count
  pure (mapText (Text.replaceAll old.toList new.toList limit) v)

/-- The words of a text between runs of blanks, cut at most `limit` times. `fuel` bounds the number of
    words. -/
def splitBlanksUpTo : Nat → Option Nat → List Char → List (List Char)
  | 0, _, _ => []
  | fuel + 1, limit, s =>
    match Text.stripLeft s, limit with
    | [], _ => []
    | s, some 0 => [s]
    | s, limit =>
      s.takeWhile (fun c => !Text.isBlank c) ::
        splitBlanksUpTo fuel (limit.map (· - 1)) (s.dropWhile (fun c => !Text.isBlank c))

/-- The words of a text between runs of blanks. -/
def splitBlanks (limit : Option Nat) (s : List Char) : List (List Char) :=
  splitBlanksUpTo (s.length + 1) limit s

/-- The pieces of a text between separators; without a separator, its words. -/
def splitText (v separator limit : Value) : Except Fault Value := do
  let limit ← limitOf limit
  let s := (v.text?.getD "").toList
  let piece (p : List Char) : Value :=
    if v.isSafe then .safe (String.ofList p) else .str (String.ofList p)
  match separator with
  | .null => pure (.list ((splitBlanks limit s).map piece))
  | separator =>
    match separator.text? with
    | none => .error (.type (.arguments ("must be str or None, not " ++ separator.typeName)))
    | some "" => .error (.value .emptySeparator)
    | some mark => pure (.list ((Text.splitOnText mark.toList limit s).map piece))

/-- The fault of a call with these words. -/
def argumentFault {α : Type} (words : String) : Except Fault α := .error (.type (.arguments words))

/-- Refuses arguments by name. -/
def refuseNamed (callee : String) (args : Arguments) : Except Fault Unit :=
  if args.named.isEmpty then .ok () else argumentFault (callee ++ "() takes no keyword arguments")

/-- Refuses all arguments. -/
def refuseAll (callee : String) (args : Arguments) : Except Fault Unit := do
  refuseNamed callee args
  let n := args.positional.length
  if n = 0 then pure ()
  else argumentFault (callee ++ "() takes no arguments (" ++ toString n ++ " given)")

/-- Arguments by place, of which there must be at least and at most so many. -/
def countArguments (callee : String) (least most : Nat) (args : Arguments) :
    Except Fault (List Value) :=
  let n := args.positional.length
  if n < least then
    argumentFault (callee ++ " expected at least " ++ Signature.counted least "argument" ++ ", got " ++
      toString n)
  else if most < n then
    argumentFault (callee ++ " expected at most " ++ Signature.counted most "argument" ++ ", got " ++
      toString n)
  else .ok args.positional

/-- The separator and the limit of a splitting of a plain text. -/
def splitArguments (args : Arguments) : Except Fault (Value × Value) :=
  let total := args.positional.length + args.named.length
  if 2 < total then
    argumentFault ("split() takes at most 2 arguments (" ++ toString total ++ " given)")
  else
    match args.named.find? (fun e => e.1 != "sep" && e.1 != "maxsplit") with
    | some e => argumentFault ("'" ++ e.1 ++ "' is an invalid keyword argument for split()")
    | none =>
      let named (name : String) (otherwise : Value) : Value := (args.named.lookup name).getD otherwise
      match args.positional with
      | [] => .ok (named "sep" .null, named "maxsplit" (.int (-1)))
      | [separator] =>
        if args.named.any (fun e => e.1 == "sep") then
          argumentFault "argument for split() given by name ('sep') and position (1)"
        else .ok (separator, named "maxsplit" (.int (-1)))
      | separator :: limit :: _ => .ok (separator, limit)

/-- The parameters of the operations of safe texts. -/
def safeSignature (name : String) : Signature :=
  let full := "Markup." ++ name
  if name = "replace" then ⟨full, 1, ["old", "new"], ["count"]⟩
  else if name = "split" then ⟨full, 1, [], ["sep", "maxsplit"]⟩
  else ⟨full, 1, [], []⟩

/-- Applies an operation of a safe text. -/
def callSafeText (v : Value) (name : String) (args : Arguments) : Except Fault Value := do
  let values ← (safeSignature name).bind args
  match name, values with
  | "upper", _ => pure (mapText Text.upper v)
  | "lower", _ => pure (mapText Text.lower v)
  | "replace", [some old, some new, count] => replaceIn v old new (count.getD (.int (-1)))
  | "split", [separator, limit] =>
    splitText v (separator.getD .null) (limit.getD (.int (-1)))
  | _, _ => .error (.type (.notCallable (Value.method v name).typeName))

/-- Applies an operation of a plain text. -/
def callPlainText (v : Value) (name : String) (args : Arguments) : Except Fault Value := do
  match name with
  | "upper" =>
    refuseAll "str.upper" args
    pure (mapText Text.upper v)
  | "lower" =>
    refuseAll "str.lower" args
    pure (mapText Text.lower v)
  | "replace" =>
    refuseNamed "str.replace" args
    match ← countArguments "replace" 2 3 args with
    | [old, new] => replaceIn v old new (.int (-1))
    | old :: new :: count :: _ => replaceIn v old new count
    | _ => pure v
  | "split" =>
    let (separator, limit) ← splitArguments args
    splitText v separator limit
  | _ => .error (.type (.notCallable (Value.method v name).typeName))

/-- Applies an operation of a dictionary. -/
def callDict (entries : Entries) (name : String) (args : Arguments) : Except Fault Value := do
  match name with
  | "items" =>
    refuseAll "dict.items" args
    pure (.view .items entries)
  | "keys" =>
    refuseAll "dict.keys" args
    pure (.view .keys entries)
  | "get" =>
    refuseNamed "dict.get" args
    match ← countArguments "get" 1 2 args with
    | key :: rest =>
      let key ← key.asKey
      pure ((Entries.get? entries key).getD (rest.head?.getD .null))
    | [] => pure .null
  | _ => .error (.type (.notCallable (Value.method (.dict entries) name).typeName))

/-- Applies an operation of a value. -/
def callOperation (owner : Value) (name : String) (args : Arguments) : Except Fault Value :=
  match owner with
  | .str _ => callPlainText owner name args
  | .safe _ => callSafeText owner name args
  | .dict entries => callDict entries name args
  | owner => .error (.type (.notCallable (Value.method owner name).typeName))

/-- Calls a value. Only operations can be called. -/
def callValue (callee : Value) (args : Arguments) : Except Fault Value :=
  match callee with
  | .method owner name => callOperation owner name args
  | .missing m => .error (.missing m)
  | v => .error (.type (.notCallable v.typeName))

example : splitBlanks none " a  b ".toList = ["a".toList, "b".toList] ∧
    splitBlanks (some 1) "a b c ".toList = ["a".toList, "b c ".toList] := by decide +kernel

end LayeredFiles.Template
