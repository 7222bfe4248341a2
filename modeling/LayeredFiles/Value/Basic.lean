import LayeredFiles.Number.Binary64
import LayeredFiles.Text.Quoted
/-
Module: LayeredFiles.Value.Basic
Layer: Value
Purpose: the values that contexts hold and templates compute with. A dictionary is the list of its
  entries in insertion order. A name or part that a template asks for and does not find is a value
  too, the missing value: it may be tested and passed on, and fails when its text is wanted.
Main exports: Date, DateTime, Missing, Value, Value.typeName, Value.ownerName, Value.isTrue, Entries
-/

namespace LayeredFiles

open Number

/-- A day of the Gregorian calendar. -/
structure Date where
  year : Nat
  month : Nat
  day : Nat
deriving DecidableEq, Repr

/-- A moment of a day, with the distance of its clock from universal time in seconds if known. -/
structure DateTime where
  date : Date
  hour : Nat
  minute : Nat
  second : Nat
  microsecond : Nat
  offset : Option Int
deriving DecidableEq, Repr

/-- Something a template asked for and did not find. -/
inductive Missing where
  /-- A name that nothing is bound to. -/
  | name (name : String)
  /-- A part, by name, of a value that `owner` describes. -/
  | attribute (owner name : String)
  /-- An element, by a key that is no text; `key` is the key as lists show it. -/
  | element (owner key : String)
  /-- The value of a conditional expression whose condition fails and that has no alternative. -/
  | alternative (line : Nat)
  /-- The first or the last item of an empty sequence. -/
  | item (isFirst : Bool)
deriving DecidableEq, Repr

/-- The wording for a missing value. -/
def Missing.message : Missing → String
  | .name n => Text.quoted n ++ " is undefined"
  | .attribute owner part => Text.quoted owner ++ " has no attribute " ++ Text.quoted part
  | .element owner key => owner ++ " has no element " ++ key
  | .alternative line =>
    "the inline if-expression on line " ++ toString line ++
      " evaluated to false and no else section was defined."
  | .item isFirst =>
    "No " ++ (if isFirst then "first" else "last") ++ " item, sequence was empty."

/-- A missing alternative has an empty text; all other missing values have none. -/
def Missing.isStrict : Missing → Bool
  | .alternative _ => false
  | _ => true

/-- What a view of a dictionary shows. -/
inductive ViewKind where
  | keys
  | items
deriving DecidableEq, Repr

/-- A value of a context or a template. -/
inductive Value where
  | null
  | bool (b : Bool)
  | int (i : Int)
  | float (x : Binary64)
  | str (s : String)
  /-- A text that is already safe for markup and is not escaped again. -/
  | safe (s : String)
  | bytes (content : List UInt8)
  | date (d : Date)
  | datetime (d : DateTime)
  | list (items : List Value)
  | tuple (items : List Value)
  | dict (entries : List (Value × Value))
  /-- The keys or the entries of a dictionary as a sequence. -/
  | view (kind : ViewKind) (entries : List (Value × Value))
  | missing (m : Missing)
  /-- An operation of a value, not yet applied. -/
  | method (owner : Value) (name : String)
  /-- The state of a loop: the place of its current item and the number of its items. -/
  | loop (index length : Nat)
deriving Repr

instance : Inhabited Value := ⟨.null⟩

/-- The entries of a dictionary, in order of insertion. -/
abbrev Entries := List (Value × Value)

namespace Value

/-- The name of a value's type, as faults name it. -/
def typeName : Value → String
  | .null => "NoneType"
  | .bool _ => "bool"
  | .int _ => "int"
  | .float _ => "float"
  | .str _ => "str"
  | .safe _ => "Markup"
  | .bytes _ => "bytes"
  | .date _ => "datetime.date"
  | .datetime _ => "datetime.datetime"
  | .list _ => "list"
  | .tuple _ => "tuple"
  | .dict _ => "dict"
  | .view .keys _ => "dict_keys"
  | .view .items _ => "dict_items"
  | .missing m => if m.isStrict then "StrictUndefined" else "Undefined"
  | .method (.safe _) _ => "method"
  | .method _ _ => "builtin_function_or_method"
  | .loop _ _ => "LoopContext"

/-- How a value is described when a part of it is not found. -/
def ownerName : Value → String
  | .null => "None"
  | .safe _ => "markupsafe.Markup object"
  | .loop _ _ => "jinja2.runtime.LoopContext object"
  | v => v.typeName ++ " object"

/-- Whether a condition on the value holds. Zeros, empty texts and empty collections do not count as
    true; neither does a missing value, which callers refuse before they ask. -/
def isTrue : Value → Bool
  | .null => false
  | .bool b => b
  | .int i => i != 0
  | .float x => !x.isZero
  | .str s => s != ""
  | .safe s => s != ""
  | .bytes content => !content.isEmpty
  | .date _ => true
  | .datetime _ => true
  | .list items => !items.isEmpty
  | .tuple items => !items.isEmpty
  | .dict entries => !entries.isEmpty
  | .view _ entries => !entries.isEmpty
  | .missing _ => false
  | .method _ _ => true
  | .loop _ _ => true

/-- The text of a value that is a text. -/
def text? : Value → Option String
  | .str s => some s
  | .safe s => some s
  | _ => none

/-- A whole number; truth values count as one and zero. -/
def int? : Value → Option Int
  | .int i => some i
  | .bool b => some (if b then 1 else 0)
  | _ => none

/-- A value that may be the key of a dictionary. -/
def isHashable : Value → Bool
  | .list _ => false
  | .dict _ => false
  | .view _ _ => false
  | .tuple items => isHashableAll items
  | _ => true
where
  /-- All of some values may be keys. -/
  isHashableAll : List Value → Bool
    | [] => true
    | v :: rest => v.isHashable && isHashableAll rest

end Value

end LayeredFiles
