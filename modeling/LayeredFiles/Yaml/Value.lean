import LayeredFiles.Fault
import LayeredFiles.Text.Case
import LayeredFiles.Value.Display
import LayeredFiles.Value.Order
import LayeredFiles.Yaml.Kind
import LayeredFiles.Yaml.Node
/-
Module: LayeredFiles.Yaml.Value
Layer: Yaml
Purpose: the values that texts in a YAML document stand for. Tags say what a node is; without one the text
  of a plain scalar does. A mapping stands for a text as well if one of its keys is an equals sign.
Main exports: YamlStop, Making, Node.tag, textValue, valueByTag, textOf, scalarValue
-/

namespace LayeredFiles.Yaml

open Number

/-- Why a document has no value: it is malformed, or a scalar does not hold what its tag says. -/
inductive YamlStop where
  | problem (what : YamlProblem)
  | fault (fault : Fault)
deriving Repr

/-- The result of making a value. -/
abbrev Making (α : Type) := Except YamlStop α

/-- Stops with a problem. -/
def malformed {α : Type} (what : YamlProblem) : Making α := .error (.problem what)

/-- Stops with a fault. -/
def faulty {α : Type} (fault : Fault) : Making α := .error (.fault fault)

/-! ### Numbers -/

/-- A whole number in a base. -/
def intIn (base : Nat) (s : List Char) : Making Int :=
  match readInt base s with
  | .ok i => .ok i
  | .error .malformed => faulty (.value (.intText base (String.ofList s)))
  | .error (.tooLong digits) => faulty (.value (.intTextTooLong digits))

/-- The text of a number without the underscores between its digits. -/
def digitsOf (s : List Char) : List Char := s.filter (· != '_')

/-- Whether a text is negative, and the text without its sign. There must be a first character. -/
def signOf (s : List Char) : Making (Bool × List Char) :=
  match s with
  | [] => faulty .index
  | '-' :: rest => .ok (true, rest)
  | '+' :: rest => .ok (false, rest)
  | s => .ok (false, s)

/-- A whole number without its sign. -/
def unsignedInt (s : List Char) : Making Int :=
  match s with
  | [] => faulty .index
  | ['0'] => .ok 0
  | '0' :: 'b' :: digits => intIn 2 digits
  | '0' :: 'x' :: digits => intIn 16 digits
  | '0' :: _ => intIn 8 s
  | s =>
    if s.contains ':' then do
      let parts ← (Text.splitOn ':' s).mapM (intIn 10)
      pure (parts.foldl (fun n part => n * 60 + part) 0)
    else intIn 10 s

/-- The whole number that a scalar is. -/
def intOf (s : List Char) : Making Value := do
  let (isNegative, body) ← signOf (digitsOf s)
  let i ← unsignedInt body
  pure (.int (if isNegative then -i else i))

/-- A floating-point number in decimal digits. -/
def floatIn (s : List Char) : Making Binary64 :=
  match readFloat s with
  | some x => .ok x
  | none => faulty (.value (.floatText (String.ofList s)))

/-- A whole number as a floating-point number. -/
def realOf (i : Int) : Making Binary64 :=
  (Binary64.ofInt? i).elim (faulty (.arithmetic .intTooLarge)) .ok

/-- The weight of a part of a number in groups of sixty, so many groups in front of the last one. -/
def weightOf (groups : Nat) : Making Binary64 := realOf (Nat.pow 60 groups)

/-- A floating-point number without its sign. -/
def unsignedFloat (s : List Char) : Making Binary64 :=
  if s = ".inf".toList then .ok (.infinity false)
  else if s.contains ':' then do
    let parts ← (Text.splitOn ':' s).mapM floatIn
    let weights ← (List.range parts.length).mapM weightOf
    pure ((parts.reverse.zip weights).foldl (fun x e => x.add (e.1.mul e.2)) (.zero false))
  else floatIn s

/-- The floating-point number that a scalar is. -/
def floatOf (s : List Char) : Making Value := do
  let (isNegative, body) ← signOf (Text.lower (digitsOf s))
  if body = ".nan".toList then pure (.float .nan)
  else
    let x ← unsignedFloat body
    pure (.float (if isNegative then x.neg else x))

/-! ### Days and moments -/

/-- The number of some digits. -/
def numberOf (s : List Char) : Nat := s.foldl (fun n d => n * 10 + (d.toNat - 0x30)) 0

/-- A day of the calendar. -/
def dateOf (year month day : Nat) : Making Date :=
  if year = 0 then faulty (.value (.calendar "year 0 is out of range"))
  else if month = 0 || 12 < month then faulty (.value (.calendar "month must be in 1..12"))
  else if day = 0 || Value.daysInMonth year month < day then
    faulty (.value (.calendar "day is out of range for month"))
  else .ok ⟨year, month, day⟩

/-- A distance of time in days and seconds as messages show it. -/
def distanceText (seconds : Int) : String :=
  let days := seconds.fdiv 86400
  let rest := seconds.fmod 86400
  let parts := (if days = 0 then [] else ["days=" ++ toString days]) ++
    (if rest = 0 then [] else ["seconds=" ++ toString rest])
  "datetime.timedelta(" ++ (if parts = [] then "0" else ", ".intercalate parts) ++ ")"

/-- The distance from universal time in seconds, less than a day. -/
def offsetOf (sign : Char) (hours minutes : List Char) : Making Int :=
  let size : Int := numberOf hours * 3600 + numberOf minutes * 60
  let seconds := if sign = '-' then -size else size
  if 86400 ≤ size then
    faulty (.value (.timeZone ("offset must be a timedelta strictly between " ++
      "-timedelta(hours=24) and timedelta(hours=24), not " ++ distanceText seconds)))
  else .ok seconds

/-- The distance of a moment from universal time, if there is any. -/
def zoneOf (t : TimeText) : Making (Option Int) :=
  match t.offset with
  | some (sign, hours, minutes) => (offsetOf sign hours minutes).map some
  | none => .ok (if t.isUniversal then some 0 else none)

/-- A moment. -/
def momentOf (t : TimeText) (hour minute second : Nat) : Making Value := do
  let offset ← zoneOf t
  let date ← dateOf (numberOf t.year) (numberOf t.month) (numberOf t.day)
  let parts := t.fraction.take 6
  let fraction := numberOf (parts ++ List.replicate (6 - parts.length) '0')
  if 23 < hour then faulty (.value (.calendar "hour must be in 0..23"))
  else if 59 < minute then faulty (.value (.calendar "minute must be in 0..59"))
  else if 59 < second then faulty (.value (.calendar "second must be in 0..59"))
  else pure (.datetime ⟨date, hour, minute, second, if parts = [] then 0 else fraction, offset⟩)

/-- The day or moment that a scalar is. -/
def timeOf (s : List Char) : Making Value :=
  match readTime? s with
  | none => faulty (.attribute "NoneType" "groupdict")
  | some t =>
    match t.clock with
    | none => do
      pure (.date (← dateOf (numberOf t.year) (numberOf t.month) (numberOf t.day)))
    | some (hour, minute, second) => momentOf t (numberOf hour) (numberOf minute) (numberOf second)

/-! ### Bytes -/

/-- The value of a digit of base sixty-four. -/
def digit64? (c : Char) : Option Nat :=
  if 'A' ≤ c && c ≤ 'Z' then some (c.toNat - 0x41)
  else if 'a' ≤ c && c ≤ 'z' then some (c.toNat - 0x61 + 26)
  else if c.isDigit then some (c.toNat - 0x30 + 52)
  else if c = '+' then some 62
  else if c = '/' then some 63
  else none

/-- The bytes of digits of base sixty-four. `place` says how many digits of the present group have been
    read, `left` are the bits that are left of them, and `pads` counts the fillers behind them. Other
    characters are passed over. -/
def bytes64 (place left pads : Nat) : List Char → Option (List UInt8)
  | [] => if place = 0 then some [] else none
  | '=' :: rest =>
    if 2 ≤ place then
      if 4 ≤ place + pads + 1 then some [] else bytes64 place left (pads + 1) rest
    else bytes64 place left pads rest
  | c :: rest =>
    match digit64? c with
    | none => bytes64 place left pads rest
    | some d =>
      match place with
      | 0 => bytes64 1 d 0 rest
      | 1 => (bytes64 2 (d % 16) 0 rest).map (UInt8.ofNat (left * 4 + d / 16) :: ·)
      | 2 => (bytes64 3 (d % 4) 0 rest).map (UInt8.ofNat (left * 16 + d / 4) :: ·)
      | _ => (bytes64 0 0 0 rest).map (UInt8.ofNat (left * 64 + d) :: ·)

/-- The bytes that a scalar stands for. -/
def binaryOf (s : List Char) : Making Value :=
  if s.any (fun c => 0x80 ≤ c.toNat) then malformed .binary
  else match bytes64 0 0 0 s with
    | some bytes => .ok (.bytes bytes)
    | none => malformed .binary

/-! ### Scalars -/

/-- The words for truth values by their lower case. -/
def truthWords : List (String × Bool) := [("yes", true), ("no", false), ("true", true),
  ("false", false), ("on", true), ("off", false)]

/-- The truth value that a scalar is. -/
def boolOf (s : List Char) : Making Value :=
  let word := String.ofList (Text.lower s)
  match truthWords.lookup word with
  | some b => .ok (.bool b)
  | none => faulty (.key word)

/-- The tag that is written in front of a node. -/
def Node.writtenTag : Node → Option String
  | .scalar tag _ _ => tag
  | .sequence tag _ => tag
  | .mapping tag _ => tag

/-- The tag of a node, written or found from its form. -/
def Node.tag : Node → String
  | .scalar (some tag) _ _ => tag
  | .scalar none text isPlain => (if isPlain then plainKind text.toList else .str).tag
  | .sequence tag _ => tag.getD (tagStart ++ "seq")
  | .mapping tag _ => tag.getD (tagStart ++ "map")

/-- The node with another tag. -/
def Node.withTag (tag : String) : Node → Node
  | .scalar _ text _ => .scalar (some tag) text false
  | .sequence _ items => .sequence (some tag) items
  | .mapping _ entries => .mapping (some tag) entries

/-- The node holds a text of its own. -/
def Node.isScalar : Node → Bool
  | .scalar _ _ _ => true
  | _ => false

/-- The tag for bytes. -/
def binaryTag : String := tagStart ++ "binary"

/-- The tags whose values are made out of a text. -/
def isScalarTag (tag : String) : Bool :=
  ([Kind.null, .bool, .int, .float, .timestamp, .str].map Kind.tag).contains tag || tag = binaryTag

/-- The value that a text has by a tag. -/
def textValue (tag : String) (text : String) : Making Value :=
  let s := text.toList
  if tag = Kind.null.tag then .ok .null
  else if tag = Kind.bool.tag then boolOf s
  else if tag = Kind.int.tag then intOf s
  else if tag = Kind.float.tag then floatOf s
  else if tag = binaryTag then binaryOf s
  else if tag = Kind.timestamp.tag then timeOf s
  else .ok (.str text)

/-- The value of a node by its tag and its text. A day or moment has to be a scalar. -/
def valueByTag (tag : String) (isScalar : Bool) (text : String) : Making Value :=
  if tag = Kind.timestamp.tag && !isScalar then faulty (.type (.notPattern "list"))
  else textValue tag text

/-- The node at a place. -/
def nodeAt (nodes : List Node) (place : Nat) : Node := nodes[place]?.getD .empty

/-- The tag of the node at a place. -/
def tagAt (nodes : List Node) (place : Nat) : String := (nodeAt nodes place).tag

/-- The key of an entry is of a kind. -/
def isKeyed (nodes : List Node) (kind : Kind) (entry : Nat × Nat) : Bool :=
  tagAt nodes entry.1 = kind.tag

/-- The text of the node at a place: that of a scalar, or of the first entry of a mapping whose key is an
    equals sign. `fuel` bounds the entries that lead to it, and one that leads back to itself has none. -/
def textOf (nodes : List Node) (fuel place : Nat) : Making (Option String) :=
  match nodeAt nodes place with
  | .scalar _ text _ => .ok (some text)
  | .sequence _ _ => .ok none
  | .mapping _ entries =>
    match entries.find? (isKeyed nodes .value) with
    | none => .ok none
    | some entry =>
      match fuel with
      | 0 => faulty (.arithmetic .depthTooLarge)
      | fuel + 1 => textOf nodes fuel entry.2

/-- The value of the node at a place, which holds a text by its tag. -/
def scalarValue (nodes : List Node) (place : Nat) : Making Value := do
  let node := nodeAt nodes place
  if isScalarTag node.tag then
    match ← textOf nodes nodes.length place with
    | none => malformed (.kind node.tag)
    | some text => valueByTag node.tag node.isScalar text
  else malformed (.unknownTag node.tag)

end LayeredFiles.Yaml
