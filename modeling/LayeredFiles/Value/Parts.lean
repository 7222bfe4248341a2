import LayeredFiles.Value.Compute
/-
Module: LayeredFiles.Value.Parts
Layer: Value
Purpose: the parts of a value. Sequences and texts have items by place, counted from the front or from
  the end, and ranges of items; dictionaries have values by key; and every value has the operations of
  its type by name. A part that is asked for and not found is a missing value.
Main exports: Value.items, Value.size, Value.part, Value.item, Value.sliced, Value.slicedByName
-/

namespace LayeredFiles

namespace Value

/-- A character as a text. -/
def ofChar (c : Char) : Value := .str c.toString

/-- A byte as a number. -/
def ofByte (b : UInt8) : Value := .int b.toNat

/-- What a view of a dictionary shows, item by item. -/
def viewItems : ViewKind → List (Value × Value) → List Value
  | .keys, entries => entries.map Prod.fst
  | .items, entries => entries.map (fun e => .tuple [e.1, e.2])

/-- The items of a value, one after another. -/
def items (v : Value) : Except Fault (List Value) :=
  match v with
  | .str s => .ok (s.toList.map ofChar)
  | .safe s => .ok (s.toList.map ofChar)
  | .bytes content => .ok (content.map ofByte)
  | .list items => .ok items
  | .tuple items => .ok items
  | .dict entries => .ok (entries.map Prod.fst)
  | .view kind entries => .ok (viewItems kind entries)
  | .missing m => if m.isStrict then .error (.missing m) else .ok []
  | v => .error (.type (.notIterable v.typeName))

/-- The number of items of a value. -/
def size (v : Value) : Except Fault Nat :=
  match v with
  | .str s => .ok s.length
  | .safe s => .ok s.length
  | .bytes content => .ok content.length
  | .list items => .ok items.length
  | .tuple items => .ok items.length
  | .dict entries => .ok entries.length
  | .view _ entries => .ok entries.length
  | .loop _ length => .ok length
  | .missing m => if m.isStrict then .error (.missing m) else .ok 0
  | v => .error (.type (.noLength v.typeName))

/-! ### Parts by name -/

/-- The operations of texts. -/
def textOperations : List String :=
  ["capitalize", "casefold", "center", "count", "encode", "endswith", "expandtabs", "find", "format",
    "format_map", "index", "isalnum", "isalpha", "isascii", "isdecimal", "isdigit", "isidentifier",
    "islower", "isnumeric", "isprintable", "isspace", "istitle", "isupper", "join", "ljust", "lower",
    "lstrip", "maketrans", "partition", "removeprefix", "removesuffix", "replace", "rfind", "rindex",
    "rjust", "rpartition", "rsplit", "rstrip", "split", "splitlines", "startswith", "strip",
    "swapcase", "title", "translate", "upper", "zfill"]

/-- The names of the operations of a value. -/
def operationNames : Value → List String
  | .str _ => textOperations
  | .safe _ => textOperations ++ ["escape", "striptags", "unescape"]
  | .list _ =>
    ["append", "clear", "copy", "count", "extend", "index", "insert", "pop", "remove", "reverse",
      "sort"]
  | .tuple _ => ["count", "index"]
  | .dict _ =>
    ["clear", "copy", "fromkeys", "get", "items", "keys", "pop", "popitem", "setdefault", "update",
      "values"]
  | .int _ => ["as_integer_ratio", "bit_count", "bit_length", "conjugate", "from_bytes", "to_bytes"]
  | .bool _ => ["as_integer_ratio", "bit_count", "bit_length", "conjugate", "from_bytes", "to_bytes"]
  | .float _ => ["as_integer_ratio", "conjugate", "fromhex", "hex", "is_integer"]
  | .date _ =>
    ["ctime", "fromisocalendar", "fromisoformat", "fromordinal", "fromtimestamp", "isocalendar",
      "isoformat", "isoweekday", "replace", "strftime", "timetuple", "today", "toordinal", "weekday"]
  | .datetime _ =>
    ["astimezone", "combine", "ctime", "date", "dst", "fromisocalendar", "fromisoformat",
      "fromordinal", "fromtimestamp", "isocalendar", "isoformat", "isoweekday", "now", "replace",
      "strftime", "strptime", "time", "timestamp", "timetuple", "timetz", "today", "toordinal",
      "tzname", "utcfromtimestamp", "utcnow", "utcoffset", "utctimetuple", "weekday"]
  | _ => []

/-- A part of a day. -/
def datePart? (d : Date) (name : String) : Option Value :=
  if name = "year" then some (.int d.year)
  else if name = "month" then some (.int d.month)
  else if name = "day" then some (.int d.day)
  else none

/-- A part of a time of day. -/
def timePart? (t : DateTime) (name : String) : Option Value :=
  if name = "hour" then some (.int t.hour)
  else if name = "minute" then some (.int t.minute)
  else if name = "second" then some (.int t.second)
  else if name = "microsecond" then some (.int t.microsecond)
  else none

/-- A part of the state of a loop. -/
def loopPart? (index length : Nat) (name : String) : Option Value :=
  if name = "index" then some (.int (index + 1))
  else if name = "index0" then some (.int index)
  else if name = "first" then some (.bool (index = 0))
  else if name = "last" then some (.bool (index + 1 = length))
  else if name = "length" then some (.int length)
  else if name = "revindex" then some (.int (length - index))
  else if name = "revindex0" then some (.int (length - index - 1))
  else none

/-- The part that a value has by its type. -/
def ownPart? (v : Value) (name : String) : Option Value :=
  let number (i : Int) : Option Value :=
    if name = "real" || name = "numerator" then some (.int i)
    else if name = "imag" then some (.int 0)
    else if name = "denominator" then some (.int 1)
    else none
  let known := match v with
    | .int i => number i
    | .bool b => number (if b then 1 else 0)
    | .float x =>
      if name = "real" then some (.float x)
      else if name = "imag" then some (.float (.zero false))
      else none
    | .date d => datePart? d name
    | .datetime t => (datePart? t.date name).or (timePart? t name)
    | .loop index length => loopPart? index length name
    | _ => none
  known.or (if v.operationNames.contains name then some (.method v name) else none)

/-- The value of a key. -/
def entry? (v key : Value) : Option Value :=
  match v with
  | .dict entries => Entries.get? entries key
  | _ => none

/-- The part of a value by name: what its type gives comes before the entries of a dictionary. -/
def part (v : Value) (name : String) : Except Fault Value :=
  match v with
  | .missing m => .error (.missing m)
  | v =>
    match (v.ownPart? name).or (v.entry? (.str name)) with
    | some found => .ok found
    | none => .ok (.missing (.attribute v.ownerName name))

/-! ### Parts by place -/

/-- The item at a place, counted from the end if it is negative. -/
def at? {α : Type} (items : List α) (place : Int) : Option α :=
  if place < 0 then
    if place + items.length < 0 then none else items[(place + items.length).toNat]?
  else items[place.toNat]?

/-- The item of a sequence at a place. -/
def itemAt? (v : Value) (place : Int) : Option Value :=
  match v with
  | .str s => (at? s.toList place).map ofChar
  | .safe s => (at? s.toList place).map (fun c => .safe c.toString)
  | .bytes content => (at? content place).map ofByte
  | .list items => at? items place
  | .tuple items => at? items place
  | _ => none

/-- The element of a value by key: what the value holds comes before what its type gives. -/
def item (v key : Value) : Except Fault Value :=
  let byType : Except Fault Value :=
    match key.text? with
    | some name =>
      match v.ownPart? name with
      | some found => .ok found
      | none => .ok (.missing (.attribute v.ownerName name))
    | none => .ok (.missing (.element v.ownerName key.quoted))
  match v with
  | .missing m => .error (.missing m)
  | .dict entries => do
    key.askable
    match Entries.get? entries key with
    | some found => .ok found
    | none => byType
  | v =>
    match key.int?.bind v.itemAt? with
    | some found => .ok found
    | none => byType

/-! ### Ranges -/

/-- A place as a bound of a range over so many items, kept inside them. -/
def boundOf (length : Nat) (isBackward : Bool) (place : Int) : Int :=
  let low : Int := if isBackward then -1 else 0
  let high : Int := if isBackward then (length : Int) - 1 else length
  let place := if place < 0 then place + length else place
  max low (min high place)

/-- The items from one place, in steps, as long as they lie before the other one. `fuel` bounds their
    number. -/
def stepFrom {α : Type} (items : List α) (stop step : Int) : Nat → Int → List α
  | 0, _ => []
  | fuel + 1, place =>
    if (0 < step && place < stop) || (step < 0 && stop < place) then
      (items[place.toNat]?).toList ++ stepFrom items stop step fuel (place + step)
    else []

/-- The items of a range. -/
def rangeOf {α : Type} (start stop : Option Int) (step : Int) (items : List α) : List α :=
  let isBackward : Bool := step < 0
  let n := items.length
  let first := match start with
    | some place => boundOf n isBackward place
    | none => if isBackward then (n : Int) - 1 else 0
  let last := match stop with
    | some place => boundOf n isBackward place
    | none => if isBackward then -1 else (n : Int)
  stepFrom items last step (n + 1) first

/-- A bound of a range: a whole number or nothing. -/
def bound (v : Value) : Except Fault (Option Int) :=
  match v with
  | .null => .ok none
  | v =>
    match v.int? with
    | some i => .ok (some i)
    | none => .error (.type .sliceBounds)

/-- A range of the items of a value. -/
def sliced (v start stop step : Value) : Except Fault Value := do
  let range {α : Type} (items : List α) : Except Fault (List α) := do
    let by_ ← step.bound
    if by_ = some 0 then .error (.value .zeroStep)
    else pure (rangeOf (← start.bound) (← stop.bound) (by_.getD 1) items)
  match v with
  | .missing m => .error (.missing m)
  | .str s => pure (.str (String.ofList (← range s.toList)))
  | .safe s => pure (.safe (String.ofList (← range s.toList)))
  | .bytes content => pure (.bytes (← range content))
  | .list items => pure (.list (← range items))
  | .tuple items => pure (.tuple (← range items))
  | .dict _ => .error (.type (.notHashable "slice"))
  | v => .error (.type (.notSubscriptable v.typeName))

/-- A range as the key that names it. -/
def rangeName (start stop step : Value) : String :=
  "slice(" ++ ", ".intercalate [start.quoted, stop.quoted, step.quoted] ++ ")"

/-- A range of the items of a value that is known beforehand; a range that the value does not have is
    a missing element. -/
def slicedByName (v start stop step : Value) : Except Fault Value :=
  match v.sliced start stop step with
  | .error (.type _) => .ok (.missing (.element v.ownerName (rangeName start stop step)))
  | result => result

example : rangeOf (some 1) (some 3) 1 [0, 1, 2, 3] = [1, 2] ∧
    rangeOf none none (-1) [0, 1, 2] = [2, 1, 0] ∧ rangeOf (some (-2)) none 1 [0, 1, 2] = [1, 2] := by
  decide

end Value

end LayeredFiles
