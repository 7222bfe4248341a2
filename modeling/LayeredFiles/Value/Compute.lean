import LayeredFiles.Text.Split
import LayeredFiles.Value.Format
/-
Module: LayeredFiles.Value.Compute
Layer: Value
Purpose: computing with values. Truth values count as whole numbers; a whole number meets a
  floating-point number as one of its kind. Texts and sequences are joined and repeated, and a safe text
  makes the texts it is joined with safe. A missing value takes part in nothing.
Main exports: Value.truth, Value.add, Value.subtract, Value.multiply, Value.divide, Value.floorDivide,
  Value.remainder, Value.power, Value.negate, Value.keep, Value.isEqual, Value.isOrdered, Value.contains
-/

namespace LayeredFiles

open Number

namespace Value

/-- Whether a condition on the value holds; a condition on a missing name cannot be asked. -/
def truth (v : Value) : Except Fault Bool :=
  match v with
  | .missing m => if m.isStrict then .error (.missing m) else .ok false
  | v => .ok v.isTrue

/-- A safe text. -/
def isSafe : Value → Bool
  | .safe _ => true
  | _ => false

/-- The text of a safe text, or the escaped text of another one. -/
def escapedText : Value → String
  | .safe s => s
  | v => Text.escape v.display

/-- The floating-point number nearest to a number. -/
def Numeral.toReal : Numeral → Except Fault Binary64
  | .real x => .ok x
  | .whole i =>
    match Binary64.ofInt? i with
    | some x => .ok x
    | none => .error (.arithmetic .intTooLarge)

/-- The value of a number. -/
def Numeral.value : Numeral → Value
  | .whole i => .int i
  | .real x => .float x

/-- An operation on two numbers: one for whole numbers, one for all others. -/
def Numeral.combine (whole : Int → Int → Except Fault Value)
    (real : Binary64 → Binary64 → Except Fault Value) : Numeral → Numeral → Except Fault Value
  | .whole i, .whole j => whole i j
  | a, b => do
    let x ← a.toReal
    let y ← b.toReal
    real x y

/-- An operation on values that is defined for numbers only. A missing operand is the first thing that
    counts. -/
def combine (symbol : String) (whole : Int → Int → Except Fault Value)
    (real : Binary64 → Binary64 → Except Fault Value) (a b : Value) : Except Fault Value :=
  match a, b with
  | .missing m, _ => .error (.missing m)
  | _, .missing m => .error (.missing m)
  | a, b =>
    match a.numeral?, b.numeral? with
    | some x, some y => Numeral.combine whole real x y
    | _, _ => .error (.type (.operands symbol a.typeName b.typeName))

/-- Two texts or two sequences of one kind joined; the sum of two numbers. -/
def add (a b : Value) : Except Fault Value :=
  let numbers := combine "+" (fun i j => .ok (.int (i + j))) (fun x y => .ok (.float (x.add y)))
  match a, b with
  | .missing m, _ => .error (.missing m)
  | _, .missing m => .error (.missing m)
  | .str s, .str t => .ok (.str (s ++ t))
  | .safe s, .safe t => .ok (.safe (s ++ t))
  | .safe s, .str t => .ok (.safe (s ++ Text.escape t))
  | .str s, .safe t => .ok (.safe (Text.escape s ++ t))
  | .list as, .list bs => .ok (.list (as ++ bs))
  | .tuple as, .tuple bs => .ok (.tuple (as ++ bs))
  | .bytes as, .bytes bs => .ok (.bytes (as ++ bs))
  | .str _, b => .error (.type (.notConcatenable "str" b.typeName))
  | .list _, b => .error (.type (.notConcatenable "list" b.typeName))
  | .tuple _, b => .error (.type (.notConcatenable "tuple" b.typeName))
  | a, b => numbers a b

/-- The difference of two numbers. -/
def subtract : Value → Value → Except Fault Value :=
  combine "-" (fun i j => .ok (.int (i - j))) (fun x y => .ok (.float (x.sub y)))

/-- A text or a sequence, which can be repeated. -/
def isSequence : Value → Bool
  | .str _ => true
  | .safe _ => true
  | .bytes _ => true
  | .list _ => true
  | .tuple _ => true
  | _ => false

/-- The items of a list so many times over. -/
def repeated {α : Type} (items : List α) (n : Nat) : List α := (List.replicate n items).flatten

/-- A text or a sequence so many times over; none for a negative number. -/
def repeatSequence (v : Value) (count : Int) : Except Fault Value :=
  if Nat.pow 2 63 ≤ count.natAbs then .error (.arithmetic .countTooLarge)
  else
    let n := count.toNat
    match v with
    | .str s => .ok (.str (String.ofList (repeated s.toList n)))
    | .safe s => .ok (.safe (String.ofList (repeated s.toList n)))
    | .bytes content => .ok (.bytes (repeated content n))
    | .list items => .ok (.list (repeated items n))
    | .tuple items => .ok (.tuple (repeated items n))
    | v => .error (.type (.operands "*" v.typeName "int"))

/-- The product of two numbers, or a text or sequence repeated. -/
def multiply (a b : Value) : Except Fault Value :=
  let sequence (v count : Value) : Except Fault Value :=
    match count.int? with
    | some i => repeatSequence v i
    | none =>
      .error (.type (if v.isSafe then .notInteger count.typeName else .notRepeatable count.typeName))
  match a, b with
  | .missing m, _ => .error (.missing m)
  | _, .missing m => .error (.missing m)
  | a, b =>
    if a.isSafe then sequence a b
    else if b.isSafe then sequence b a
    else if a.isSequence then sequence a b
    else if b.isSequence then sequence b a
    else combine "*" (fun i j => .ok (.int (i * j))) (fun x y => .ok (.float (x.mul y))) a b

/-- The quotient of two numbers, which is never whole. -/
def divide : Value → Value → Except Fault Value :=
  combine "/"
    (fun i j =>
      if j = 0 then .error (.arithmetic .trueDivision)
      else
        let x := Binary64.ofRatio ((i < 0) != (j < 0)) i.natAbs j.natAbs
        if x.isInfinite then .error (.arithmetic .quotientTooLarge)
        else .ok (.float x))
    (fun x y =>
      if y.isZero then .error (.arithmetic .realDivision) else .ok (.float (x.div y)))

/-- The quotient of two numbers rounded down. -/
def floorDivide : Value → Value → Except Fault Value :=
  combine "//"
    (fun i j => if j = 0 then .error (.arithmetic .wholeDivision) else .ok (.int (i.fdiv j)))
    (fun x y =>
      if y.isZero then .error (.arithmetic .realFloorDivision) else .ok (.float (x.floorDiv y)))

/-- What is left of a division that rounds down. -/
def wholeRemainder : Value → Value → Except Fault Value :=
  combine "%"
    (fun i j => if j = 0 then .error (.arithmetic .wholeRest) else .ok (.int (i.fmod j)))
    (fun x y => if y.isZero then .error (.arithmetic .realRest) else .ok (.float (x.modulo y)))

/-- What is left of a division; a text instead takes in values at its marks. -/
def remainder (a b : Value) : Except Fault Value :=
  match a with
  | .str s => (formatted s false b).map .str
  | .safe s => (formatted s true b).map .safe
  | a => wholeRemainder a b

/-- The power of two floating-point numbers. -/
def realPower (x y : Binary64) : Except Fault Value :=
  if x.isZero && y.isNegative && !y.isZero && !y.isNaN then .error (.arithmetic .zeroPower)
  else
    let z := x.power y
    if z.isInfinite && x.isFinite && y.isFinite then .error (.arithmetic .powerTooLarge)
    else .ok (.float z)

/-- The power of two numbers; a negative exponent leaves the whole numbers. -/
def power : Value → Value → Except Fault Value :=
  combine "** or pow()"
    (fun i j =>
      if 0 ≤ j then .ok (.int (Int.pow i j.toNat))
      else do
        let x ← (Numeral.whole i).toReal
        let y ← (Numeral.whole j).toReal
        realPower x y)
    realPower

/-- A number with the other sign. -/
def negate (v : Value) : Except Fault Value :=
  match v with
  | .missing m => .error (.missing m)
  | v =>
    match v.numeral? with
    | some (.whole i) => .ok (.int (-i))
    | some (.real x) => .ok (.float x.neg)
    | none => .error (.type (.operand "-" v.typeName))

/-- A number with a plus in front: itself. -/
def keep (v : Value) : Except Fault Value :=
  match v with
  | .missing m => .error (.missing m)
  | v =>
    match v.numeral? with
    | some n => .ok n.value
    | none => .error (.type (.operand "+" v.typeName))

/-! ### Comparing -/

/-- Refuses a missing name. -/
def askable (v : Value) : Except Fault Unit :=
  match v with
  | .missing m => if m.isStrict then .error (.missing m) else .ok ()
  | _ => .ok ()

/-- Whether two values are equal; a missing name is not to be compared. -/
def isEqual (a b : Value) : Except Fault Bool := do
  a.askable
  b.askable
  pure (a.equals b)

/-- Whether the order of two values is one of those wanted. -/
def isOrdered (symbol : String) (wanted : Ordering → Bool) (a b : Value) : Except Fault Bool :=
  match a, b with
  | .missing m, _ => .error (.missing m)
  | _, .missing m => .error (.missing m)
  | .date _, .datetime _ => .error (.type (.notComparable "datetime.datetime" "datetime.date"))
  | .datetime _, .date _ => .error (.type (.notComparable "datetime.datetime" "datetime.date"))
  | a, b =>
    match a.compare? b with
    | .ok order => .ok (order.any wanted)
    | .error ("datetime.datetime", "datetime.datetime") => .error (.type .clocks)
    | .error (left, right) => .error (.type (.order symbol left right))

/-- The type of the innermost part that keeps a value from being a key. -/
def unhashable? : Value → Option String
  | .tuple items => unhashableIn items
  | v => if v.isHashable then none else some v.typeName
where
  /-- The first of some values that cannot be a key. -/
  unhashableIn : List Value → Option String
    | [] => none
    | v :: rest =>
      match unhashable? v with
      | some t => some t
      | none => unhashableIn rest

/-- A value as a key. -/
def asKey (v : Value) : Except Fault Value :=
  match v with
  | .missing m => if m.isStrict then .error (.missing m) else .ok v
  | v =>
    match v.unhashable? with
    | some t => .error (.type (.notHashable t))
    | none => .ok v

/-- Whether a list holds a value. -/
def isHeldBy (v : Value) : List Value → Except Fault Bool
  | [] => .ok false
  | item :: rest =>
    match v.isEqual item with
    | .error fault => .error fault
    | .ok true => .ok true
    | .ok false => isHeldBy v rest

/-- Whether a value is part of another one: a text inside a text, an item of a sequence or a key of a
    dictionary. -/
def contains (whole v : Value) : Except Fault Bool :=
  let inText (s : String) : Except Fault Bool :=
    match v.text? with
    | some part => .ok (Text.cutAt? part.toList s.toList).isSome
    | none => .error (.type (.notSearchable v.typeName))
  match whole with
  | .missing m => if m.isStrict then .error (.missing m) else .ok false
  | .str s => inText s
  | .safe s => inText s
  | .list items => v.isHeldBy items
  | .tuple items => v.isHeldBy items
  | .dict entries => v.asKey.map (fun key => (Entries.get? entries key).isSome)
  | .view .keys entries => v.asKey.map (fun key => (Entries.get? entries key).isSome)
  | .view .items entries =>
    match v with
    | .tuple [key, item] =>
      key.asKey.map (fun key => (Entries.get? entries key).any (fun found => found.equals item))
    | _ => .ok false
  | whole => .error (.type (.notContainer whole.typeName))

example : (add (.safe "<i>") (.str "<b>")).toOption.map display = some "<i>&lt;b&gt;" := by
  decide +kernel

example : (floorDivide (.int (-7)) (.int 2)).toOption.map display = some "-4" := by decide +kernel

end Value

end LayeredFiles
