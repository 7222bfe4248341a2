import LayeredFiles.Value.Basic
/-
Module: LayeredFiles.Value.Order
Layer: Value
Purpose: equality and order of values, and dictionaries as entries in insertion order. Numbers are
  compared by value whatever their kind, texts whether safe or not, dictionaries without regard to the
  order of their entries.
Main exports: Value.equals, Value.compare?, Entries.get?, Entries.set, Entries.update
-/

namespace LayeredFiles

open Number

namespace Value

/-- A number as a value of one of two kinds. -/
inductive Numeral where
  | whole (i : Int)
  | real (x : Binary64)
deriving DecidableEq, Repr

/-- The number that a value is; truth values count as one and zero. -/
def numeral? : Value → Option Numeral
  | .int i => some (.whole i)
  | .bool b => some (.whole (if b then 1 else 0))
  | .float x => some (.real x)
  | _ => none

/-- The order of two numbers; none if one of them is not a number. -/
def Numeral.compare? : Numeral → Numeral → Option Ordering
  | .whole i, .whole j => some (compare i j)
  | .whole i, .real y => Binary64.compareInt? i y
  | .real x, .whole j => (Binary64.compareInt? j x).map Ordering.swap
  | .real x, .real y => Binary64.compare? x y

/-- Equality of two numbers. -/
def Numeral.equals (a b : Numeral) : Bool := a.compare? b = some .eq

/-- The order of two days. -/
def dateKey (d : Date) : Nat := (d.year * 12 + d.month) * 31 + d.day

/-- The number of days before a year of the Gregorian calendar. -/
def daysBeforeYear (year : Nat) : Nat :=
  let y := year - 1
  y * 365 + y / 4 - y / 100 + y / 400

/-- A year with a 29th of February. -/
def isLeapYear (year : Nat) : Bool := year % 4 = 0 && (year % 100 ≠ 0 || year % 400 = 0)

/-- The number of days in a month. -/
def daysInMonth (year month : Nat) : Nat :=
  if month = 2 then (if isLeapYear year then 29 else 28)
  else if [4, 6, 9, 11].contains month then 30 else 31

/-- The number of days up to a day, the first day of the year one being the first. -/
def dayNumber (d : Date) : Nat :=
  daysBeforeYear d.year + ((List.range d.month).drop 1).foldl (fun n m => n + daysInMonth d.year m) 0 +
    d.day

/-- The moment of a day and time in microseconds; a known clock is put back to universal time. -/
def momentKey (t : DateTime) : Int :=
  let seconds : Int := ((dayNumber t.date * 24 + t.hour) * 60 + t.minute) * 60 + t.second
  (seconds - t.offset.getD 0) * 1000000 + t.microsecond

/-- Whether two values are equal. -/
def equals : Value → Value → Bool
  | .null, .null => true
  | .str s, .str t => s == t
  | .str s, .safe t => s == t
  | .safe s, .str t => s == t
  | .safe s, .safe t => s == t
  | .bytes a, .bytes b => a == b
  | .date a, .date b => a == b
  | .datetime a, .datetime b =>
    a.offset.isSome == b.offset.isSome && momentKey a == momentKey b
  | .list as, .list bs => equalsAll as bs
  | .tuple as, .tuple bs => equalsAll as bs
  | .dict as, .dict bs => as.length == bs.length && entriesWithin as bs
  | .view k as, .view l bs => k == l && as.length == bs.length && entriesWithin as bs
  | .missing a, .missing b => a.isStrict == b.isStrict
  | .method a m, .method b n => m == n && a.equals b
  | .loop i n, .loop j m => i == j && n == m
  | .int i, b => numeralEquals (.whole i) b
  | .bool a, b => numeralEquals (.whole (if a then 1 else 0)) b
  | .float x, b => numeralEquals (.real x) b
  | _, _ => false
where
  /-- A number equals a value that is the same number. -/
  numeralEquals (a : Numeral) (b : Value) : Bool :=
    match b.numeral? with
    | some n => a.equals n
    | none => false
  /-- Two lists are equal item by item. -/
  equalsAll : List Value → List Value → Bool
    | [], [] => true
    | a :: as, b :: bs => a.equals b && equalsAll as bs
    | _, _ => false
  /-- Every entry of the first dictionary has an equal one in the second. -/
  entriesWithin : List (Value × Value) → List (Value × Value) → Bool
    | [], _ => true
    | (key, v) :: rest, others =>
      others.any (fun e => key.equals e.1 && v.equals e.2) && entriesWithin rest others

/-- The order of two values, or the types of the values that have none between them. Two numbers one
    of which is no number have no order either, and that is no fault. -/
def compare? : Value → Value → Except (String × String) (Option Ordering)
  | .date a, .date b => .ok (some (compare (dateKey a) (dateKey b)))
  | .datetime a, .datetime b =>
    if a.offset.isSome == b.offset.isSome then .ok (some (compare (momentKey a) (momentKey b)))
    else .error ("datetime.datetime", "datetime.datetime")
  | .bytes a, .bytes b => .ok (some (compare (a.map UInt8.toNat) (b.map UInt8.toNat)))
  | .list as, .list bs => compareAll as bs
  | .tuple as, .tuple bs => compareAll as bs
  | a, b =>
    match a.text?, b.text? with
    | some s, some t => .ok (some (compare s t))
    | _, _ =>
      match a.numeral?, b.numeral? with
      | some m, some n => .ok (m.compare? n)
      | _, _ => .error (a.typeName, b.typeName)
where
  /-- The first items that differ decide; of two lists that agree the shorter comes first. -/
  compareAll : List Value → List Value → Except (String × String) (Option Ordering)
    | [], [] => .ok (some .eq)
    | [], _ :: _ => .ok (some .lt)
    | _ :: _, [] => .ok (some .gt)
    | a :: as, b :: bs => if a.equals b then compareAll as bs else a.compare? b

/-- One of some values equals the given one. -/
def isAmong (v : Value) (items : List Value) : Bool := items.any (fun item => item.equals v)

end Value

namespace Entries

/-- The value of a key. -/
def get? (entries : Entries) (key : Value) : Option Value :=
  (entries.find? (fun e => e.1.equals key)).map Prod.snd

/-- The value of a key that is a text. -/
def find? (entries : Entries) (key : String) : Option Value := entries.get? (.str key)

/-- Binds a key. A key that is present keeps its place; a new one comes last. -/
def set (entries : Entries) (key v : Value) : Entries :=
  match entries with
  | [] => [(key, v)]
  | e :: rest => if e.1.equals key then (e.1, v) :: rest else e :: Entries.set rest key v

/-- Binds the keys of other entries in their order. -/
def update (entries others : Entries) : Entries := others.foldl (fun es e => set es e.1 e.2) entries

/-- Entries bound one after another. -/
def ofList (pairs : List (Value × Value)) : Entries := update [] pairs

end Entries

example : (Value.int 1).equals (.bool true) = true ∧
    (Value.list [.float (.ofNat 2)]).equals (.list [.int 2]) = true := by decide +kernel

end LayeredFiles
