/-
Module: LayeredFiles.Number.Binary64
Layer: Number
Purpose: binary floating-point numbers of 64 bits in exact arithmetic. The non-negative numbers are
  counted in ascending order: the number of rank `r` is the `r`-th of them, so neighbours in rank are
  neighbours in value and the order of ranks is the order of values. Every finite number is a whole
  multiple of the smallest positive one, its unit count; each operation takes the exact quotient of
  unit counts and rounds it once.
Main exports: Binary64, units, nearestRank, Binary64.ofRatio, Binary64.add, Binary64.mul,
  Binary64.div, Binary64.floorDiv, Binary64.modulo, Binary64.compare?
-/

namespace LayeredFiles.Number

/-- The rank of infinity: 2047 binades of 2^52 numbers each lie below it. -/
def infinityRank : Nat := 2047 * Nat.pow 2 52

/-- A number of 64 bits: a sign and a rank, or no number at all. -/
inductive Binary64 where
  | nan
  | number (negative : Bool) (rank : Fin (infinityRank + 1))
deriving DecidableEq, Repr

/-- How many times the smallest positive number the number of a rank is. The formula goes on beyond
    the finite ranks, so infinity stands where the next binade would begin. -/
def units (rank : Nat) : Nat :=
  if rank < Nat.pow 2 52 then rank
  else (Nat.pow 2 52 + rank % Nat.pow 2 52) * Nat.pow 2 (rank / Nat.pow 2 52 - 1)

/-- The units in one. -/
def unitsOfOne : Nat := Nat.pow 2 1074

/-- The rank that is nearest to `num / den` units; a tie goes to the even rank, and everything beyond
    the finite numbers becomes infinite. -/
def nearestRank (num den : Nat) : Fin (infinityRank + 1) :=
  let floor := num / den
  let shift := floor.log2 - 52
  let grain := den * Nat.pow 2 shift
  let rank := shift * Nat.pow 2 52 + num / grain
  let rest := 2 * (num % grain)
  let rounded := if grain < rest || (rest = grain && rank % 2 = 1) then rank + 1 else rank
  ⟨min rounded infinityRank, Nat.lt_succ_of_le (Nat.min_le_right _ _)⟩

namespace Binary64

/-- The number nearest to `num / den`. -/
def ofRatio (negative : Bool) (num den : Nat) : Binary64 :=
  .number negative (nearestRank (num * unitsOfOne) den)

def zero (negative : Bool) : Binary64 := .number negative ⟨0, Nat.succ_pos _⟩

def infinity (negative : Bool) : Binary64 := .number negative (Fin.last infinityRank)

/-- The number nearest to a whole number, if it is finite. -/
def ofInt? (i : Int) : Option Binary64 :=
  match ofRatio (i < 0) i.natAbs 1 with
  | .number negative rank => if rank.val = infinityRank then none else some (.number negative rank)
  | .nan => none

/-- The number nearest to a natural number. -/
def ofNat (n : Nat) : Binary64 := ofRatio false n 1

def isNaN : Binary64 → Bool
  | .nan => true
  | _ => false

def isInfinite : Binary64 → Bool
  | .number _ rank => rank.val = infinityRank
  | .nan => false

def isFinite (x : Binary64) : Bool := !x.isNaN && !x.isInfinite

def isZero : Binary64 → Bool
  | .number _ rank => rank.val = 0
  | .nan => false

/-- The sign; a value that is not a number has none. -/
def isNegative : Binary64 → Bool
  | .number negative _ => negative
  | .nan => false

/-- The signed unit count; zero for what has none. -/
def signedUnits : Binary64 → Int
  | .number negative rank => if negative then -(units rank : Int) else units rank
  | .nan => 0

def neg : Binary64 → Binary64
  | .number negative rank => .number (!negative) rank
  | .nan => .nan

def abs : Binary64 → Binary64
  | .number _ rank => .number false rank
  | .nan => .nan

/-- The number nearest to `num / den` units; an exact zero takes the given sign. -/
def ofUnits (num : Int) (den : Nat) (zeroSign : Bool) : Binary64 :=
  .number (if num = 0 then zeroSign else num < 0) (nearestRank num.natAbs den)

/-- Infinities of opposite sign have no sum; zeros add up to a negative zero only if both are
    negative. -/
def add (x y : Binary64) : Binary64 :=
  match x, y with
  | .nan, _ => .nan
  | _, .nan => .nan
  | x, y =>
    if x.isInfinite then
      if y.isInfinite && x.isNegative != y.isNegative then .nan else x
    else if y.isInfinite then y
    else ofUnits (x.signedUnits + y.signedUnits) 1 (x.isNegative && y.isNegative)

def sub (x y : Binary64) : Binary64 := add x (neg y)

/-- The sign of a product or quotient. -/
def jointSign (x y : Binary64) : Bool := x.isNegative != y.isNegative

def mul (x y : Binary64) : Binary64 :=
  match x, y with
  | .nan, _ => .nan
  | _, .nan => .nan
  | x, y =>
    if x.isInfinite || y.isInfinite then
      if x.isZero || y.isZero then .nan else infinity (jointSign x y)
    else ofUnits (x.signedUnits * y.signedUnits) unitsOfOne (jointSign x y)

/-- The quotient; the divisor is not zero in the callers, and a zero divisor gives infinity. -/
def div (x y : Binary64) : Binary64 :=
  match x, y with
  | .nan, _ => .nan
  | _, .nan => .nan
  | x, y =>
    if x.isInfinite then if y.isInfinite then .nan else infinity (jointSign x y)
    else if y.isInfinite then zero (jointSign x y)
    else if y.isZero then if x.isZero then .nan else infinity (jointSign x y)
    else .number (jointSign x y)
      (nearestRank (x.signedUnits.natAbs * unitsOfOne) y.signedUnits.natAbs)

/-- The greatest whole number that is not above a finite number. -/
def floor (x : Binary64) : Binary64 :=
  if x.isFinite then
    match x.signedUnits.fdiv unitsOfOne with
    | 0 => zero x.isNegative
    | n => ofUnits (n * unitsOfOne) 1 x.isNegative
  else x

/-- The rest of the division that rounds toward zero; it has the sign of the dividend. -/
def truncatedRest (x y : Binary64) : Binary64 :=
  if x.isNaN || y.isNaN || x.isInfinite || y.isZero then .nan
  else if y.isInfinite then x
  else ofUnits (x.signedUnits.tmod y.signedUnits) 1 x.isNegative

/-- The rest of the division that rounds down; it has the sign of the divisor. -/
def modulo (x y : Binary64) : Binary64 :=
  match truncatedRest x y with
  | .nan => .nan
  | rest =>
    if rest.isZero then zero y.isNegative
    else if rest.isNegative != y.isNegative then add rest y else rest

/-- The quotient rounded down, by way of the rest so that it is whole whenever it is finite. -/
def floorDiv (x y : Binary64) : Binary64 :=
  match truncatedRest x y with
  | .nan => .nan
  | rest =>
    let whole := div (sub x rest) y
    let whole := if !rest.isZero && rest.isNegative != y.isNegative
      then sub whole (ofNat 1) else whole
    if whole.isZero then zero (jointSign x y)
    else
      let down := floor whole
      if (sub whole down).signedUnits > (unitsOfOne / 2 : Nat) then add down (ofNat 1) else down

/-- The order of two numbers; none if one of them is not a number. Both zeros are equal. -/
def compare? (x y : Binary64) : Option Ordering :=
  match x, y with
  | .nan, _ => none
  | _, .nan => none
  | x, y => some (compare x.signedUnits y.signedUnits)

/-- The order of a whole number and a floating-point number, decided exactly. -/
def compareInt? (i : Int) (y : Binary64) : Option Ordering :=
  match y with
  | .nan => none
  | y =>
    if y.isInfinite then some (if y.isNegative then .gt else .lt)
    else some (compare (i * unitsOfOne) y.signedUnits)

/-- The whole number that a finite number is cut to. -/
def truncate? (x : Binary64) : Option Int :=
  if x.isFinite then some (x.signedUnits.tdiv unitsOfOne) else none

/-- A finite number without a fraction. -/
def toInt? (x : Binary64) : Option Int :=
  if x.isFinite && x.signedUnits.tmod unitsOfOne = 0 then x.truncate? else none

/-- The 64 bits of a number. -/
def toBits : Binary64 → UInt64
  | .nan => 0x7FF8000000000000
  | .number negative rank => .ofNat ((if negative then Nat.pow 2 63 else 0) + rank.val)

/-- The number of 64 bits. -/
def ofBits (bits : UInt64) : Binary64 :=
  let rank := bits.toNat % Nat.pow 2 63
  if h : rank ≤ infinityRank then .number (Nat.pow 2 63 ≤ bits.toNat) ⟨rank, Nat.lt_succ_of_le h⟩
  else .nan

/-- The machine's power function. -/
def power (x y : Binary64) : Binary64 :=
  ofBits ((Float.ofBits x.toBits).pow (Float.ofBits y.toBits)).toBits

end Binary64

example : Binary64.ofRatio false 1 10 = .number false ⟨0x3FB999999999999A, by decide⟩ := by
  decide +kernel

example : (Binary64.ofRatio false 1 10).add (Binary64.ofRatio false 2 10) ≠
    Binary64.ofRatio false 3 10 := by decide +kernel

end LayeredFiles.Number
