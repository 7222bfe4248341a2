import LayeredFiles.Number.Binary64
/-
Module: LayeredFiles.Number.Decimal
Layer: Number
Purpose: decimal texts of binary numbers. The shortest text has the fewest digits that still lie in
  the interval of reals that round to the number; a notation record says when these digits are
  written with an exponent. Fixed places round the exact value, a half to the even neighbour.
Main exports: Digits, shortest, Notation, Notation.write, plain, compact, fixedPlaces
-/

namespace LayeredFiles.Number

/-- The decimal digits of a natural number. -/
def decimalDigits (n : Nat) : List Char := Nat.toDigits 10 n

/-- The number `0.d₁d₂d₃… · 10^point` with `coefficient` written as the digits `d₁d₂d₃…`. -/
structure Digits where
  coefficient : Nat
  point : Int
deriving DecidableEq, Repr

/-- The reals that round to the number of a finite rank above zero, in half units: from the middle
    towards the lower neighbour to the middle towards the upper one. -/
def roundingInterval (rank : Nat) : Nat × Nat :=
  (units (rank - 1) + units rank, units rank + units (rank + 1))

/-- `num / den` half units lie in the rounding interval of a rank, whose ends belong to it exactly
    if the rank is even. -/
def roundsTo (rank num den : Nat) : Bool :=
  let (low, high) := roundingInterval rank
  if rank % 2 = 0 then low * den ≤ num && num ≤ high * den
  else low * den < num && num < high * den

/-- The position of the decimal point of `units` units: the least `p` with the value below `10^p`.
    The search goes up from an estimate that is never too high. -/
def decimalPoint (count : Nat) : Int :=
  let below (p : Int) : Bool :=
    if p < 0 then count * Nat.pow 10 (-p).toNat < unitsOfOne else count < unitsOfOne * Nat.pow 10 p.toNat
  let estimate : Int := ((count.log2 : Int) - 1074) * 30103 / 100000 - 1
  (List.range 4).foldl (fun p _ => if below p then p else p + 1) estimate

/-- The point of the grid of `places` digits just below a value, and the grid's step as a fraction. -/
structure GridPoint where
  /-- The value divided by the step, rounded down. -/
  below : Nat
  /-- The step in half units, as a numerator … -/
  stepNum : Nat
  /-- … over a denominator. -/
  stepDen : Nat

/-- The grid of `places` digits at a value of `count` units whose decimal point is at `point`. -/
def gridAt (count : Nat) (point : Int) (places : Nat) : GridPoint :=
  let exponent := point - places
  if exponent < 0 then
    let scale := Nat.pow 10 (-exponent).toNat
    ⟨count * scale / unitsOfOne, 2 * unitsOfOne, scale⟩
  else
    let scale := Nat.pow 10 exponent.toNat
    ⟨count / (unitsOfOne * scale), 2 * unitsOfOne * scale, 1⟩

/-- The neighbour of the value on a grid that rounds to it, the nearer one if both do. -/
def gridHit? (rank count : Nat) (grid : GridPoint) : Option Nat :=
  let low := grid.below
  let high := grid.below + 1
  let value := 2 * count * grid.stepDen
  match roundsTo rank (low * grid.stepNum) grid.stepDen,
    roundsTo rank (high * grid.stepNum) grid.stepDen with
  | true, true =>
    let toLow := value - low * grid.stepNum
    let toHigh := high * grid.stepNum - value
    some (if toLow < toHigh || (toLow = toHigh && low % 2 = 0) then low else high)
  | true, false => some low
  | false, true => some high
  | false, false => none

/-- The first grid with a hit, from `places` digits on; `fuel` bounds the digits that are tried. -/
def firstHit (rank count : Nat) (point : Int) : Nat → Nat → Digits
  | 0, places => ⟨(gridAt count point places).below, point⟩
  | fuel + 1, places =>
    match gridHit? rank count (gridAt count point places) with
    | some n => if n = Nat.pow 10 places then ⟨1, point + 1⟩ else ⟨n, point⟩
    | none => firstHit rank count point fuel (places + 1)

/-- The fewest digits that read back as the number of a finite rank above zero. -/
def shortest (rank : Nat) : Digits :=
  let count := units rank
  firstHit rank count (decimalPoint count) 17 1

/-- When digits are written with an exponent, and how. -/
structure Notation where
  /-- Positional notation is kept while the point's position is above this … -/
  lowestPoint : Int
  /-- … and up to this. -/
  highestPoint : Int
  /-- The least number of digits of an exponent. -/
  exponentDigits : Nat
  /-- The sign of an exponent that is not negative. -/
  plusSign : List Char
  /-- Whether a single digit before the exponent is followed by `.0`. -/
  wholeMark : Bool
  nan : List Char
  infinity : List Char
deriving DecidableEq, Repr

/-- The notation of values in texts: positional from 0.0001 to below 10^16. -/
def plain : Notation := ⟨-4, 16, 2, ['+'], false, "nan".toList, "inf".toList⟩

/-- The notation of settings files: positional from 0.00001 to below 10^16, no sign and no padding
    in the exponent. -/
def compact : Notation := ⟨-5, 16, 1, [], false, "NaN".toList, "null".toList⟩

/-- Zeros in front of digits. -/
def padZeros (count : Nat) (s : List Char) : List Char := List.replicate (count - s.length) '0' ++ s

/-- An exponent with its sign. -/
def Notation.writeExponent (style : Notation) (exponent : Int) : List Char :=
  (if exponent < 0 then ['-'] else style.plusSign) ++
    padZeros style.exponentDigits (decimalDigits exponent.natAbs)

/-- The digits of a positive number in a notation. -/
def Notation.writeDigits (style : Notation) (d : Digits) : List Char :=
  let digits := (decimalDigits d.coefficient).reverse.dropWhile (· == '0') |>.reverse
  if d.point ≤ style.lowestPoint || style.highestPoint < d.point then
    match digits with
    | [] => []
    | first :: rest =>
      first :: (if rest = [] then (if style.wholeMark then ['.', '0'] else []) else '.' :: rest) ++
        'e' :: style.writeExponent (d.point - 1)
  else if d.point ≤ 0 then '0' :: '.' :: List.replicate (-d.point).toNat '0' ++ digits
  else
    let whole := digits.take d.point.toNat
    let fraction := digits.drop d.point.toNat
    whole ++ List.replicate (d.point.toNat - whole.length) '0' ++
      '.' :: (if fraction = [] then ['0'] else fraction)

/-- The shortest text of a number that reads back as it. -/
def Notation.write (style : Notation) : Binary64 → List Char
  | .nan => style.nan
  | .number negative rank =>
    let body :=
      if rank.val = infinityRank then style.infinity
      else if rank.val = 0 then "0.0".toList
      else style.writeDigits (shortest rank.val)
    if negative then '-' :: body else body

/-- `num / den` rounded to a whole number, a half to the even neighbour. -/
def roundHalfEven (num den : Nat) : Nat :=
  let floor := num / den
  let rest := 2 * (num % den)
  if den < rest || (rest = den && floor % 2 = 1) then floor + 1 else floor

/-- A whole number of `10^-places` parts with the point set. -/
def writeFixed (places : Nat) (scaled : Nat) : List Char :=
  let digits := padZeros (places + 1) (decimalDigits scaled)
  let whole := digits.take (digits.length - places)
  if places = 0 then whole else whole ++ '.' :: digits.drop (digits.length - places)

/-- A number with a fixed count of decimal places. -/
def fixedPlaces (places : Nat) : Binary64 → List Char
  | .nan => "nan".toList
  | .number negative rank =>
    let body :=
      if rank.val = infinityRank then "inf".toList
      else writeFixed places (roundHalfEven (units rank.val * Nat.pow 10 places) unitsOfOne)
    if negative then '-' :: body else body

example : plain.write (.ofRatio false 1 10) = "0.1".toList ∧
    plain.write (.ofRatio true (Nat.pow 10 16) 1) = "-1e+16".toList ∧
    compact.write (.ofNat 30) = "30.0".toList := by decide +kernel

example : plain.write (.number false ⟨1, by decide⟩) = "5e-324".toList ∧
    fixedPlaces 2 (.ofRatio false 1 8) = "0.12".toList := by decide +kernel

end LayeredFiles.Number
