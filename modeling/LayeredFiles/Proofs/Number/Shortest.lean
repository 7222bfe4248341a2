import Mathlib.Algebra.Order.Field.Power
import Mathlib.Tactic.FieldSimp
import Mathlib.Tactic.NormNum
import Mathlib.Tactic.Positivity
import LayeredFiles.Proofs.Number.Rank
/-
Module: LayeredFiles.Proofs.Number.Shortest
Layer: Proofs
Purpose: the shortest digits of a number lie in its rounding interval. The search passes grids that get finer
  by a digit each; on the seventeenth the step is smaller than the gap to the next number, so one of the two
  grid points next to the number is a hit. The decimal point is right because its estimate is, and so every
  hit has as many digits as its grid.
Main exports: InInterval, roundsTo_iff_inInterval, decimalPoint_bounds, Digits.value, shortest_inInterval
-/

namespace LayeredFiles.Number

/-! ### Values -/

/-- A value, counted in units, lies in the rounding interval of a rank. -/
def InInterval (rank : Nat) (v : ℚ) : Prop :=
  ((units (rank - 1) + units rank : Nat) : ℚ) ≤ 2 * v ∧
    2 * v ≤ ((units rank + units (rank + 1) : Nat) : ℚ) ∧
    (rank % 2 = 1 → ((units (rank - 1) + units rank : Nat) : ℚ) ≠ 2 * v ∧
      2 * v ≠ ((units rank + units (rank + 1) : Nat) : ℚ))

theorem roundsTo_iff_inInterval (rank num : Nat) {den : Nat} (positive : 0 < den) :
    roundsTo rank num den = true ↔ InInterval rank (num / den / 2) := by
  have positive' : (0 : ℚ) < den := by exact_mod_cast positive
  have isValue : 2 * ((num : ℚ) / den / 2) = num / den := by ring
  have atLeast : ∀ low : Nat, (low : ℚ) ≤ num / den ↔ low * den ≤ num := by
    intro low
    rw [le_div_iff₀ positive']
    norm_cast
  have atMost : ∀ high : Nat, (num : ℚ) / den ≤ high ↔ num ≤ high * den := by
    intro high
    rw [div_le_iff₀ positive']
    norm_cast
  have isLow : ∀ low : Nat, (low : ℚ) = num / den ↔ low * den = num := by
    intro low
    rw [eq_div_iff positive'.ne']
    norm_cast
  have isHigh : ∀ high : Nat, (num : ℚ) / den = high ↔ num = high * den := by
    intro high
    rw [div_eq_iff positive'.ne']
    norm_cast
  rw [roundsTo_iff, InInterval, isValue]
  simp only [ne_eq, atLeast, atMost, isLow, isHigh]

/-- The power of ten of an exponent, as a quotient of whole numbers. -/
theorem ten_zpow_of_nonneg {exponent : ℤ} (nonneg : 0 ≤ exponent) :
    (10 : ℚ) ^ exponent = (Nat.pow 10 exponent.toNat : Nat) := by
  obtain ⟨n, rfl⟩ := Int.eq_ofNat_of_zero_le nonneg
  simp

theorem ten_zpow_of_neg {exponent : ℤ} (negative : exponent < 0) :
    (10 : ℚ) ^ exponent = 1 / (Nat.pow 10 (-exponent).toNat : Nat) := by
  obtain ⟨n, isNat⟩ := Int.eq_ofNat_of_zero_le (show 0 ≤ -exponent by omega)
  have isNeg : exponent = -(n : ℤ) := by omega
  rw [isNeg, zpow_neg]
  simp

theorem ten_zpow_pos (exponent : ℤ) : (0 : ℚ) < 10 ^ exponent := by positivity

/-! ### Powers of two and ten -/

/-- A hundred thousand doublings lie between two powers of ten. -/
theorem two_pow_bounds :
    Nat.pow 10 30102 ≤ Nat.pow 2 100000 ∧ Nat.pow 2 100000 ≤ Nat.pow 10 30103 := by
  decide +kernel

/-- From the powers of one exponent those of all others follow. -/
theorem pow_bounds {a b c : Nat}
    (bounds : Nat.pow 10 a ≤ Nat.pow 2 c ∧ Nat.pow 2 c ≤ Nat.pow 10 b) (n : Nat) :
    (10 : ℚ) ^ (a * n) ≤ ((2 : ℚ) ^ n) ^ c ∧ ((2 : ℚ) ^ n) ^ c ≤ 10 ^ (b * n) := by
  have low : ((Nat.pow 10 a : Nat) : ℚ) ≤ (Nat.pow 2 c : Nat) := Nat.cast_le.2 bounds.1
  have high : ((Nat.pow 2 c : Nat) : ℚ) ≤ (Nat.pow 10 b : Nat) := Nat.cast_le.2 bounds.2
  rw [Nat.pow_eq, Nat.pow_eq, Nat.cast_pow, Nat.cast_pow, Nat.cast_ofNat, Nat.cast_ofNat]
    at low high
  rw [pow_right_comm, pow_mul, pow_mul]
  exact ⟨pow_le_pow_left₀ (by positivity) low n, pow_le_pow_left₀ (by positivity) high n⟩

theorem zpow_bounds (e : ℤ) :
    (10 : ℚ) ^ (30103 * e - |e|) ≤ ((2 : ℚ) ^ e) ^ 100000 ∧
      ((2 : ℚ) ^ e) ^ 100000 ≤ 10 ^ (30103 * e + |e|) := by
  have mono : ∀ {a b : ℤ}, a ≤ b → (10 : ℚ) ^ a ≤ 10 ^ b :=
    fun le => zpow_le_zpow_right₀ (by norm_num) le
  obtain ⟨n, rfl | rfl⟩ := e.eq_nat_or_neg
  · obtain ⟨low, high⟩ := pow_bounds two_pow_bounds n
    rw [← zpow_natCast (10 : ℚ)] at low high
    rw [zpow_natCast, Nat.abs_cast]
    exact ⟨(mono (by push_cast; omega)).trans low, high.trans (mono (by push_cast; omega))⟩
  · obtain ⟨low, high⟩ := pow_bounds two_pow_bounds n
    have low' := inv_anti₀ (by positivity) low
    have high' := inv_anti₀ (by positivity) high
    rw [← zpow_natCast (10 : ℚ), ← zpow_neg] at low' high'
    rw [zpow_neg, zpow_natCast, inv_pow, abs_neg, Nat.abs_cast]
    exact ⟨(mono (by push_cast; omega)).trans high', low'.trans (mono (by push_cast; omega))⟩

/-- Thirty thousand and three hundredths of thousandths of an exponent are its decimal exponent, up to one
    place. -/
theorem ten_zpow_le_two_zpow {e k : ℤ} (below : 100000 * k ≤ 30103 * e) (small : |e| ≤ 100000) :
    (10 : ℚ) ^ (k - 1) ≤ 2 ^ e := by
  refine le_of_pow_le_pow_left₀ (by decide : 100000 ≠ 0) (by positivity)
    (le_trans ?_ (zpow_bounds e).1)
  rw [← zpow_natCast, ← zpow_mul]
  apply zpow_le_zpow_right₀ (by norm_num)
  push_cast
  omega

theorem two_zpow_le_ten_zpow {e k : ℤ} (above : 30103 * e ≤ 100000 * k) (small : |e| ≤ 100000) :
    (2 : ℚ) ^ e ≤ 10 ^ (k + 1) := by
  refine le_of_pow_le_pow_left₀ (by decide : 100000 ≠ 0) (by positivity)
    ((zpow_bounds e).2.trans ?_)
  rw [← zpow_natCast, ← zpow_mul]
  apply zpow_le_zpow_right₀ (by norm_num)
  push_cast
  omega

/-! ### The decimal point -/

/-- The power that one is; its exponent has a name so that the power is not evaluated. -/
theorem unitsOfOne_eq {place : Nat} (isPlace : 1074 = place) : unitsOfOne = Nat.pow 2 place := by
  unfold unitsOfOne
  exact congrArg _ isPlace

theorem unitsOfOne_eq_zpow : (unitsOfOne : ℚ) = 2 ^ (1074 : ℤ) := by
  obtain ⟨place, isPlace⟩ : ∃ place, 1074 = place := ⟨_, rfl⟩
  have isPlace' : (1074 : ℤ) = place := by omega
  rw [unitsOfOne_eq isPlace, Nat.pow_eq, Nat.cast_pow, isPlace', Nat.cast_two, ← zpow_natCast]

theorem unitsOfOne_pos : (0 : ℚ) < unitsOfOne := by
  rw [unitsOfOne_eq_zpow]
  positivity

/-- Whether a count of units is below a power of ten. -/
def isBelow (count : Nat) (p : ℤ) : Bool :=
  if p < 0 then count * Nat.pow 10 (-p).toNat < unitsOfOne else count < unitsOfOne * Nat.pow 10 p.toNat

theorem isBelow_iff (count : Nat) (p : ℤ) :
    isBelow count p = true ↔ (count : ℚ) < unitsOfOne * 10 ^ p := by
  unfold isBelow
  by_cases negative : p < 0
  · have positive : (0 : ℚ) < (Nat.pow 10 (-p).toNat : Nat) := by
      exact_mod_cast Nat.pow_pos (by decide)
    rw [if_pos negative, decide_eq_true_eq, ten_zpow_of_neg negative, mul_one_div,
      lt_div_iff₀ positive]
    norm_cast
  · rw [if_neg negative, decide_eq_true_eq, ten_zpow_of_nonneg (Int.not_lt.1 negative)]
    norm_cast

/-- Where the search for the decimal point starts. -/
def pointEstimate (count : Nat) : ℤ := ((count.log2 : ℤ) - 1074) * 30103 / 100000 - 1

/-- One step of the search. -/
def raisePoint (count : Nat) (p : ℤ) : ℤ := if isBelow count p then p else p + 1

theorem decimalPoint_eq (count : Nat) :
    decimalPoint count = (List.range 4).foldl (fun p _ => raisePoint count p) (pointEstimate count) :=
  rfl

/-- The search stays where the count is below the power. -/
theorem foldl_raisePoint_of_isBelow {count : Nat} {p : ℤ} (below : isBelow count p = true)
    (steps : List Nat) : steps.foldl (fun p _ => raisePoint count p) p = p := by
  induction steps with
  | nil => rfl
  | cons step rest ih => rw [List.foldl_cons, raisePoint, if_pos below, ih]

/-- The search never passes a power that the count is below, and it ends at one or goes up all the way. -/
theorem foldl_raisePoint {count : Nat} {p : ℤ} (steps : List Nat)
    (reached : isBelow count (p - 1) = false) :
    isBelow count (steps.foldl (fun p _ => raisePoint count p) p - 1) = false ∧
      (isBelow count (steps.foldl (fun p _ => raisePoint count p) p) = true ∨
        steps.foldl (fun p _ => raisePoint count p) p = p + steps.length) := by
  induction steps generalizing p with
  | nil => exact ⟨reached, Or.inr (by simp)⟩
  | cons step rest ih =>
      cases below : isBelow count p with
      | true =>
          rw [foldl_raisePoint_of_isBelow below]
          exact ⟨reached, Or.inl below⟩
      | false =>
          have notBelow : ¬isBelow count p = true := by simp [below]
          rw [List.foldl_cons, raisePoint, if_neg notBelow]
          obtain ⟨reached', done | whole⟩ := ih (p := p + 1) (by rwa [Int.add_sub_cancel])
          · exact ⟨reached', Or.inl done⟩
          · refine ⟨reached', Or.inr ?_⟩
            rw [whole, List.length_cons]
            push_cast
            ring

/-- The decimal point is where it should be: the count lies between the power of ten of its position and
    the one before. -/
theorem decimalPoint_bounds {count : Nat} (positive : 0 < count) (finite : count.log2 < 2098) :
    (unitsOfOne : ℚ) * 10 ^ (decimalPoint count - 1) ≤ count ∧
      (count : ℚ) < unitsOfOne * 10 ^ decimalPoint count := by
  -- The binade of the value, and the estimate of its decimal place.
  obtain ⟨e, isExponent⟩ : ∃ e : ℤ, e = count.log2 - 1074 := ⟨_, rfl⟩
  have isEstimate : pointEstimate count = e * 30103 / 100000 - 1 := by rw [pointEstimate, isExponent]
  have low : (unitsOfOne : ℚ) * 2 ^ e ≤ count := by
    have whole : ((2 ^ count.log2 : Nat) : ℚ) ≤ count := Nat.cast_le.2 (Nat.log2_self_le positive.ne')
    rw [unitsOfOne_eq_zpow, ← zpow_add₀ (by norm_num), isExponent, add_sub_cancel, zpow_natCast]
    rwa [Nat.cast_pow, Nat.cast_two] at whole
  have high : (count : ℚ) < unitsOfOne * 2 ^ (e + 1) := by
    have whole : (count : ℚ) < ((2 ^ (count.log2 + 1) : Nat) : ℚ) := Nat.cast_lt.2 Nat.lt_log2_self
    rw [unitsOfOne_eq_zpow, ← zpow_add₀ (by norm_num), isExponent,
      show (1074 : ℤ) + (count.log2 - 1074 + 1) = ((count.log2 + 1 : Nat) : ℤ) by push_cast; ring,
      zpow_natCast]
    rwa [Nat.cast_pow, Nat.cast_two] at whole
  have reached : isBelow count (pointEstimate count - 1) = false := by
    rw [Bool.eq_false_iff, ne_eq, isBelow_iff, not_lt]
    refine le_trans (mul_le_mul_of_nonneg_left ?_ unitsOfOne_pos.le) low
    refine le_trans (zpow_le_zpow_right₀ (by norm_num) ?_)
      (ten_zpow_le_two_zpow (e := e) (k := e * 30103 / 100000) (by omega)
        (abs_le.2 ⟨by omega, by omega⟩))
    omega
  have ends : isBelow count (pointEstimate count + 4) = true := by
    rw [isBelow_iff]
    refine lt_of_lt_of_le high (mul_le_mul_of_nonneg_left ?_ unitsOfOne_pos.le)
    refine le_trans (two_zpow_le_ten_zpow (e := e + 1) (k := e * 30103 / 100000 + 2) (by omega)
      (abs_le.2 ⟨by omega, by omega⟩)) (zpow_le_zpow_right₀ (by norm_num) ?_)
    omega
  obtain ⟨notBelow, below⟩ := foldl_raisePoint (List.range 4) reached
  rw [← decimalPoint_eq] at notBelow below
  constructor
  · rw [Bool.eq_false_iff, ne_eq, isBelow_iff, not_lt] at notBelow
    exact notBelow
  · rw [← isBelow_iff]
    rcases below with below | whole
    · exact below
    · rw [whole]
      exact ends

/-! ### Grids -/

/-- The step of a grid, counted in units. -/
def gridStep (point : ℤ) (places : Nat) : ℚ := unitsOfOne * 10 ^ (point - places)

theorem gridStep_pos (point : ℤ) (places : Nat) : 0 < gridStep point places :=
  mul_pos unitsOfOne_pos (ten_zpow_pos _)

theorem cast_ten_pow (k : Nat) : ((Nat.pow 10 k : Nat) : ℚ) = 10 ^ (k : ℤ) := by
  rw [Nat.pow_eq, Nat.cast_pow, Nat.cast_ofNat, zpow_natCast]

/-- As many steps as a power of ten are a step with fewer places. -/
theorem pow_mul_gridStep (point : ℤ) (places k : Nat) :
    ((Nat.pow 10 k : Nat) : ℚ) * gridStep point places = unitsOfOne * 10 ^ (point - places + k) := by
  rw [gridStep, zpow_add₀ (by norm_num), cast_ten_pow]
  ring

/-- A quotient that is rounded down, as an inequality of the two sides. -/
theorem div_bounds (a : Nat) {b : Nat} (positive : 0 < b) :
    ((a / b : Nat) : ℚ) * b ≤ a ∧ (a : ℚ) < ((a / b : Nat) + 1) * b := by
  have low : a / b * b ≤ a := Nat.div_mul_le_self a b
  have high : a < (a / b + 1) * b := Nat.mul_comm b _ ▸ Nat.lt_mul_div_succ a positive
  exact ⟨by exact_mod_cast low, by exact_mod_cast high⟩

/-- The grid's step is kept as a fraction of half units, and the value lies between two of its points. -/
theorem gridAt_spec (count : Nat) (point : ℤ) (places : Nat) :
    0 < (gridAt count point places).stepDen ∧
      ((gridAt count point places).stepNum : ℚ) / (gridAt count point places).stepDen / 2 =
        gridStep point places ∧
      (gridAt count point places).below * gridStep point places ≤ count ∧
      (count : ℚ) < ((gridAt count point places).below + 1) * gridStep point places := by
  have one : 0 < unitsOfOne := Nat.cast_pos.1 unitsOfOne_pos
  unfold gridAt gridStep
  simp only
  by_cases negative : point - places < 0
  · rw [if_pos negative, ten_zpow_of_neg negative]
    have scale : 0 < Nat.pow 10 (-(point - places)).toNat := Nat.pow_pos (by decide)
    generalize Nat.pow 10 (-(point - places)).toNat = scale' at scale ⊢
    obtain ⟨low, high⟩ := div_bounds (count * scale') one
    have scale'' : (0 : ℚ) < scale' := Nat.cast_pos.2 scale
    rw [Nat.cast_mul] at low high
    simp only
    refine ⟨scale, ?_, ?_, ?_⟩
    · rw [Nat.cast_mul, Nat.cast_two]
      ring
    · rw [mul_one_div, ← mul_div_assoc, div_le_iff₀ scale'']
      exact low
    · rw [mul_one_div, ← mul_div_assoc, lt_div_iff₀ scale'']
      exact high
  · rw [if_neg negative, ten_zpow_of_nonneg (Int.not_lt.1 negative)]
    have scale : 0 < Nat.pow 10 (point - places).toNat := Nat.pow_pos (by decide)
    generalize Nat.pow 10 (point - places).toNat = scale' at scale ⊢
    obtain ⟨low, high⟩ := div_bounds count (Nat.mul_pos one scale)
    rw [Nat.cast_mul] at low high
    simp only
    refine ⟨Nat.one_pos, ?_, low, high⟩
    rw [Nat.cast_mul, Nat.cast_mul, Nat.cast_two, Nat.cast_one]
    ring

/-- A point of the grid is rounded to a rank just if it lies in the rank's interval. -/
theorem roundsTo_gridAt_iff (rank n count : Nat) (point : ℤ) (places : Nat) :
    roundsTo rank (n * (gridAt count point places).stepNum) (gridAt count point places).stepDen = true ↔
      InInterval rank (n * gridStep point places) := by
  obtain ⟨positive, isStep, -⟩ := gridAt_spec count point places
  rw [roundsTo_iff_inInterval _ _ positive, Nat.cast_mul, mul_div_assoc, mul_div_assoc, isStep]

/-- A hit is one of the two points next to the value, and it lies in the rounding interval. -/
theorem gridHit?_eq_some {rank count n : Nat} {point : ℤ} {places : Nat}
    (hit : gridHit? rank count (gridAt count point places) = some n) :
    (n = (gridAt count point places).below ∨ n = (gridAt count point places).below + 1) ∧
      InInterval rank (n * gridStep point places) := by
  unfold gridHit? at hit
  simp only at hit
  split at hit
  · rename_i low high
    split at hit
    · cases hit
      exact ⟨Or.inl rfl, (roundsTo_gridAt_iff ..).1 low⟩
    · cases hit
      exact ⟨Or.inr rfl, (roundsTo_gridAt_iff ..).1 high⟩
  · rename_i low _
    cases hit
    exact ⟨Or.inl rfl, (roundsTo_gridAt_iff ..).1 low⟩
  · rename_i _ high
    cases hit
    exact ⟨Or.inr rfl, (roundsTo_gridAt_iff ..).1 high⟩
  · cases hit

/-- What is nearer to a number than half the gap to the number before lies in its rounding interval. -/
theorem inInterval_of_near {rank gap : Nat} (isGap : units rank = units (rank - 1) + gap)
    (noLess : units rank + gap ≤ units (rank + 1)) {v : ℚ} (small : 2 * v < 2 * units rank + gap)
    (large : 2 * units rank - gap < 2 * v) : InInterval rank v := by
  have isGap' : (units rank : ℚ) = units (rank - 1) + gap := by exact_mod_cast isGap
  have noLess' : (units rank : ℚ) + gap ≤ units (rank + 1) := by exact_mod_cast noLess
  have above : ((units (rank - 1) + units rank : Nat) : ℚ) < 2 * v := by
    push_cast
    linarith
  have below : 2 * v < ((units rank + units (rank + 1) : Nat) : ℚ) := by
    push_cast
    linarith
  exact ⟨above.le, below.le, fun _ => ⟨above.ne, below.ne⟩⟩

/-- A grid whose step is smaller than the gap to the number before has a hit. -/
theorem gridHit?_ne_none {rank gap : Nat} {point : ℤ} {places : Nat}
    (isGap : units rank = units (rank - 1) + gap) (noLess : units rank + gap ≤ units (rank + 1))
    (fine : gridStep point places < gap) :
    gridHit? rank (units rank) (gridAt (units rank) point places) ≠ none := by
  obtain ⟨-, -, low, high⟩ := gridAt_spec (units rank) point places
  intro none
  unfold gridHit? at none
  simp only at none
  split at none
  · cases none
  · cases none
  · cases none
  · rename_i notLow notHigh
    rw [← Bool.not_eq_true, roundsTo_gridAt_iff] at notLow notHigh
    generalize (gridAt (units rank) point places).below = below at low high notLow notHigh
    have stepPos := gridStep_pos point places
    -- The nearer point is at most half a step away.
    rcases le_or_gt (2 * ((units rank : ℚ) - below * gridStep point places)) (gridStep point places)
      with near | far
    · exact notLow (inInterval_of_near isGap noLess (by linarith) (by linarith))
    · have isNext : ((below + 1 : Nat) : ℚ) = below + 1 := by push_cast; ring
      rw [isNext] at notHigh
      exact notHigh (inInterval_of_near isGap noLess (by linarith) (by linarith))

/-! ### The shortest digits -/

/-- The number that digits stand for. -/
def Digits.value (d : Digits) : ℚ :=
  d.coefficient * 10 ^ (d.point - (decimalDigits d.coefficient).length)

/-- A coefficient with as many digits as its grid stands for its grid point. -/
theorem value_of_length {n places : Nat} (point : ℤ) (low : Nat.pow 10 (places - 1) ≤ n)
    (high : n < Nat.pow 10 places) (isGrid : 0 < places) :
    (⟨n, point⟩ : Digits).value = n * 10 ^ (point - places) := by
  have length : (decimalDigits n).length = places := by
    apply Nat.le_antisymm
    · exact (Nat.length_toDigits_le_iff (by decide) isGrid).2 high
    · by_contra short
      rw [Nat.not_le] at short
      have positive : 0 < (decimalDigits n).length := Nat.length_toDigits_pos
      have small : n < 10 ^ (places - 1) :=
        (Nat.length_toDigits_le_iff (by decide) (by omega)).1
          (show (decimalDigits n).length ≤ places - 1 by omega)
      exact absurd low (Nat.not_le.2 small)
  simp only [Digits.value, length]

/-- A hit at a value whose decimal point is right has at most as many digits as its grid, and the next power
    of ten is written with one. -/
theorem value_of_hit {rank count n places : Nat} {point : ℤ}
    (low : (unitsOfOne : ℚ) * 10 ^ (point - 1) ≤ count) (high : (count : ℚ) < unitsOfOne * 10 ^ point)
    (isGrid : 0 < places) (hit : gridHit? rank count (gridAt count point places) = some n) :
    0 < n ∧ (if n = Nat.pow 10 places then (⟨1, point + 1⟩ : Digits) else ⟨n, point⟩).value =
      n * 10 ^ (point - places) := by
  obtain ⟨-, -, below, above⟩ := gridAt_spec count point places
  have stepPos := gridStep_pos point places
  have first := pow_mul_gridStep point places (places - 1)
  have next := pow_mul_gridStep point places places
  rw [show point - places + ((places - 1 : Nat) : ℤ) = point - 1 by omega] at first
  rw [sub_add_cancel] at next
  obtain ⟨isPoint, -⟩ := gridHit?_eq_some hit
  have atLeast : Nat.pow 10 (places - 1) < (gridAt count point places).below + 1 := by
    have lt : ((Nat.pow 10 (places - 1) : Nat) : ℚ) < (gridAt count point places).below + 1 :=
      lt_of_mul_lt_mul_right ((first.trans_le low).trans_lt above) stepPos.le
    exact_mod_cast lt
  have atMost : (gridAt count point places).below < Nat.pow 10 places := by
    have lt : ((gridAt count point places).below : ℚ) < (Nat.pow 10 places : Nat) :=
      lt_of_mul_lt_mul_right (below.trans_lt (high.trans_eq next.symm)) stepPos.le
    exact_mod_cast lt
  have positive : 0 < Nat.pow 10 (places - 1) := Nat.pow_pos (by decide)
  refine ⟨by omega, ?_⟩
  by_cases whole : n = Nat.pow 10 places
  · have one := value_of_length (point + 1) (show Nat.pow 10 (1 - 1) ≤ 1 by decide)
      (show 1 < Nat.pow 10 1 by decide) Nat.one_pos
    rw [if_pos whole, one, whole, cast_ten_pow, Nat.cast_one, one_mul, ← zpow_add₀ (by norm_num)]
    congr 1
    omega
  · rw [if_neg whole]
    exact value_of_length point (by omega) (by omega) isGrid

/-- The search ends at a hit, since there is one on the seventeenth grid. -/
theorem exists_hit {rank count : Nat} {point : ℤ}
    (last : gridHit? rank count (gridAt count point 17) ≠ none) (fuel : Nat) {places : Nat}
    (bound : places + fuel = 18) (more : 0 < fuel) :
    ∃ n grid, places ≤ grid ∧ gridHit? rank count (gridAt count point grid) = some n ∧
      firstHit rank count point fuel places =
        if n = Nat.pow 10 grid then ⟨1, point + 1⟩ else ⟨n, point⟩ := by
  induction fuel generalizing places with
  | zero => exact absurd more (Nat.lt_irrefl 0)
  | succ fuel ih =>
      cases hit : gridHit? rank count (gridAt count point places) with
      | some n => exact ⟨n, places, Nat.le_refl _, hit, by rw [firstHit, hit]⟩
      | none =>
          have more : 0 < fuel := by
            by_contra done
            have isLast : places = 17 := by omega
            rw [isLast] at hit
            exact last hit
          have bound' : places + 1 + fuel = 18 := by omega
          obtain ⟨n, grid, further, isHit, found⟩ := ih bound' more
          exact ⟨n, grid, by omega, isHit, by rw [firstHit, hit, ← found]⟩

/-- Infinity stands behind the binades; the exponent has a name so that the power is not evaluated. -/
theorem units_infinityRank {place : Nat} (isPlace : 2098 = place) : units infinityRank = 2 ^ place := by
  obtain ⟨shift, isShift⟩ : ∃ shift, 2046 = shift := ⟨_, rfl⟩
  have isInfinity : infinityRank = shift * binade + binade := by
    rw [← isShift]
    rfl
  have bound : units infinityRank = binade * 2 ^ shift := by
    rw [isInfinity]
    exact units_shift (Or.inr (Nat.le_refl _)) (by omega)
  have isPlace' : place = 52 + shift := by omega
  rw [bound, isPlace', Nat.pow_add]
  rfl

/-- The counts of finite numbers are below a power of two. -/
theorem log2_units_lt {rank : Nat} (positive : 0 < rank) (finite : rank < infinityRank) :
    0 < units rank ∧ (units rank).log2 < 2098 := by
  obtain ⟨place, isPlace⟩ : ∃ place, 2098 = place := ⟨_, rfl⟩
  have zero : units 0 = 0 := rfl
  have some : 0 < units rank := by
    rw [← zero]
    exact strictMono_units positive
  have lt := strictMono_units finite
  rw [units_infinityRank isPlace] at lt
  rw [isPlace]
  exact ⟨some, (Nat.log2_lt some.ne').2 lt⟩

/-- The shortest digits of a number stand for a value in its rounding interval. -/
theorem shortest_inInterval {rank : Nat} (positive : 0 < rank) (finite : rank < infinityRank) :
    0 < (shortest rank).coefficient ∧ InInterval rank (unitsOfOne * (shortest rank).value) := by
  obtain ⟨someUnits, log⟩ := log2_units_lt positive finite
  obtain ⟨low, high⟩ := decimalPoint_bounds someUnits log
  obtain ⟨gap, someGap, isGap, bound, noLess⟩ := exists_gap (rank - 1)
  rw [show rank - 1 + 2 = rank + 1 by omega] at noLess
  rw [Nat.sub_add_cancel positive] at isGap bound noLess
  have fine : gridStep (decimalPoint (units rank)) 17 < gap := by
    have step := pow_mul_gridStep (decimalPoint (units rank)) 17 16
    rw [show decimalPoint (units rank) - ((17 : Nat) : ℤ) + ((16 : Nat) : ℤ) =
      decimalPoint (units rank) - 1 by omega] at step
    have small : (2 * binade * gap : Nat) < Nat.pow 10 16 * gap :=
      Nat.mul_lt_mul_of_pos_right (by decide) someGap
    have small' : (units rank : ℚ) < (Nat.pow 10 16 : Nat) * gap := by
      exact_mod_cast bound.trans_lt small
    exact lt_of_mul_lt_mul_left ((step.trans_le low).trans_lt small') (Nat.cast_nonneg _)
  obtain ⟨n, grid, isGrid, hit, found⟩ := exists_hit (gridHit?_ne_none isGap noLess fine) 17 rfl
    (by decide)
  obtain ⟨somePoint, value⟩ := value_of_hit low high isGrid hit
  have inside := (gridHit?_eq_some hit).2
  have isShortest : shortest rank = if n = Nat.pow 10 grid then
      ⟨1, decimalPoint (units rank) + 1⟩ else ⟨n, decimalPoint (units rank)⟩ := found
  rw [isShortest]
  constructor
  · split
    · exact Nat.one_pos
    · exact somePoint
  · rw [value, mul_left_comm]
    exact inside

end LayeredFiles.Number
