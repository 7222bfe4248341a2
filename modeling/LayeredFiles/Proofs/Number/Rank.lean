import Mathlib.Order.Monotone.Basic
import Mathlib.Tactic.Linarith
import Mathlib.Tactic.Ring
import LayeredFiles.Number.Decimal
/-
Module: LayeredFiles.Proofs.Number.Rank
Layer: Proofs
Purpose: ranks and the numbers that they stand for. A rank is a shift and a significand; the gap to the next
  number is the power of two of the shift. What lies between the middles towards both neighbours of a number
  is rounded to that number, with the ends where its rank is even.
Main exports: units_shift, exists_gap, strictMono_units, nearestRank_of_roundsTo
-/

namespace LayeredFiles.Number

/-! ### Shifts and significands -/

/-- How many numbers a binade has. -/
def binade : Nat := Nat.pow 2 52

theorem binade_pos : 0 < binade := by decide

/-- A significand that is shifted, the last one of a binade being the first one of the next. -/
theorem units_shift {shift significand : Nat} (normal : shift = 0 ∨ binade ≤ significand)
    (bounded : significand ≤ 2 * binade) :
    units (shift * binade + significand) = significand * 2 ^ shift := by
  have positive := binade_pos
  change (if shift * binade + significand < binade then shift * binade + significand
    else (binade + (shift * binade + significand) % binade) *
      Nat.pow 2 ((shift * binade + significand) / binade - 1)) = _
  by_cases small : significand < binade
  · obtain rfl : shift = 0 := by omega
    rw [Nat.zero_mul, Nat.zero_add, if_pos small, Nat.pow_zero, Nat.mul_one]
  · obtain ⟨more, rfl⟩ := Nat.exists_eq_add_of_le (Nat.not_lt.1 small)
    have notSmall : ¬shift * binade + (binade + more) < binade := by omega
    have whole : shift * binade + (binade + more) = more + (shift + 1) * binade := by ring
    rw [if_neg notSmall, whole, Nat.add_mul_mod_self_right, Nat.add_mul_div_right _ _ positive]
    by_cases last : more = binade
    · rw [last, Nat.mod_self, Nat.div_self positive,
        show 1 + (shift + 1) - 1 = shift + 1 by omega, Nat.pow_eq, Nat.pow_succ]
      ring
    · have inBinade : more < binade := by omega
      rw [Nat.mod_eq_of_lt inBinade, Nat.div_eq_of_lt inBinade,
        show 0 + (shift + 1) - 1 = shift by omega, Nat.pow_eq]

/-- Every rank is a shift and a significand. -/
theorem exists_shift (rank : Nat) :
    ∃ shift significand, rank = shift * binade + significand ∧
      (shift = 0 ∨ binade ≤ significand) ∧ significand < 2 * binade := by
  have positive := binade_pos
  have whole := Nat.div_add_mod rank binade
  have rest := Nat.mod_lt rank positive
  by_cases small : rank < binade
  · exact ⟨0, rank, by omega, Or.inl rfl, by omega⟩
  · have some : 1 ≤ rank / binade := (Nat.one_le_div_iff positive).2 (Nat.not_lt.1 small)
    obtain ⟨shift, isShift⟩ := Nat.exists_eq_add_of_le some
    refine ⟨shift, binade + rank % binade, ?_, Or.inr (Nat.le_add_right _ _), by omega⟩
    rw [isShift, Nat.mul_add, Nat.mul_one, Nat.mul_comm binade] at whole
    omega

/-! ### Gaps -/

/-- The next number is a gap away, which is not too small against it, and the gap after that is no
    smaller. -/
theorem exists_gap (rank : Nat) :
    ∃ gap, 0 < gap ∧ units (rank + 1) = units rank + gap ∧ units (rank + 1) ≤ 2 * binade * gap ∧
      units (rank + 1) + gap ≤ units (rank + 2) := by
  obtain ⟨shift, significand, rfl, normal, bounded⟩ := exists_shift rank
  have this := units_shift normal bounded.le
  have next : units (shift * binade + (significand + 1)) = (significand + 1) * 2 ^ shift :=
    units_shift (normal.imp_right (fun large => by omega)) (by omega)
  rw [← Nat.add_assoc] at next
  refine ⟨2 ^ shift, Nat.two_pow_pos shift, ?_, ?_, ?_⟩
  · rw [this, next]
    ring
  · rw [next]
    exact Nat.mul_le_mul_right _ (by omega)
  · rw [next]
    by_cases last : significand + 1 = 2 * binade
    · have above : units ((shift + 1) * binade + (binade + 1)) = (binade + 1) * 2 ^ (shift + 1) :=
        units_shift (Or.inr (by omega)) (by have := binade_pos; omega)
      rw [show shift * binade + significand + 2 = (shift + 1) * binade + (binade + 1) by
        rw [Nat.add_mul]; omega, above, last, Nat.pow_succ]
      have : 0 < 2 ^ shift := Nat.two_pow_pos shift
      nlinarith
    · have above : units (shift * binade + (significand + 2)) = (significand + 2) * 2 ^ shift :=
        units_shift (normal.imp_right (fun large => by omega)) (by omega)
      rw [show shift * binade + significand + 2 = shift * binade + (significand + 2) by omega, above]
      exact le_of_eq (by ring)

/-- The order of ranks is the order of values. -/
theorem strictMono_units : StrictMono units := by
  apply strictMono_nat_of_lt_succ
  intro rank
  obtain ⟨gap, positive, next, -⟩ := exists_gap rank
  omega

/-! ### Rounding -/

/-- The shift of the number below a value, and the gap above it as a part of the denominator. -/
def shiftBelow (num den : Nat) : Nat := (num / den).log2 - 52

def grainBelow (num den : Nat) : Nat := den * Nat.pow 2 (shiftBelow num den)

/-- The greatest rank whose number is not above a value. -/
def rankBelow (num den : Nat) : Nat :=
  shiftBelow num den * Nat.pow 2 52 + num / grainBelow num den

theorem nearestRank_val (num den : Nat) :
    (nearestRank num den).val =
      min (if grainBelow num den < 2 * (num % grainBelow num den) ||
          (2 * (num % grainBelow num den) = grainBelow num den && rankBelow num den % 2 = 1)
        then rankBelow num den + 1 else rankBelow num den) infinityRank := rfl

/-- The significand of the number below a value. -/
theorem significandBelow (num den : Nat) :
    (shiftBelow num den = 0 ∨ binade ≤ num / grainBelow num den) ∧
      num / grainBelow num den < 2 * binade := by
  have isBinade : binade = 2 ^ 52 := rfl
  have quotient : num / grainBelow num den = num / den / 2 ^ shiftBelow num den := by
    rw [grainBelow, Nat.pow_eq, Nat.div_div_eq_div_mul]
  rw [quotient]
  unfold shiftBelow
  generalize num / den = floor
  by_cases zero : floor = 0
  · rw [zero, Nat.zero_div]
    exact ⟨Or.inl rfl, by omega⟩
  · have low := Nat.log2_self_le zero
    have high : floor < 2 ^ (floor.log2 + 1) := Nat.lt_log2_self
    by_cases small : floor.log2 < 52
    · have none : floor.log2 - 52 = 0 := by omega
      have fits : 2 ^ (floor.log2 + 1) ≤ 2 ^ 52 := Nat.pow_le_pow_right (by decide) (by omega)
      rw [none, Nat.pow_zero, Nat.div_one]
      exact ⟨Or.inl rfl, by omega⟩
    · obtain ⟨shift, isShift⟩ := Nat.exists_eq_add_of_le (Nat.not_lt.1 small)
      have some : floor.log2 - 52 = shift := by omega
      rw [isShift, Nat.pow_add] at low
      rw [isShift, show 52 + shift + 1 = 53 + shift by omega, Nat.pow_add] at high
      rw [some, Nat.le_div_iff_mul_le (Nat.two_pow_pos shift),
        Nat.div_lt_iff_lt_mul (Nat.two_pow_pos shift), isBinade]
      exact ⟨Or.inr low, high⟩

/-- A value is less than a gap above the number below it. -/
theorem units_rankBelow (num den : Nat) :
    units (rankBelow num den) * den + num % grainBelow num den = num ∧
      units (rankBelow num den + 1) * den =
        units (rankBelow num den) * den + grainBelow num den := by
  obtain ⟨normal, bounded⟩ := significandBelow num den
  have isRank : rankBelow num den = shiftBelow num den * binade + num / grainBelow num den := rfl
  have this := units_shift normal bounded.le
  have next : units (shiftBelow num den * binade + (num / grainBelow num den + 1)) =
      (num / grainBelow num den + 1) * 2 ^ shiftBelow num den :=
    units_shift (normal.imp_right (fun large => Nat.le_succ_of_le large)) bounded
  rw [← isRank] at this
  rw [← Nat.add_assoc, ← isRank] at next
  have scaled : ∀ significand, significand * 2 ^ shiftBelow num den * den =
      grainBelow num den * significand := by
    intro significand
    rw [grainBelow, Nat.pow_eq]
    ring
  rw [next, this, scaled, scaled, Nat.mul_succ]
  exact ⟨Nat.div_add_mod num (grainBelow num den), rfl⟩

/-- The ends of the interval of a rank belong to it if the rank is even. -/
theorem roundsTo_iff (rank num den : Nat) :
    roundsTo rank num den = true ↔
      (units (rank - 1) + units rank) * den ≤ num ∧ num ≤ (units rank + units (rank + 1)) * den ∧
        (rank % 2 = 1 → (units (rank - 1) + units rank) * den ≠ num ∧
          num ≠ (units rank + units (rank + 1)) * den) := by
  have isInterval : roundingInterval rank =
      (units (rank - 1) + units rank, units rank + units (rank + 1)) := rfl
  rw [roundsTo, isInterval]
  simp only
  generalize (units (rank - 1) + units rank) * den = low
  generalize (units rank + units (rank + 1)) * den = high
  by_cases even : rank % 2 = 0
  · rw [if_pos even, Bool.and_eq_true, decide_eq_true_eq, decide_eq_true_eq]
    omega
  · rw [if_neg even, Bool.and_eq_true, decide_eq_true_eq, decide_eq_true_eq]
    omega

/-- What lies in the rounding interval of a rank is rounded to that rank. -/
theorem nearestRank_of_roundsTo {rank num den : Nat} (positive : 0 < den) (someRank : 0 < rank)
    (finite : rank < infinityRank) (rounds : roundsTo rank (2 * num) den = true) :
    (nearestRank num den).val = rank := by
  obtain ⟨whole, above⟩ := units_rankBelow num den
  have rest : num % grainBelow num den < grainBelow num den :=
    Nat.mod_lt _ (Nat.mul_pos positive (Nat.two_pow_pos _))
  have mono : ∀ {a b : Nat}, a ≤ b → units a * den ≤ units b * den :=
    fun le => Nat.mul_le_mul_right den (strictMono_units.monotone le)
  have strict : ∀ {a b : Nat}, a < b → units a * den < units b * den :=
    fun lt => Nat.mul_lt_mul_of_pos_right (strictMono_units lt) positive
  rw [roundsTo_iff, Nat.add_mul, Nat.add_mul] at rounds
  obtain ⟨low, high, inside⟩ := rounds
  rw [nearestRank_val]
  generalize infinityRank = top at finite ⊢
  generalize rankBelow num den = below at whole above
  generalize grainBelow num den = grain at whole above rest
  -- The number below the value is the number of the rank or the one before it.
  have notBefore : rank - 1 ≤ below := by
    by_contra before
    have le := mono (show below + 1 ≤ rank - 1 by omega)
    have lt := strict (show rank - 1 < rank by omega)
    omega
  have notBehind : below ≤ rank := by
    by_contra behind
    have le := mono (show rank + 1 ≤ below by omega)
    have lt := strict (show rank < rank + 1 by omega)
    omega
  rcases Nat.eq_or_lt_of_le notBehind with same | before
  · -- The value lies below the middle towards the next number, or on it if the rank is even.
    rw [same] at whole above ⊢
    have down : (decide (grain < 2 * (num % grain)) ||
        (decide (2 * (num % grain) = grain) && decide (rank % 2 = 1))) = false := by
      rw [Bool.or_eq_false_iff, Bool.and_eq_false_iff, decide_eq_false_iff_not,
        decide_eq_false_iff_not, decide_eq_false_iff_not]
      omega
    rw [down, if_neg Bool.false_ne_true]
    omega
  · have isNext : rank = below + 1 := by omega
    subst isNext
    rw [Nat.add_sub_cancel] at low inside
    have up : (decide (grain < 2 * (num % grain)) ||
        (decide (2 * (num % grain) = grain) && decide (below % 2 = 1))) = true := by
      rw [Bool.or_eq_true, Bool.and_eq_true, decide_eq_true_eq, decide_eq_true_eq,
        decide_eq_true_eq]
      omega
    rw [up, if_pos rfl]
    omega

end LayeredFiles.Number
