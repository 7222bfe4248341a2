import LayeredFiles.Proofs.Number.Shortest
/-
Module: LayeredFiles.Proofs.Number.Range
Layer: Proofs
Purpose: which whole numbers are near to a floating-point number and which are too large. As elsewhere the
  exponents have names so that the powers are not evaluated.
Main exports: rankBelow_lt_iff, Binary64.exists_ofInt?, Binary64.ofInt?_of_large
-/

namespace LayeredFiles.Number

/-- The number below a value is that of a smaller rank just if the value is smaller than the number of the
    rank. -/
theorem rankBelow_lt_iff (num rank : Nat) : rankBelow num 1 < rank ↔ num < units rank := by
  obtain ⟨whole, next⟩ := units_rankBelow num 1
  have rest : num % grainBelow num 1 < grainBelow num 1 :=
    Nat.mod_lt _ (Nat.mul_pos Nat.one_pos (Nat.two_pow_pos _))
  constructor
  · intro below
    have bound := strictMono_units.monotone (Nat.succ_le_of_lt below)
    rw [Nat.succ_eq_add_one] at bound
    omega
  · intro below
    rw [← strictMono_units.lt_iff_lt]
    omega

/-- The binade below infinity begins at a power of two. -/
theorem units_lastBinade {place : Nat} (isPlace : 2097 = place) :
    units (infinityRank - binade) = 2 ^ place := by
  obtain ⟨shift, isShift⟩ : ∃ shift, 2045 = shift := ⟨_, rfl⟩
  have isStart : infinityRank - binade = shift * binade + binade := by
    rw [← isShift]
    rfl
  have bound : units (infinityRank - binade) = binade * 2 ^ shift := by
    rw [isStart]
    exact units_shift (Or.inr (Nat.le_refl _)) (by omega)
  have isPlace' : place = 52 + shift := by omega
  rw [bound, isPlace', Nat.pow_add]
  rfl

/-- A whole number below `2 ^ 1023` is near to a floating-point number. -/
theorem Binary64.exists_ofInt? {n place : Nat} (isPlace : 1023 = place) (small : n < 2 ^ place) :
    ∃ x, Binary64.ofInt? n = some x := by
  obtain ⟨last, isLast⟩ : ∃ last, 2097 = last := ⟨_, rfl⟩
  obtain ⟨one, isOne⟩ : ∃ one, 1074 = one := ⟨_, rfl⟩
  have below : rankBelow (n * unitsOfOne) 1 < infinityRank - binade := by
    rw [rankBelow_lt_iff, units_lastBinade isLast, unitsOfOne_eq isOne, Nat.pow_eq,
      show last = place + one by omega, Nat.pow_add]
    exact Nat.mul_lt_mul_of_pos_right small (Nat.two_pow_pos one)
  have notRank : (nearestRank (n * unitsOfOne) 1).val ≠ infinityRank := by
    have some := binade_pos
    rw [nearestRank_val]
    generalize infinityRank = top at below ⊢
    generalize binade = step at below some
    generalize rankBelow (n * unitsOfOne) 1 = rank at below ⊢
    split
    · rw [Nat.min_eq_left (by omega)]
      omega
    · rw [Nat.min_eq_left (by omega)]
      omega
  unfold Binary64.ofInt? Binary64.ofRatio
  simp only [Int.natAbs_natCast]
  rw [if_neg notRank]
  exact ⟨_, rfl⟩

/-- A whole number of `2 ^ 1024` or more is too large for a floating-point number. -/
theorem Binary64.ofInt?_of_large {n place : Nat} (isPlace : 1024 = place) (large : 2 ^ place ≤ n) :
    Binary64.ofInt? n = none := by
  obtain ⟨infinite, isInfinite⟩ : ∃ infinite, 2098 = infinite := ⟨_, rfl⟩
  obtain ⟨one, isOne⟩ : ∃ one, 1074 = one := ⟨_, rfl⟩
  have reaches : infinityRank ≤ rankBelow (n * unitsOfOne) 1 := by
    rw [← Nat.not_lt, rankBelow_lt_iff, Nat.not_lt, units_infinityRank isInfinite, unitsOfOne_eq isOne,
      Nat.pow_eq, show infinite = place + one by omega, Nat.pow_add]
    exact Nat.mul_le_mul_right _ large
  have isRank : (nearestRank (n * unitsOfOne) 1).val = infinityRank := by
    rw [nearestRank_val]
    generalize infinityRank = top at reaches ⊢
    generalize rankBelow (n * unitsOfOne) 1 = rank at reaches ⊢
    split
    · exact Nat.min_eq_right (by omega)
    · exact Nat.min_eq_right (by omega)
  unfold Binary64.ofInt? Binary64.ofRatio
  simp only [Int.natAbs_natCast]
  rw [if_pos isRank]

end LayeredFiles.Number
