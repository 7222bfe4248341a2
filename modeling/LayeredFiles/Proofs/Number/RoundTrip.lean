import Mathlib.Data.List.DropRight
import LayeredFiles.Proofs.Number.Spelling
/-
Module: LayeredFiles.Proofs.Number.RoundTrip
Layer: Proofs
Purpose: numbers are read back from their texts, whole numbers from their digits and others from their
  shortest texts. What the reader makes of a decimal depends on its value alone: in the rounding interval
  of a number it makes that number. The writer gives digits a spelling of the same value, with an exponent,
  behind zeros or with the point among them.
Main exports: readInt_decimalDigits, DecimalText.value, floatOfDecimal_of_inInterval, Notation.exists_spelling,
  Notation.exists_spelling_of_finite
-/

namespace LayeredFiles.Number

/-! ### Whole numbers -/

theorem readRun_of_isDigits {s : List Char} (digits : IsDigits s) (run : DigitRun) {afterDigit : Bool}
    (goesOn : afterDigit = true ∨ s ≠ []) :
    readRun 10 run afterDigit s =
      some ⟨run.count + s.length, Nat.ofDigitChars 10 s run.value⟩ := by
  induction s generalizing run afterDigit with
  | nil =>
      have after : afterDigit = true := goesOn.resolve_right (fun nonempty => nonempty rfl)
      rw [readRun, after]
      rfl
  | cons c s ih =>
      have digit := digits c List.mem_cons_self
      have noScore : c ≠ '_' := ne_of_isDigit digit (by decide)
      rw [readRun, if_neg noScore, digitBelow?_of_isDigit digit]
      simp only
      rw [ih (fun d mem => digits d (List.mem_cons_of_mem c mem)) _ (Or.inl rfl), Nat.ofDigitChars_cons,
        List.length_cons, Nat.mul_comm 10, Nat.add_right_comm, Nat.add_assoc]

theorem dropBaseMark_ten (s : List Char) : dropBaseMark 10 s = s := by
  unfold dropBaseMark
  split
  · rfl
  · rfl

/-- A whole number is read back from its digits, behind its sign, if there are not too many of them. -/
theorem readInt_decimalDigits (negative : Bool) (n : Nat) :
    readInt 10 (minus negative ++ decimalDigits n) =
      if digitLimit < (decimalDigits n).length then .error (.tooLong (decimalDigits n).length)
      else .ok (if negative then -(n : Int) else n) := by
  have digits := isDigits_decimalDigits n
  have noBlanks : trimNumber (minus negative ++ decimalDigits n) = minus negative ++ decimalDigits n := by
    refine trimNumber_eq_self (fun c mem => ?_)
    rcases List.mem_append.1 mem with inSign | inDigits
    · rw [mem_minus inSign]
      rfl
    · exact isNumberBlank_of_isDigit (digits c inDigits)
  have nonempty : decimalDigits n ≠ [] := Nat.toDigits_ne_nil
  have signed : takeSign (minus negative ++ decimalDigits n) = (negative, decimalDigits n) := by
    obtain ⟨c, rest, isText⟩ := List.exists_cons_of_ne_nil nonempty
    have digit := digits c (by simp [isText])
    cases negative with
    | false =>
        rw [minus, if_neg Bool.false_ne_true, List.nil_append, isText, Spelling.takeSign_of_isDigit digit]
    | true => rfl
  have back : Nat.ofDigitChars 10 (decimalDigits n) 0 = n :=
    Nat.ofDigitChars_toDigits (by decide) (by decide)
  rw [readInt, noBlanks, signed]
  simp only [dropBaseMark_ten, readRun_of_isDigits digits ⟨0, 0⟩ (Or.inr nonempty), back]
  simp

/-! ### Decimals in a rounding interval -/

/-- The number that a decimal stands for. -/
def DecimalText.value (d : DecimalText) : ℚ := d.coefficient * 10 ^ (d.exponent - d.places)

/-- The values that round to a finite number are neither too small nor too big for powers of ten. -/
theorem bounds_of_inInterval {rank : Nat} {v : ℚ} (positive : 0 < rank) (finite : rank < infinityRank)
    (inside : InInterval rank (unitsOfOne * v)) : (10 : ℚ) ^ (-325 : ℤ) ≤ v ∧ v ≤ 10 ^ (310 : ℤ) := by
  obtain ⟨low, high, -⟩ := inside
  obtain ⟨someUnits, -⟩ := log2_units_lt positive finite
  have atLeast : (1 : ℚ) ≤ 2 * (unitsOfOne * v) := by
    refine le_trans ?_ low
    exact_mod_cast (show 1 ≤ units (rank - 1) + units rank by omega)
  have atMost : unitsOfOne * v ≤ 2 ^ (2098 : ℤ) := by
    obtain ⟨place, isPlace⟩ : ∃ place, 2098 = place := ⟨_, rfl⟩
    have isPlace' : (2098 : ℤ) = place := by omega
    have below := (strictMono_units finite).le
    have next := strictMono_units.monotone finite
    rw [Nat.succ_eq_add_one] at next
    rw [units_infinityRank isPlace] at below next
    have both : ((units rank + units (rank + 1) : Nat) : ℚ) ≤ (2 * 2 ^ place : Nat) := by
      exact_mod_cast (show units rank + units (rank + 1) ≤ 2 * 2 ^ place by omega)
    rw [isPlace', zpow_natCast]
    push_cast at both
    push_cast at high
    linarith
  rw [unitsOfOne_eq_zpow] at atLeast atMost
  constructor
  · refine le_trans (ten_zpow_le_two_zpow (e := -1075) (k := -324) (by decide) (by decide)) ?_
    rw [show (-1075 : ℤ) = -(1 + 1074) from rfl, zpow_neg, zpow_add₀ two_ne_zero, zpow_one,
      inv_le_iff_one_le_mul₀ (by positivity), mul_comm v, mul_assoc]
    exact atLeast
  · refine le_trans ?_ (two_zpow_le_ten_zpow (e := 1024) (k := 309) (by decide) (by decide))
    rw [show (2098 : ℤ) = 1074 + 1024 from rfl, zpow_add₀ two_ne_zero] at atMost
    exact le_of_mul_le_mul_left atMost (by positivity)

/-- A quotient in the rounding interval of a number is rounded to that number. -/
theorem ofRatio_of_inInterval {rank : Fin (infinityRank + 1)} (positive : 0 < rank.val)
    (finite : rank.val < infinityRank) {num den : Nat} (someDen : 0 < den)
    (inside : InInterval rank.val (unitsOfOne * (num / den))) (negative : Bool) :
    Binary64.ofRatio negative num den = .number negative rank := by
  have rounds : roundsTo rank.val (2 * (num * unitsOfOne)) den = true := by
    rw [roundsTo_iff_inInterval _ _ someDen]
    have isValue : ((2 * (num * unitsOfOne) : Nat) : ℚ) / den / 2 = unitsOfOne * (num / den) := by
      push_cast
      ring
    rwa [isValue]
  rw [Binary64.ofRatio, Binary64.number.injEq]
  exact ⟨rfl, Fin.ext (nearestRank_of_roundsTo someDen positive finite rounds)⟩

namespace DecimalText

variable {d : DecimalText}

theorem pow_le_value (someCoefficient : d.coefficient ≠ 0) :
    (10 : ℚ) ^ (d.exponent - d.places) ≤ d.value := by
  have one : (1 : ℚ) ≤ d.coefficient := by exact_mod_cast Nat.pos_of_ne_zero someCoefficient
  exact le_mul_of_one_le_left (ten_zpow_pos _).le one

theorem value_lt_pow (short : d.coefficient < 10 ^ d.length) :
    d.value < 10 ^ (d.length + (d.exponent - d.places)) := by
  have less : (d.coefficient : ℚ) < 10 ^ (d.length : ℤ) := by exact_mod_cast short
  rw [value, zpow_add₀ (by norm_num)]
  exact mul_lt_mul_of_pos_right less (ten_zpow_pos _)

end DecimalText

/-- In the rounding interval of a number a decimal is read as that number. -/
theorem floatOfDecimal_of_inInterval {d : DecimalText} {rank : Fin (infinityRank + 1)}
    (positive : 0 < rank.val) (finite : rank.val < infinityRank)
    (short : d.coefficient < 10 ^ d.length) (inside : InInterval rank.val (unitsOfOne * d.value))
    (negative : Bool) : floatOfDecimal negative d = .number negative rank := by
  obtain ⟨low, high⟩ := bounds_of_inInterval positive finite inside
  have someCoefficient : d.coefficient ≠ 0 := by
    intro zero
    have none : d.value = 0 := by rw [DecimalText.value, zero, Nat.cast_zero, zero_mul]
    rw [none] at low
    exact absurd low (not_le.2 (ten_zpow_pos _))
  have notBig : ¬d.exponent - d.places > 400 := by
    intro big
    have more : (10 : ℚ) ^ (310 : ℤ) < 10 ^ (d.exponent - d.places) :=
      zpow_lt_zpow_right₀ (by norm_num) (by omega)
    exact absurd (more.trans_le (DecimalText.pow_le_value someCoefficient)) high.not_gt
  have notSmall : ¬d.exponent - d.places + d.length < -400 := by
    intro small
    have tiny : (10 : ℚ) ^ (d.length + (d.exponent - d.places)) ≤ 10 ^ (-325 : ℤ) :=
      zpow_le_zpow_right₀ (by norm_num) (by omega)
    exact absurd ((DecimalText.value_lt_pow short).trans_le tiny) low.not_gt
  simp only [floatOfDecimal, if_neg someCoefficient, if_neg notBig, if_neg notSmall]
  by_cases below : d.exponent - d.places < 0
  · rw [if_pos below]
    refine ofRatio_of_inInterval positive finite (Nat.pow_pos (by decide)) ?_ negative
    rwa [DecimalText.value, ten_zpow_of_neg below, mul_one_div] at inside
  · rw [if_neg below]
    refine ofRatio_of_inInterval positive finite Nat.one_pos ?_ negative
    rw [Nat.cast_one, div_one, Nat.cast_mul, ← ten_zpow_of_nonneg (Int.not_lt.1 below)]
    exact inside

/-! ### Significant digits -/

/-- The digits of a number up to its last one that is no zero. -/
def significant (n : Nat) : List Char := (decimalDigits n).rdropWhile (· == '0')

theorem exists_zeros (n : Nat) :
    ∃ count, decimalDigits n = significant n ++ List.replicate count '0' := by
  refine ⟨((decimalDigits n).rtakeWhile (· == '0')).length, ?_⟩
  have zeros : (decimalDigits n).rtakeWhile (· == '0') =
      List.replicate ((decimalDigits n).rtakeWhile (· == '0')).length '0' := by
    rw [List.eq_replicate_iff]
    exact ⟨rfl, fun c mem => by simpa using List.mem_rtakeWhile_imp mem⟩
  rw [← zeros, significant, List.rdropWhile_append_rtakeWhile]

theorem isDigits_significant (n : Nat) : IsDigits (significant n) :=
  fun c mem => isDigits_decimalDigits n c ((List.rdropWhile_prefix _ _).subset mem)

theorem ofDigitChars_lt {s : List Char} (digits : IsDigits s) : Nat.ofDigitChars 10 s 0 < 10 ^ s.length := by
  induction s using List.reverseRecOn with
  | nil => simp
  | append_singleton s c ih =>
      have small := ih (fun d mem => digits d (List.mem_append_left _ mem))
      obtain ⟨low, high⟩ := toNat_of_isDigit (digits c (by simp))
      rw [Nat.ofDigitChars_append, Nat.ofDigitChars_cons, Nat.ofDigitChars_nil, List.length_append,
        List.length_singleton, Nat.pow_succ]
      have zero : '0'.toNat = 48 := rfl
      omega

/-- A number above zero does not start with a zero. -/
theorem head_decimalDigits {n : Nat} (positive : 0 < n) : (decimalDigits n).head? ≠ some '0' := by
  intro zero
  obtain ⟨rest, whole⟩ : ∃ rest, decimalDigits n = '0' :: rest := List.head?_eq_some_iff.1 zero
  have back : Nat.ofDigitChars 10 (decimalDigits n) 0 = n :=
    Nat.ofDigitChars_toDigits (by decide) (by decide)
  have digits : IsDigits rest :=
    fun c mem => isDigits_decimalDigits n c (by rw [whole]; exact List.mem_cons_of_mem _ mem)
  have small := ofDigitChars_lt digits
  rw [whole, Nat.ofDigitChars_cons] at back
  have isRest : Nat.ofDigitChars 10 rest 0 = n := back
  by_cases none : rest = []
  · rw [none, Nat.ofDigitChars_nil] at isRest
    omega
  · have more : 0 < rest.length := List.length_pos_iff.2 none
    rw [isRest] at small
    have length : (decimalDigits n).length ≤ rest.length :=
      (Nat.length_toDigits_le_iff (by decide) more).2 small
    rw [whole, List.length_cons] at length
    omega

theorem significant_of_pos {n : Nat} (positive : 0 < n) :
    ∃ c rest, significant n = c :: rest ∧ c ≠ '0' := by
  obtain ⟨count, whole⟩ := exists_zeros n
  have head := head_decimalDigits positive
  cases isSignificant : significant n with
  | nil =>
      rw [isSignificant, List.nil_append] at whole
      cases count with
      | zero => exact absurd whole Nat.toDigits_ne_nil
      | succ count =>
          rw [whole] at head
          exact absurd rfl head
  | cons c rest =>
      refine ⟨c, rest, rfl, ?_⟩
      rintro rfl
      rw [whole, isSignificant] at head
      exact head rfl

/-- Digits stand for what their significant digits stand for. -/
theorem Digits.value_eq (d : Digits) :
    d.value = Nat.ofDigitChars 10 (significant d.coefficient) 0 *
      10 ^ (d.point - (significant d.coefficient).length) := by
  obtain ⟨count, whole⟩ := exists_zeros d.coefficient
  have back : Nat.ofDigitChars 10 (decimalDigits d.coefficient) 0 = d.coefficient :=
    Nat.ofDigitChars_toDigits (by decide) (by decide)
  rw [whole, Nat.ofDigitChars_append, Nat.ofDigitChars_replicate_zero] at back
  have isExponent : (d.point - ((significant d.coefficient).length + count : Nat) : ℤ) =
      d.point - (significant d.coefficient).length - count := by
    push_cast
    ring
  have scaled : (d.coefficient : ℚ) =
      10 ^ (count : ℤ) * Nat.ofDigitChars 10 (significant d.coefficient) 0 := by
    rw [zpow_natCast]
    exact_mod_cast back.symm
  rw [Digits.value, whole, List.length_append, List.length_replicate, isExponent, zpow_sub₀ (by norm_num),
    scaled]
  field_simp

/-! ### Spellings of digits -/

namespace Spelling

/-- A number with a fraction or an exponent that has no zero in front of its whole digits. -/
structure IsStrict (s : Spelling) : Prop where
  noZeros : s.whole = ['0'] ∨ s.whole.head? ≠ some '0'
  notWhole : s.fraction ≠ [] ∨ s.exponent ≠ []

/-- Zeros in front of digits do not count, and those behind them are powers of ten. -/
theorem value_of_zeros {s : Spelling} {front behind : Nat} {digits : List Char}
    (same : s.whole ++ s.fraction =
      List.replicate front '0' ++ digits ++ List.replicate behind '0') :
    s.decimal.value =
      Nat.ofDigitChars 10 digits 0 * 10 ^ (s.power - s.fraction.length + behind) := by
  have coefficient : Nat.ofDigitChars 10 (s.whole ++ s.fraction) 0 =
      10 ^ behind * Nat.ofDigitChars 10 digits 0 := by
    rw [same, Nat.ofDigitChars_append, Nat.ofDigitChars_append, Nat.ofDigitChars_replicate_zero,
      Nat.ofDigitChars_replicate_zero, Nat.mul_zero]
  rw [DecimalText.value, decimal]
  simp only
  rw [coefficient, zpow_add₀ (by norm_num), zpow_natCast, Nat.cast_mul, Nat.cast_pow, Nat.cast_ofNat]
  ring

/-- An exponent is read with the sign that it was written with. -/
theorem power_of_natAbs {s : Spelling} {exponent : ℤ}
    (digits : Nat.ofDigitChars 10 s.exponent 0 = exponent.natAbs)
    (negative : s.sign = ['-'] ↔ exponent < 0) : s.power = exponent := by
  rw [power, digits]
  split
  · rename_i minus
    have := negative.1 minus
    omega
  · rename_i noMinus
    have := mt negative.2 noMinus
    omega

theorem coefficient_lt (s : Spelling) : s.decimal.coefficient < 10 ^ s.decimal.length := by
  have small := ofDigitChars_lt (s.isWhole.append s.isFraction)
  rw [List.length_append] at small
  exact small

end Spelling

namespace Notation

variable {style : Notation} {d : Digits}

theorem isDigits_padZeros (count n : Nat) : IsDigits (padZeros count (decimalDigits n)) :=
  (isDigits_replicate_zero _).append (isDigits_decimalDigits n)

theorem ofDigitChars_padZeros (count n : Nat) :
    Nat.ofDigitChars 10 (padZeros count (decimalDigits n)) 0 = n := by
  rw [padZeros, Nat.ofDigitChars_append, Nat.ofDigitChars_replicate_zero, Nat.mul_zero]
  exact Nat.ofDigitChars_toDigits (by decide) (by decide)

/-- Behind a single digit stands the mark of a whole number, a zero, or nothing. -/
theorem exists_fraction_behind_first (mark : Bool) (rest : List Char) :
    ∃ fraction behind, fraction = rest ++ List.replicate behind '0' ∧
      (if rest = [] then (if mark then ['.', '0'] else []) else '.' :: rest) =
        (if fraction = [] then [] else '.' :: fraction) := by
  by_cases none : rest = []
  · cases mark with
    | true => exact ⟨['0'], 1, by simp [none], by simp [none]⟩
    | false => exact ⟨[], 0, by simp [none], by simp [none]⟩
  · exact ⟨rest, 0, by simp, by simp [none]⟩

/-- Digits far from the point are spelled with an exponent. -/
theorem exists_spelling_of_far (signs : style.plusSign = [] ∨ style.plusSign = ['+'])
    (positive : 0 < d.coefficient)
    (far : (decide (d.point ≤ style.lowestPoint) || decide (style.highestPoint < d.point)) = true) :
    ∃ s : Spelling, style.writeDigits d = s.text ∧ s.decimal.value = d.value ∧ s.IsStrict := by
  obtain ⟨first, rest, isDigits, notZero⟩ := significant_of_pos positive
  obtain ⟨fraction, behind, same, isFraction⟩ := exists_fraction_behind_first style.wholeMark rest
  have digits := isDigits_significant d.coefficient
  rw [isDigits] at digits
  have fractionDigits : IsDigits fraction := by
    rw [same]
    exact IsDigits.append (fun c mem => digits c (List.mem_cons_of_mem _ mem)) (isDigits_replicate_zero _)
  let exponent := padZeros style.exponentDigits (decimalDigits (d.point - 1).natAbs)
  have someExponent : exponent ≠ [] := by
    intro none
    exact Nat.toDigits_ne_nil (List.append_eq_nil_iff.1 none).2
  let s : Spelling :=
    { whole := [first]
      fraction := fraction
      sign := if d.point - 1 < 0 then ['-'] else style.plusSign
      exponent := exponent
      nonempty := by simp
      isWhole := fun c mem => digits c (by rw [List.mem_singleton.1 mem]; exact List.mem_cons_self)
      isFraction := fractionDigits
      isSign := by
        split
        · exact Or.inr (Or.inr rfl)
        · exact signs.imp_right Or.inl
      isExponent := isDigits_padZeros _ _ }
  have power : s.power = d.point - 1 := by
    refine Spelling.power_of_natAbs (ofDigitChars_padZeros _ _) ?_
    by_cases negative : d.point - 1 < 0
    · exact iff_of_true (if_pos negative) negative
    · refine iff_of_false ?_ negative
      rw [show s.sign = style.plusSign from if_neg negative]
      rcases signs with none | plus
      · simp [none]
      · simp [plus]
  refine ⟨s, ?_, ?_, Or.inr ?_, Or.inr someExponent⟩
  · have isText : s.text = first :: (if fraction = [] then [] else '.' :: fraction) ++
        'e' :: style.writeExponent (d.point - 1) := by
      rw [Spelling.text, Spelling.fractionText, Spelling.exponentText, if_neg someExponent]
      rfl
    have shown : ((decimalDigits d.coefficient).reverse.dropWhile (· == '0')).reverse = first :: rest :=
      isDigits
    refine (if_pos far).trans ?_
    rw [isText, shown, ← isFraction]
  · have spelled : s.whole ++ s.fraction =
        List.replicate 0 '0' ++ significant d.coefficient ++ List.replicate behind '0' := by
      rw [isDigits, show s.fraction = rest ++ List.replicate behind '0' from same]
      rfl
    have length : (s.fraction.length : ℤ) = rest.length + behind := by
      rw [show s.fraction = rest ++ List.replicate behind '0' from same, List.length_append,
        List.length_replicate]
      push_cast
      rfl
    rw [Spelling.value_of_zeros spelled, Digits.value_eq, power, length, isDigits, List.length_cons]
    congr 2
    push_cast
    ring
  · intro zero
    exact notZero (Option.some.inj zero)

/-- Digits behind the point are spelled with zeros in front. -/
theorem exists_spelling_of_behind (positive : 0 < d.coefficient)
    (near : ¬(decide (d.point ≤ style.lowestPoint) || decide (style.highestPoint < d.point)) = true)
    (behind : d.point ≤ 0) :
    ∃ s : Spelling, style.writeDigits d = s.text ∧ s.decimal.value = d.value ∧ s.IsStrict := by
  obtain ⟨first, rest, isDigits, -⟩ := significant_of_pos positive
  have someFraction : List.replicate (-d.point).toNat '0' ++ significant d.coefficient ≠ [] := by
    rw [isDigits]
    simp
  let s : Spelling :=
    { whole := ['0']
      fraction := List.replicate (-d.point).toNat '0' ++ significant d.coefficient
      sign := []
      exponent := []
      nonempty := by simp
      isWhole := isDigits_replicate_zero 1
      isFraction := (isDigits_replicate_zero _).append (isDigits_significant _)
      isSign := Or.inl rfl
      isExponent := nofun }
  refine ⟨s, ?_, ?_, Or.inl rfl, Or.inl someFraction⟩
  · have written : style.writeDigits d =
        '0' :: '.' :: List.replicate (-d.point).toNat '0' ++ significant d.coefficient :=
      (if_neg near).trans (if_pos behind)
    rw [written, Spelling.text, Spelling.fractionText, Spelling.exponentText, if_neg someFraction,
      if_pos rfl, List.append_nil]
    rfl
  · have spelled : s.whole ++ s.fraction = List.replicate ((-d.point).toNat + 1) '0' ++
        significant d.coefficient ++ List.replicate 0 '0' := by
      rw [List.replicate_zero, List.append_nil]
      rfl
    have length : (s.fraction.length : ℤ) = -d.point + (significant d.coefficient).length := by
      rw [show s.fraction = List.replicate (-d.point).toNat '0' ++ significant d.coefficient from rfl,
        List.length_append, List.length_replicate, Nat.cast_add]
      omega
    rw [Spelling.value_of_zeros spelled, Digits.value_eq, length, show s.power = 0 from rfl]
    congr 2
    push_cast
    ring

/-- Digits with the point among them are filled up with zeros as far as the point, and a zero stands behind
    the point if no digit is left. -/
theorem exists_fraction_behind_point {digits : List Char} (isDigits : IsDigits digits) (point : Nat) :
    ∃ fraction behind, (if digits.drop point = [] then ['0'] else digits.drop point) = fraction ∧
      IsDigits fraction ∧ fraction ≠ [] ∧
      digits.take point ++ List.replicate (point - (digits.take point).length) '0' ++ fraction =
        digits ++ List.replicate behind '0' ∧
      (fraction.length : ℤ) + point = digits.length + behind := by
  by_cases short : digits.length ≤ point
  · refine ⟨['0'], point - digits.length + 1, if_pos (List.drop_eq_nil_of_le short),
      isDigits_replicate_zero 1, by simp, ?_, ?_⟩
    · rw [List.take_of_length_le short, List.replicate_succ', List.append_assoc]
    · rw [List.length_singleton]
      omega
  · rw [Nat.not_le] at short
    have someRest : digits.drop point ≠ [] := by
      rw [ne_eq, List.drop_eq_nil_iff]
      omega
    refine ⟨digits.drop point, 0, if_neg someRest, fun c mem => isDigits c (List.mem_of_mem_drop mem),
      someRest, ?_, ?_⟩
    · rw [List.length_take_of_le short.le, Nat.sub_self, List.replicate_zero, List.append_nil,
        List.append_nil, List.take_append_drop]
    · rw [List.length_drop]
      omega

/-- Digits around the point are spelled with the point among them. -/
theorem exists_spelling_of_around (positive : 0 < d.coefficient)
    (near : ¬(decide (d.point ≤ style.lowestPoint) || decide (style.highestPoint < d.point)) = true)
    (around : ¬d.point ≤ 0) :
    ∃ s : Spelling, style.writeDigits d = s.text ∧ s.decimal.value = d.value ∧ s.IsStrict := by
  obtain ⟨first, rest, isDigits, notZero⟩ := significant_of_pos positive
  have digits := isDigits_significant d.coefficient
  obtain ⟨point, isPoint⟩ : ∃ point : Nat, d.point = point + 1 :=
    ⟨(d.point - 1).toNat, by omega⟩
  have toNat : d.point.toNat = point + 1 := by omega
  obtain ⟨fraction, behind, isFraction, fractionDigits, someFraction, spelled, length⟩ :=
    exists_fraction_behind_point digits (point + 1)
  let s : Spelling :=
    { whole := (significant d.coefficient).take (point + 1) ++
        List.replicate (point + 1 - ((significant d.coefficient).take (point + 1)).length) '0'
      fraction := fraction
      sign := []
      exponent := []
      nonempty := by
        rw [isDigits]
        simp
      isWhole := IsDigits.append (fun c mem => digits c (List.mem_of_mem_take mem))
        (isDigits_replicate_zero _)
      isFraction := fractionDigits
      isSign := Or.inl rfl
      isExponent := nofun }
  refine ⟨s, ?_, ?_, Or.inr ?_, Or.inl someFraction⟩
  · have written : style.writeDigits d =
        (significant d.coefficient).take d.point.toNat ++
          List.replicate (d.point.toNat - ((significant d.coefficient).take d.point.toNat).length) '0' ++
          '.' :: (if (significant d.coefficient).drop d.point.toNat = [] then ['0']
            else (significant d.coefficient).drop d.point.toNat) :=
      (if_neg near).trans (if_neg around)
    rw [written, toNat, isFraction, Spelling.text, Spelling.fractionText, Spelling.exponentText,
      if_neg someFraction, if_pos rfl, List.append_nil]
  · have spelled' : s.whole ++ s.fraction = List.replicate 0 '0' ++ significant d.coefficient ++
        List.replicate behind '0' := spelled
    rw [Spelling.value_of_zeros spelled', Digits.value_eq, show s.power = 0 from rfl, isPoint]
    congr 2
    have : (s.fraction.length : ℤ) = fraction.length := rfl
    omega
  · have head : s.whole.head? = some first := by
      change ((significant d.coefficient).take (point + 1) ++ _).head? = some first
      rw [isDigits]
      rfl
    rw [head]
    intro zero
    exact notZero (Option.some.inj zero)

/-- Digits are written as a spelling of their value. -/
theorem exists_spelling (signs : style.plusSign = [] ∨ style.plusSign = ['+'])
    (positive : 0 < d.coefficient) :
    ∃ s : Spelling, style.writeDigits d = s.text ∧ s.decimal.value = d.value ∧ s.IsStrict := by
  by_cases far : (decide (d.point ≤ style.lowestPoint) || decide (style.highestPoint < d.point)) = true
  · exact exists_spelling_of_far signs positive far
  · by_cases behind : d.point ≤ 0
    · exact exists_spelling_of_behind positive far behind
    · exact exists_spelling_of_around positive far behind

/-- A finite number is written as a spelling, behind its sign, that is read back as the number. -/
theorem exists_spelling_of_finite (signs : style.plusSign = [] ∨ style.plusSign = ['+'])
    {negative : Bool} {rank : Fin (infinityRank + 1)} (finite : rank.val ≠ infinityRank) :
    ∃ s : Spelling, style.write (.number negative rank) = minus negative ++ s.text ∧
      readFloat (minus negative ++ s.text) = some (.number negative rank) ∧ s.IsStrict := by
  have below : rank.val < infinityRank := lt_of_le_of_ne (Nat.lt_succ_iff.1 rank.isLt) finite
  -- The sign stands in front of what is written without it.
  have signed : ∀ {body : List Char}, style.write (.number false rank) = body →
      style.write (.number negative rank) = minus negative ++ body := by
    rintro body rfl
    cases negative with
    | false => rfl
    | true => rfl
  by_cases zero : rank.val = 0
  · refine ⟨⟨['0'], ['0'], [], [], by simp, isDigits_replicate_zero 1, isDigits_replicate_zero 1,
      Or.inl rfl, nofun⟩, signed ?_, ?_, Or.inl rfl, Or.inl (by simp)⟩
    · rw [write]
      simp only [Bool.false_eq_true, if_false]
      rw [if_neg finite, if_pos zero]
      rfl
    · have isZero : rank = ⟨0, Nat.succ_pos _⟩ := Fin.ext zero
      rw [Spelling.readFloat_signed, isZero]
      rfl
  · have positive : 0 < rank.val := Nat.pos_of_ne_zero zero
    obtain ⟨someDigits, inside⟩ := shortest_inInterval positive below
    obtain ⟨s, isText, value, strict⟩ := exists_spelling signs someDigits
    refine ⟨s, signed ?_, ?_, strict⟩
    · rw [← isText, write]
      simp only [Bool.false_eq_true, if_false]
      rw [if_neg finite, if_neg zero]
    · rw [← value] at inside
      rw [s.readFloat_signed, floatOfDecimal_of_inInterval positive below s.coefficient_lt inside]

end Notation

end LayeredFiles.Number
