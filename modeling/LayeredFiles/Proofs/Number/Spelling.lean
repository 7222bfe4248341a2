import LayeredFiles.Number.Reading
import LayeredFiles.Proofs.Number.Shortest
/-
Module: LayeredFiles.Proofs.Number.Spelling
Layer: Proofs
Purpose: spellings of decimals without a sign: whole digits, and behind them a fraction and an exponent
  if there are any. The reader takes the whole of a spelling and takes its digits for what they are.
Main exports: IsDigits, takeDigits_append, Spelling, Spelling.takeDecimal?_text, Spelling.readFloat_signed
-/

namespace LayeredFiles.Number

open Text (digitValue? digitZeros)

/-! ### Digits -/

/-- The digits from zero to nine and nothing else. -/
def IsDigits (s : List Char) : Prop := ∀ c ∈ s, c.isDigit = true

theorem IsDigits.append {s t : List Char} (left : IsDigits s) (right : IsDigits t) :
    IsDigits (s ++ t) := by
  intro c mem
  rcases List.mem_append.1 mem with mem | mem
  · exact left c mem
  · exact right c mem

theorem isDigits_decimalDigits (n : Nat) : IsDigits (decimalDigits n) :=
  fun _ mem => Nat.isDigit_of_mem_toDigits (by decide) (by decide) mem

theorem isDigits_replicate_zero (count : Nat) : IsDigits (List.replicate count '0') := by
  intro c mem
  rw [List.eq_of_mem_replicate mem]
  rfl

theorem toNat_of_isDigit {c : Char} (digit : c.isDigit = true) : 48 ≤ c.toNat ∧ c.toNat ≤ 57 := by
  rw [Char.isDigit, Bool.and_eq_true, decide_eq_true_eq, decide_eq_true_eq] at digit
  exact ⟨digit.1, digit.2⟩

/-- A digit is not any of some characters that are none. -/
theorem ne_of_isDigit {c d : Char} (digit : c.isDigit = true) (other : d.isDigit = false) : c ≠ d := by
  rintro rfl
  rw [digit] at other
  cases other

theorem digitBelow?_of_isDigit {c : Char} (digit : c.isDigit = true) :
    digitBelow? 10 c = some (c.toNat - '0'.toNat) := by
  obtain ⟨low, high⟩ := toNat_of_isDigit digit
  have notLower : ¬('a' ≤ c ∧ c ≤ 'z') := by
    rintro ⟨lower, -⟩
    have : 97 ≤ c.toNat := lower
    omega
  have notUpper : ¬('A' ≤ c ∧ c ≤ 'Z') := by
    rintro ⟨upper, -⟩
    have : 65 ≤ c.toNat := upper
    omega
  have inFirst : (decide (48 ≤ c.toNat) && decide (c.toNat < 48 + 10)) = true := by
    rw [Bool.and_eq_true, decide_eq_true_eq, decide_eq_true_eq]
    omega
  have found : digitZeros.find? (fun z => decide (z ≤ c.toNat) && decide (c.toNat < z + 10)) =
      some 48 := List.find?_cons_of_pos inFirst
  have value : digitValue? c = some (c.toNat - 48) := by
    rw [digitValue?, found]
  have small : decide (c.toNat - 48 < 10) = true := by
    rw [decide_eq_true_eq]
    omega
  rw [digitBelow?]
  simp only [if_neg notLower, if_neg notUpper, Bool.and_eq_true, decide_eq_true_eq, value]
  exact if_pos small

theorem isNumberBlank_of_isDigit {c : Char} (digit : c.isDigit = true) : isNumberBlank c = false := by
  obtain ⟨low, high⟩ := toNat_of_isDigit digit
  have notSpace : c ≠ ' ' := ne_of_isDigit digit (by decide)
  have notControl : ¬c.toNat ≤ 0x0D := by omega
  rw [isNumberBlank, if_pos (by omega)]
  simp [notSpace, notControl]

theorem toLower_of_isDigit {c : Char} (digit : c.isDigit = true) : c.toLower = c := by
  obtain ⟨-, high⟩ := toNat_of_isDigit digit
  refine dif_neg ?_
  rintro ⟨upper, -⟩
  have : 65 ≤ c.toNat := upper
  omega

/-- A text without blanks has none around it. -/
theorem trimNumber_eq_self {s : List Char} (noBlanks : ∀ c ∈ s, isNumberBlank c = false) :
    trimNumber s = s := by
  have kept : ∀ t : List Char, (∀ c ∈ t, isNumberBlank c = false) → t.dropWhile isNumberBlank = t := by
    intro t free
    cases t with
    | nil => rfl
    | cons c rest => exact List.dropWhile_cons_of_neg (by simp [free c List.mem_cons_self])
  rw [trimNumber, kept s noBlanks,
    kept s.reverse (fun c mem => noBlanks c (List.mem_reverse.1 mem)), List.reverse_reverse]

/-- What may follow digits without going on with them. -/
def EndsDigits (rest : List Char) : Prop :=
  ∀ c, rest.head? = some c → digitBelow? 10 c = none ∧ c ≠ '_' ∧ c.isDigit = false

/-- Digits are taken up to where they end. -/
theorem takeDigits_append {s rest : List Char} (digits : IsDigits s) (ends : EndsDigits rest)
    (run : DigitRun) :
    takeDigits run (s ++ rest) =
      (⟨run.count + s.length, Nat.ofDigitChars 10 s run.value⟩, rest) := by
  induction s generalizing run with
  | nil =>
      -- The rest is empty or starts with a character that is neither a digit nor an underscore.
      cases rest with
      | nil => rfl
      | cons c rest =>
          obtain ⟨none, noScore, -⟩ := ends c rfl
          cases rest with
          | nil => simp [takeDigits, none]
          | cons next rest => simp [takeDigits, none, noScore]
  | cons c s ih =>
      have digit := digitBelow?_of_isDigit (digits c List.mem_cons_self)
      have others := ih (fun d mem => digits d (List.mem_cons_of_mem c mem))
        ⟨run.count + 1, run.value * 10 + (c.toNat - '0'.toNat)⟩
      rw [Nat.ofDigitChars_cons, List.length_cons, Nat.mul_comm 10, Nat.add_comm s.length,
        ← Nat.add_assoc, List.cons_append]
      cases following : s ++ rest with
      | nil =>
          obtain ⟨rfl, rfl⟩ := List.append_eq_nil_iff.1 following
          simp [takeDigits, digit]
      | cons next more =>
          rw [following] at others
          simp only [takeDigits, digit]
          exact others

/-! ### Spellings -/

/-- The minus of a negative number. -/
def minus (negative : Bool) : List Char := if negative then ['-'] else []

theorem mem_minus {negative : Bool} {c : Char} (mem : c ∈ minus negative) : c = '-' := by
  cases negative with
  | false => cases mem
  | true => exact List.mem_singleton.1 mem

/-- A decimal without a sign. A fraction or an exponent without digits is not there. -/
structure Spelling where
  whole : List Char
  fraction : List Char
  /-- The sign of the exponent. -/
  sign : List Char
  exponent : List Char
  nonempty : whole ≠ []
  isWhole : IsDigits whole
  isFraction : IsDigits fraction
  isSign : sign = [] ∨ sign = ['+'] ∨ sign = ['-']
  isExponent : IsDigits exponent

namespace Spelling

variable (s : Spelling)

def fractionText : List Char := if s.fraction = [] then [] else '.' :: s.fraction

def exponentText : List Char := if s.exponent = [] then [] else 'e' :: s.sign ++ s.exponent

def text : List Char := s.whole ++ s.fractionText ++ s.exponentText

/-- The exponent with its sign. -/
def power : ℤ :=
  if s.sign = ['-'] then -(Nat.ofDigitChars 10 s.exponent 0 : ℤ)
  else Nat.ofDigitChars 10 s.exponent 0

/-- What a reader takes from the text. -/
def decimal : DecimalText where
  coefficient := Nat.ofDigitChars 10 (s.whole ++ s.fraction) 0
  length := s.whole.length + s.fraction.length
  places := s.fraction.length
  exponent := s.power

/-! ### Reading -/

theorem endsDigits_nil : EndsDigits [] := nofun

theorem endsDigits_cons {c : Char} (rest : List Char)
    (other : digitBelow? 10 c = none ∧ c ≠ '_' ∧ c.isDigit = false) : EndsDigits (c :: rest) := by
  intro d first
  cases first
  exact other

theorem endsDigits_exponentText : EndsDigits s.exponentText := by
  unfold exponentText
  split
  · exact endsDigits_nil
  · exact endsDigits_cons _ (by decide)

theorem endsDigits_fractionText : EndsDigits (s.fractionText ++ s.exponentText) := by
  unfold fractionText
  split
  · exact s.endsDigits_exponentText
  · exact endsDigits_cons _ (by decide)

theorem takeSign_of_isDigit {c : Char} (digit : c.isDigit = true) (rest : List Char) :
    takeSign (c :: rest) = (false, c :: rest) := by
  unfold takeSign
  split
  · rename_i same
    cases same
    cases digit
  · rename_i same
    cases same
    cases digit
  · rfl

/-- The exponent is read as it was written, and one that is not there leaves the decimal as it is. -/
theorem takeExponent_exponentText {d : DecimalText} (none : d.exponent = 0) :
    takeExponent d s.exponentText = ({ d with exponent := s.power }, []) := by
  unfold exponentText
  by_cases empty : s.exponent = []
  · have zero : s.power = 0 := by
      rw [power, empty]
      split
      · rfl
      · rfl
    rw [if_pos empty, zero, ← none]
    rfl
  · have signed : takeSign (s.sign ++ s.exponent) = (decide (s.sign = ['-']), s.exponent) := by
      rcases s.isSign with none | plus | minus
      · obtain ⟨c, rest, digits⟩ := List.exists_cons_of_ne_nil empty
        have digit : c.isDigit = true := s.isExponent c (by simp [digits])
        rw [none, digits, List.nil_append, takeSign_of_isDigit digit]
        rfl
      · rw [plus]
        rfl
      · rw [minus]
        rfl
    have digits := takeDigits_append s.isExponent endsDigits_nil ⟨0, 0⟩
    rw [List.append_nil, Nat.zero_add] at digits
    have someDigits : ¬s.exponent.length = 0 := fun none => empty (List.length_eq_zero_iff.1 none)
    rw [if_neg empty, List.cons_append, takeExponent, if_pos (by decide), signed]
    simp only [digits, if_neg someDigits, decide_eq_true_eq]
    rfl

/-- The fraction goes on with the whole digits. -/
theorem takeFraction_text (run : DigitRun) :
    takeFraction run (s.fractionText ++ s.exponentText) =
      (⟨Nat.ofDigitChars 10 s.fraction run.value, run.count + s.fraction.length,
        s.fraction.length, 0⟩, s.exponentText) := by
  by_cases empty : s.fraction = []
  · have noPoint : s.exponentText.head? ≠ some '.' := by
      unfold exponentText
      split
      · simp
      · simp
    rw [fractionText, if_pos empty, List.nil_append, empty]
    unfold takeFraction
    split
    · rename_i point
      rw [point] at noPoint
      exact absurd rfl noPoint
    · rfl
  · have digits := takeDigits_append s.isFraction s.endsDigits_exponentText ⟨0, 0⟩
    have coefficient : Nat.ofDigitChars 10 s.fraction run.value =
        run.value * Nat.pow 10 s.fraction.length + Nat.ofDigitChars 10 s.fraction 0 := by
      rw [Nat.ofDigitChars_eq_ofDigitChars_zero, Nat.mul_comm]
      rfl
    rw [fractionText, if_neg empty, List.cons_append, takeFraction, digits, coefficient]
    simp only [Nat.zero_add]

/-- A reader takes the whole text. -/
theorem takeDecimal?_text : takeDecimal? s.text = some (s.decimal, []) := by
  have digits := takeDigits_append s.isWhole s.endsDigits_fractionText ⟨0, 0⟩
  have someDigits : ¬0 + s.whole.length + s.fraction.length = 0 := by
    have := List.length_pos_iff.2 s.nonempty
    omega
  have joined : Nat.ofDigitChars 10 s.fraction (Nat.ofDigitChars 10 s.whole 0) =
      Nat.ofDigitChars 10 (s.whole ++ s.fraction) 0 := (Nat.ofDigitChars_append 0).symm
  rw [text, List.append_assoc, takeDecimal?, digits]
  simp only [takeFraction_text, if_neg someDigits, takeExponent_exponentText]
  rw [decimal, joined, Nat.zero_add]

/-- Every character is a digit, a point, a sign or the mark of the exponent. -/
theorem mem_text {c : Char} (mem : c ∈ s.text) : c.isDigit = true ∨ c ∈ ['.', 'e', '+', '-'] := by
  have signs : ∀ d ∈ s.sign, d ∈ ['.', 'e', '+', '-'] := by
    intro d inSign
    rcases s.isSign with none | plus | minus
    · rw [none] at inSign
      cases inSign
    · rw [plus, List.mem_singleton] at inSign
      simp [inSign]
    · rw [minus, List.mem_singleton] at inSign
      simp [inSign]
  rw [text, List.mem_append, List.mem_append] at mem
  rcases mem with (inWhole | inFraction) | inExponent
  · exact Or.inl (s.isWhole c inWhole)
  · unfold fractionText at inFraction
    split at inFraction
    · cases inFraction
    · rcases List.mem_cons.1 inFraction with rfl | inDigits
      · exact Or.inr (by simp)
      · exact Or.inl (s.isFraction c inDigits)
  · unfold exponentText at inExponent
    split at inExponent
    · cases inExponent
    · rw [List.cons_append, List.mem_cons, List.mem_append] at inExponent
      rcases inExponent with rfl | inSign | inDigits
      · exact Or.inr (by simp)
      · exact Or.inr (signs c inSign)
      · exact Or.inl (s.isExponent c inDigits)

/-- The text starts with a digit. -/
theorem exists_text_eq : ∃ c rest, s.text = c :: rest ∧ c.isDigit = true := by
  obtain ⟨c, rest, whole⟩ := List.exists_cons_of_ne_nil s.nonempty
  refine ⟨c, rest ++ s.fractionText ++ s.exponentText, ?_, s.isWhole c (by simp [whole])⟩
  rw [text, whole]
  rfl

/-- A number with or without a minus in front. It has no blanks and is no word. -/
theorem readFloat_signed (negative : Bool) :
    readFloat (minus negative ++ s.text) = some (floatOfDecimal negative s.decimal) := by
  have noBlanks : trimNumber (minus negative ++ s.text) = minus negative ++ s.text := by
    have none : ∀ d ∈ ['.', 'e', '+', '-'], isNumberBlank d = false := by
      simp [isNumberBlank]
    refine trimNumber_eq_self (fun c mem => ?_)
    rcases List.mem_append.1 mem with inSign | inText
    · exact none c (by simp [mem_minus inSign])
    · rcases s.mem_text inText with digit | other
      · exact isNumberBlank_of_isDigit digit
      · exact none c other
  obtain ⟨c, rest, isText, digit⟩ := s.exists_text_eq
  have signed : takeSign (minus negative ++ s.text) = (negative, s.text) := by
    cases negative with
    | false => rw [minus, if_neg Bool.false_ne_true, List.nil_append, isText, takeSign_of_isDigit digit]
    | true => rfl
  have noWord : ∀ {d : Char} {word : List Char}, d.isDigit = false →
      String.ofList (s.text.map Char.toLower) ≠ String.ofList (d :: word) := by
    intro d word other same
    rw [String.ofList_inj, isText, List.map_cons, toLower_of_isDigit digit] at same
    exact ne_of_isDigit digit other (List.cons.inj same).1
  have notInf : String.ofList (s.text.map Char.toLower) ≠ "inf" := noWord (by decide)
  have notInfinity : String.ofList (s.text.map Char.toLower) ≠ "infinity" := noWord (by decide)
  have notNan : String.ofList (s.text.map Char.toLower) ≠ "nan" := noWord (by decide)
  rw [readFloat, noBlanks, signed]
  simp only [notInf, notInfinity, notNan, takeDecimal?_text, decide_false, Bool.or_self,
    Bool.false_eq_true, if_false]

end Spelling

end LayeredFiles.Number
