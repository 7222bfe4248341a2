import LayeredFiles.Text.Codec
import LayeredFiles.Text.Newline
import Mathlib.Data.List.Basic
/-
Module: LayeredFiles.Proofs.Text.Codec
Layer: Proofs
Purpose: what is written in UTF-8 is read back. The form of a character is read as that character, whatever
  stands behind it; there is one case for each length of the form, and the bounds on the second byte are
  those of code points that are characters.
Main exports: Text.decodeUtf8_append, Text.decodeUtf8_utf8Bytes, Text.find?_utf8
-/

namespace LayeredFiles.Text

/-! ### Bytes as numbers -/

theorem toNat_ofNat_of_lt {n : Nat} (small : n < 256) : (UInt8.ofNat n).toNat = n := by
  rw [UInt8.toNat_ofNat', Nat.mod_eq_of_lt small]

/-- A character is no surrogate and has a code point. -/
theorem toNat_of_char (c : Char) : c.toNat < 0xD800 ∨ (0xDFFF < c.toNat ∧ c.toNat < 0x110000) :=
  c.valid

theorem isContinuation_of {b : UInt8} (low : 0x80 ≤ b.toNat) (high : b.toNat < 0xC0) :
    isContinuation b = true := by
  simp only [isContinuation, Bool.and_eq_true, decide_eq_true_eq, UInt8.le_iff_toNat_le,
    UInt8.lt_iff_toNat_lt]
  exact ⟨low, high⟩

/-- The second byte may follow the first one. -/
theorem secondIsValid_of {lead second : UInt8} (low : 0x80 ≤ second.toNat)
    (high : second.toNat < 0xC0) (notShort : lead.toNat = 0xE0 → 0xA0 ≤ second.toNat)
    (noSurrogate : lead.toNat = 0xED → second.toNat < 0xA0)
    (notShort' : lead.toNat = 0xF0 → 0x90 ≤ second.toNat)
    (notLarge : lead.toNat = 0xF4 → second.toNat < 0x90) : secondIsValid lead second = true := by
  have same : ∀ b : UInt8, lead = b → lead.toNat = b.toNat := by
    rintro b rfl
    rfl
  simp only [secondIsValid, isContinuation_of low high, Bool.true_and, Bool.and_eq_true,
    Bool.not_eq_true', Bool.and_eq_false_iff, decide_eq_false_iff_not, UInt8.lt_iff_toNat_lt,
    UInt8.le_iff_toNat_le]
  refine ⟨⟨⟨?_, ?_⟩, ?_⟩, ?_⟩
  · by_cases here : lead = 0xE0
    · exact Or.inr (Nat.not_lt.2 (notShort (same _ here)))
    · exact Or.inl here
  · by_cases here : lead = 0xED
    · exact Or.inr (Nat.not_le.2 (noSurrogate (same _ here)))
    · exact Or.inl here
  · by_cases here : lead = 0xF0
    · exact Or.inr (Nat.not_lt.2 (notShort' (same _ here)))
    · exact Or.inl here
  · by_cases here : lead = 0xF4
    · exact Or.inr (Nat.not_le.2 (notLarge (same _ here)))
    · exact Or.inl here

/-! ### Forms of characters -/

section Forms

variable {lead second third fourth : UInt8}

theorem decodeUtf8_one (pos : Nat) (rest : List UInt8) (isOne : lead.toNat < 0x80) :
    decodeUtf8 pos (lead :: rest) = .cons (Char.ofNat lead.toNat) (decodeUtf8 (pos + 1) rest) := by
  have low : lead < 0x80 := UInt8.lt_iff_toNat_lt.2 isOne
  rw [decodeUtf8.eq_def]
  simp only [if_pos low]

/-- The first byte of a longer form. -/
theorem leads_of (low : 0xC2 ≤ lead.toNat) (high : lead.toNat < 0xF5) :
    ¬lead < 0x80 ∧ ¬(decide (lead < 0xC2) || decide (0xF5 ≤ lead)) = true := by
  have notLow : ¬lead.toNat < 0x80 := by omega
  have notShort : ¬lead.toNat < 0xC2 := by omega
  have notLarge : ¬0xF5 ≤ lead.toNat := by omega
  refine ⟨fun below => notLow (UInt8.lt_iff_toNat_lt.1 below), fun out => ?_⟩
  rw [Bool.or_eq_true, decide_eq_true_eq, decide_eq_true_eq] at out
  rcases out with below | above
  · exact notShort (UInt8.lt_iff_toNat_lt.1 below)
  · exact notLarge (UInt8.le_iff_toNat_le.1 above)

theorem decodeUtf8_two (pos : Nat) (rest : List UInt8) (low : 0xC2 ≤ lead.toNat)
    (isTwo : lead.toNat < 0xE0) (valid : secondIsValid lead second = true) :
    decodeUtf8 pos (lead :: second :: rest) =
      .cons (Char.ofNat ((lead.toNat - 0xC0) * 64 + lowBits second))
        (decodeUtf8 (pos + 2) rest) := by
  obtain ⟨notOne, leads⟩ := leads_of low (by omega)
  have two : lead < 0xE0 := UInt8.lt_iff_toNat_lt.2 isTwo
  rw [decodeUtf8.eq_def]
  simp only [if_neg notOne, if_neg leads, valid, Bool.not_true, Bool.false_eq_true, if_false,
    if_pos two]

theorem decodeUtf8_three (pos : Nat) (rest : List UInt8) (low : 0xE0 ≤ lead.toNat)
    (isThree : lead.toNat < 0xF0) (valid : secondIsValid lead second = true)
    (valid' : isContinuation third = true) :
    decodeUtf8 pos (lead :: second :: third :: rest) =
      .cons (Char.ofNat ((lead.toNat - 0xE0) * 4096 + lowBits second * 64 + lowBits third))
        (decodeUtf8 (pos + 3) rest) := by
  have above : 0xC2 ≤ lead.toNat := by omega
  obtain ⟨notOne, leads⟩ := leads_of above (by omega)
  have notTwo : ¬lead < 0xE0 := fun below => Nat.not_lt.2 low (UInt8.lt_iff_toNat_lt.1 below)
  have three : lead < 0xF0 := UInt8.lt_iff_toNat_lt.2 isThree
  rw [decodeUtf8.eq_def]
  simp only [if_neg notOne, if_neg leads, valid, valid', Bool.not_true, Bool.false_eq_true,
    if_false, if_neg notTwo, if_pos three]

theorem decodeUtf8_four (pos : Nat) (rest : List UInt8) (low : 0xF0 ≤ lead.toNat)
    (high : lead.toNat < 0xF5) (valid : secondIsValid lead second = true)
    (valid' : isContinuation third = true) (valid'' : isContinuation fourth = true) :
    decodeUtf8 pos (lead :: second :: third :: fourth :: rest) =
      .cons (Char.ofNat ((lead.toNat - 0xF0) * 262144 + lowBits second * 4096 +
        lowBits third * 64 + lowBits fourth)) (decodeUtf8 (pos + 4) rest) := by
  have above : 0xC2 ≤ lead.toNat := by omega
  obtain ⟨notOne, leads⟩ := leads_of above high
  have notTwo : ¬lead < 0xE0 := by
    intro below
    have := UInt8.lt_iff_toNat_lt.1 below
    simp at this
    omega
  have notThree : ¬lead < 0xF0 := fun below => Nat.not_lt.2 low (UInt8.lt_iff_toNat_lt.1 below)
  rw [decodeUtf8.eq_def]
  simp only [if_neg notOne, if_neg leads, valid, valid', valid'', Bool.not_true,
    Bool.false_eq_true, if_false, if_neg notTwo, if_neg notThree]

end Forms

/-! ### Reading back -/

/-- The form of a character is read as that character. -/
theorem decodeUtf8_append (pos : Nat) (c : Char) (rest : List UInt8) :
    ∃ next, decodeUtf8 pos (utf8Bytes c ++ rest) = .cons c (decodeUtf8 next rest) := by
  have valid := toNat_of_char c
  have back : Char.ofNat c.toNat = c := Char.ofNat_toNat c
  unfold utf8Bytes
  generalize c.toNat = n at valid back
  simp only
  -- One case for each length of the form.
  split
  · rename_i isOne
    have lead := toNat_ofNat_of_lt (show n < 256 by omega)
    refine ⟨pos + 1, (decodeUtf8_one pos rest (by omega)).trans ?_⟩
    rw [lead, back]
  · split
    · rename_i _ isTwo
      have lead := toNat_ofNat_of_lt (show 0xC0 + n / 64 < 256 by omega)
      have second := toNat_ofNat_of_lt (show 0x80 + n % 64 < 256 by omega)
      refine ⟨pos + 2, (decodeUtf8_two pos rest (by omega) (by omega) ?_).trans ?_⟩
      · apply secondIsValid_of <;> omega
      · rw [lowBits, lead, second,
          show (0xC0 + n / 64 - 0xC0) * 64 + (0x80 + n % 64) % 64 = n by omega, back]
    · split
      · rename_i _ _ isThree
        have lead := toNat_ofNat_of_lt (show 0xE0 + n / 4096 < 256 by omega)
        have second := toNat_ofNat_of_lt (show 0x80 + n / 64 % 64 < 256 by omega)
        have third := toNat_ofNat_of_lt (show 0x80 + n % 64 < 256 by omega)
        refine ⟨pos + 3, (decodeUtf8_three pos rest (by omega) (by omega) ?_ ?_).trans ?_⟩
        · apply secondIsValid_of <;> omega
        · apply isContinuation_of <;> omega
        · rw [lowBits, lowBits, lead, second, third,
            show (0xE0 + n / 4096 - 0xE0) * 4096 + (0x80 + n / 64 % 64) % 64 * 64 +
              (0x80 + n % 64) % 64 = n by omega, back]
      · have lead := toNat_ofNat_of_lt (show 0xF0 + n / 262144 < 256 by omega)
        have second := toNat_ofNat_of_lt (show 0x80 + n / 4096 % 64 < 256 by omega)
        have third := toNat_ofNat_of_lt (show 0x80 + n / 64 % 64 < 256 by omega)
        have fourth := toNat_ofNat_of_lt (show 0x80 + n % 64 < 256 by omega)
        refine ⟨pos + 4, (decodeUtf8_four pos rest (by omega) (by omega) ?_ ?_ ?_).trans ?_⟩
        · apply secondIsValid_of <;> omega
        · apply isContinuation_of <;> omega
        · apply isContinuation_of <;> omega
        · rw [lowBits, lowBits, lowBits, lead, second, third, fourth,
            show (0xF0 + n / 262144 - 0xF0) * 262144 + (0x80 + n / 4096 % 64) % 64 * 4096 +
              (0x80 + n / 64 % 64) % 64 * 64 + (0x80 + n % 64) % 64 = n by omega, back]

/-- What is written in UTF-8 is read back. -/
theorem decodeUtf8_utf8Bytes (pos : Nat) (s : List Char) :
    decodeUtf8 pos (s.flatMap utf8Bytes) = .ok s := by
  induction s generalizing pos with
  | nil => rfl
  | cons c rest ih =>
      obtain ⟨next, read⟩ := decodeUtf8_append pos c (rest.flatMap utf8Bytes)
      rw [List.flatMap_cons, read, ih]
      rfl

/-- The usual name of UTF-8 is one of its names. -/
theorem find?_utf8 : Encoding.find? "utf-8" = .ok .utf8 := rfl

end LayeredFiles.Text
