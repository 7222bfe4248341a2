import LayeredFiles.Proofs.Text.Codec
import Mathlib.Data.List.Forall2
/-
Module: LayeredFiles.Proofs.Text.Inverse
Layer: Proofs
Purpose: encoding and decoding undo each other in every encoding that has a name. Bytes that were read are
  those that are written for the text, apart from the byte order mark: three encodings write one always and
  accept texts without it or with another one. So the bytes come back just if they begin with the mark that
  is written. In the other direction every text that was written is read back.
Main exports: Encoding.IsSound, Encoding.mark, Encoding.decode_encode, Encoding.encode_decode,
  Encoding.encode_unifyNewlines_eq_iff
-/

namespace LayeredFiles.Text

/-! ### Characters and bytes by number -/

theorem toNat_charOfNat {n : Nat} (valid : n.isValidChar) : (Char.ofNat n).toNat = n := by
  rw [Char.ofNat, dif_pos valid]
  rfl

/-- A byte that has the number wanted. -/
theorem ofNat_eq_of_toNat {b : UInt8} {n : Nat} (same : n = b.toNat) : UInt8.ofNat n = b := by
  rw [same, UInt8.ofNat_toNat]

/-- What is read with a character in front has that character in front. -/
theorem Decoded.cons_eq_ok_iff {c : Char} {later : Decoded} {s : List Char} :
    Decoded.cons c later = .ok s ↔ ∃ rest, later = .ok rest ∧ s = c :: rest := by
  cases later with
  | error fault => simp [Decoded.cons]
  | ok rest => simp [Decoded.cons, eq_comm]

/-! ### UTF-8 -/

theorem of_isContinuation {b : UInt8} (continues : isContinuation b = true) :
    0x80 ≤ b.toNat ∧ b.toNat < 0xC0 := by
  simp only [isContinuation, Bool.and_eq_true, decide_eq_true_eq] at continues
  exact ⟨UInt8.le_iff_toNat_le.1 continues.1, UInt8.lt_iff_toNat_lt.1 continues.2⟩

/-- The bounds of a second byte, which depend on the first. -/
theorem of_secondIsValid {lead second : UInt8} (valid : secondIsValid lead second = true) :
    0x80 ≤ second.toNat ∧ second.toNat < 0xC0 ∧ (lead.toNat = 0xE0 → 0xA0 ≤ second.toNat) ∧
      (lead.toNat = 0xED → second.toNat < 0xA0) ∧ (lead.toNat = 0xF0 → 0x90 ≤ second.toNat) ∧
      (lead.toNat = 0xF4 → second.toNat < 0x90) := by
  simp only [secondIsValid, Bool.and_eq_true, Bool.not_eq_true', Bool.and_eq_false_iff,
    decide_eq_false_iff_not, UInt8.lt_iff_toNat_lt, UInt8.le_iff_toNat_le] at valid
  obtain ⟨⟨⟨⟨continues, e0⟩, ed⟩, f0⟩, f4⟩ := valid
  obtain ⟨low, high⟩ := of_isContinuation continues
  have is : ∀ b : UInt8, lead.toNat = b.toNat → lead = b := fun b => UInt8.toNat_inj.1
  refine ⟨low, high, ?_, ?_, ?_, ?_⟩
  · intro same
    exact Nat.not_lt.1 (e0.resolve_left (not_not_intro (is 0xE0 same)))
  · intro same
    exact Nat.not_le.1 (ed.resolve_left (not_not_intro (is 0xED same)))
  · intro same
    exact Nat.not_lt.1 (f0.resolve_left (not_not_intro (is 0xF0 same)))
  · intro same
    exact Nat.not_le.1 (f4.resolve_left (not_not_intro (is 0xF4 same)))

section Forms

variable {lead second third fourth : UInt8}

/-- The first byte of a longer form, in numbers. -/
theorem of_leads (leads : ¬(decide (lead < 0xC2) || decide (0xF5 ≤ lead)) = true) :
    0xC2 ≤ lead.toNat ∧ lead.toNat < 0xF5 := by
  rw [Bool.or_eq_true, decide_eq_true_eq, decide_eq_true_eq, not_or] at leads
  constructor
  · exact Nat.not_lt.1 (fun below => leads.1 (UInt8.lt_iff_toNat_lt.2 below))
  · exact Nat.not_le.1 (fun above => leads.2 (UInt8.le_iff_toNat_le.2 above))

theorem utf8Bytes_one (isOne : lead.toNat < 0x80) : utf8Bytes (Char.ofNat lead.toNat) = [lead] := by
  have number : (Char.ofNat lead.toNat).toNat = lead.toNat := toNat_charOfNat (Or.inl (by omega))
  simp only [utf8Bytes, number, if_pos isOne, UInt8.ofNat_toNat]

theorem utf8Bytes_two (low : 0xC2 ≤ lead.toNat) (isTwo : lead.toNat < 0xE0)
    (valid : secondIsValid lead second = true) :
    utf8Bytes (Char.ofNat ((lead.toNat - 0xC0) * 64 + lowBits second)) = [lead, second] := by
  obtain ⟨low', high', -⟩ := of_secondIsValid valid
  rw [lowBits]
  generalize isNumber : (lead.toNat - 0xC0) * 64 + second.toNat % 64 = n
  have number : (Char.ofNat n).toNat = n := toNat_charOfNat (Or.inl (by omega))
  simp only [utf8Bytes, number]
  rw [if_neg (by omega), if_pos (by omega), ofNat_eq_of_toNat (b := lead) (by omega),
    ofNat_eq_of_toNat (b := second) (by omega)]

theorem utf8Bytes_three (low : 0xE0 ≤ lead.toNat) (isThree : lead.toNat < 0xF0)
    (valid : secondIsValid lead second = true) (valid' : isContinuation third = true) :
    utf8Bytes (Char.ofNat ((lead.toNat - 0xE0) * 4096 + lowBits second * 64 + lowBits third)) =
      [lead, second, third] := by
  obtain ⟨secondLow, secondHigh, notShort, noSurrogate, -⟩ := of_secondIsValid valid
  obtain ⟨thirdLow, thirdHigh⟩ := of_isContinuation valid'
  rw [lowBits, lowBits]
  generalize isNumber : (lead.toNat - 0xE0) * 4096 + second.toNat % 64 * 64 + third.toNat % 64 = n
  have isValid : n.isValidChar := by
    show n < 0xD800 ∨ 0xDFFF < n ∧ n < 0x110000
    omega
  have number : (Char.ofNat n).toNat = n := toNat_charOfNat isValid
  simp only [utf8Bytes, number]
  rw [if_neg (by omega), if_neg (by omega), if_pos (by omega),
    ofNat_eq_of_toNat (b := lead) (by omega), ofNat_eq_of_toNat (b := second) (by omega),
    ofNat_eq_of_toNat (b := third) (by omega)]

theorem utf8Bytes_four (low : 0xF0 ≤ lead.toNat) (high : lead.toNat < 0xF5)
    (valid : secondIsValid lead second = true) (valid' : isContinuation third = true)
    (valid'' : isContinuation fourth = true) :
    utf8Bytes (Char.ofNat ((lead.toNat - 0xF0) * 262144 + lowBits second * 4096 +
      lowBits third * 64 + lowBits fourth)) = [lead, second, third, fourth] := by
  obtain ⟨secondLow, secondHigh, -, -, notShort, notLarge⟩ := of_secondIsValid valid
  obtain ⟨thirdLow, thirdHigh⟩ := of_isContinuation valid'
  obtain ⟨fourthLow, fourthHigh⟩ := of_isContinuation valid''
  rw [lowBits, lowBits, lowBits]
  generalize isNumber : (lead.toNat - 0xF0) * 262144 + second.toNat % 64 * 4096 +
    third.toNat % 64 * 64 + fourth.toNat % 64 = n
  have isValid : n.isValidChar := by
    show n < 0xD800 ∨ 0xDFFF < n ∧ n < 0x110000
    omega
  have number : (Char.ofNat n).toNat = n := toNat_charOfNat isValid
  simp only [utf8Bytes, number]
  rw [if_neg (by omega), if_neg (by omega), if_neg (by omega),
    ofNat_eq_of_toNat (b := lead) (by omega), ofNat_eq_of_toNat (b := second) (by omega),
    ofNat_eq_of_toNat (b := third) (by omega), ofNat_eq_of_toNat (b := fourth) (by omega)]

end Forms

/-- What is read as UTF-8 is the form of what was read: no character has a second form. -/
theorem flatMap_utf8Bytes_of_decodeUtf8 {pos : Nat} {bytes : List UInt8} {s : List Char}
    (read : decodeUtf8 pos bytes = .ok s) : s.flatMap utf8Bytes = bytes := by
  -- On the forms that are read; in every other case the reading fails.
  fun_induction decodeUtf8 pos bytes generalizing s with
  | case1 =>
      cases read
      rfl
  | case2 pos lead rest isOne ih =>
      obtain ⟨s, later, rfl⟩ := Decoded.cons_eq_ok_iff.1 read
      rw [List.flatMap_cons, utf8Bytes_one (UInt8.lt_iff_toNat_lt.1 isOne), ih later]
      rfl
  | case6 pos lead _ leads second rest valid isTwo ih =>
      obtain ⟨s, later, rfl⟩ := Decoded.cons_eq_ok_iff.1 read
      rw [List.flatMap_cons, utf8Bytes_two (of_leads leads).1 (UInt8.lt_iff_toNat_lt.1 isTwo)
        (by simpa using valid), ih later]
      rfl
  | case9 pos lead _ leads second valid notTwo third rest valid' isThree ih =>
      obtain ⟨s, later, rfl⟩ := Decoded.cons_eq_ok_iff.1 read
      have low : 0xE0 ≤ lead.toNat := Nat.not_lt.1 (fun below => notTwo (UInt8.lt_iff_toNat_lt.2 below))
      rw [List.flatMap_cons, utf8Bytes_three low (UInt8.lt_iff_toNat_lt.1 isThree)
        (by simpa using valid) (by simpa using valid'), ih later]
      rfl
  | case12 pos lead _ leads second valid _ third valid' notThree fourth rest valid'' ih =>
      obtain ⟨s, later, rfl⟩ := Decoded.cons_eq_ok_iff.1 read
      have low : 0xF0 ≤ lead.toNat :=
        Nat.not_lt.1 (fun below => notThree (UInt8.lt_iff_toNat_lt.2 below))
      rw [List.flatMap_cons, utf8Bytes_four low (of_leads leads).2 (by simpa using valid)
        (by simpa using valid') (by simpa using valid''), ih later]
      rfl
  | case3 | case4 | case5 | case7 | case8 | case10 | case11 => cases read

/-- UTF-8 is read just from the forms of the characters. -/
theorem decodeUtf8_eq_ok_iff {pos : Nat} {bytes : List UInt8} {s : List Char} :
    decodeUtf8 pos bytes = .ok s ↔ s.flatMap utf8Bytes = bytes := by
  constructor
  · exact flatMap_utf8Bytes_of_decodeUtf8
  · rintro rfl
    exact decodeUtf8_utf8Bytes pos s

/-! ### Words -/

/-- Two bytes are the word that they make up. -/
theorem wordBytes_wordOf (bigEndian : Bool) (a b : UInt8) :
    wordBytes bigEndian (wordOf bigEndian a b) = [a, b] := by
  have aSmall := a.toNat_lt
  have bSmall := b.toNat_lt
  cases bigEndian with
  | true =>
      have low : UInt8.ofNat (a.toNat * 256 + b.toNat) = b := by
        rw [← UInt8.toNat_inj, UInt8.toNat_ofNat']
        omega
      simp only [wordBytes, wordOf, if_true, low, ofNat_eq_of_toNat (b := a)
        (show (a.toNat * 256 + b.toNat) / 256 = a.toNat by omega)]
  | false =>
      have low : UInt8.ofNat (b.toNat * 256 + a.toNat) = a := by
        rw [← UInt8.toNat_inj, UInt8.toNat_ofNat']
        omega
      simp only [wordBytes, wordOf, Bool.false_eq_true, if_false, low, ofNat_eq_of_toNat (b := b)
        (show (b.toNat * 256 + a.toNat) / 256 = b.toNat by omega)]

theorem wordOf_lt (bigEndian : Bool) (a b : UInt8) : wordOf bigEndian a b < 0x10000 := by
  have aSmall := a.toNat_lt
  have bSmall := b.toNat_lt
  unfold wordOf
  split <;> omega

/-- A small number is two bytes that make it up. -/
theorem exists_wordBytes_eq (bigEndian : Bool) {n : Nat} (small : n < 0x10000) :
    ∃ a b, wordBytes bigEndian n = [a, b] ∧ wordOf bigEndian a b = n := by
  have high : (UInt8.ofNat (n / 256)).toNat = n / 256 := toNat_ofNat_of_lt (by omega)
  have low : (UInt8.ofNat n).toNat = n % 256 := UInt8.toNat_ofNat'
  cases bigEndian with
  | true =>
      refine ⟨UInt8.ofNat (n / 256), UInt8.ofNat n, rfl, ?_⟩
      simp only [wordOf, if_true, high, low]
      omega
  | false =>
      refine ⟨UInt8.ofNat n, UInt8.ofNat (n / 256), rfl, ?_⟩
      simp only [wordOf, Bool.false_eq_true, if_false, high, low]
      omega

/-! ### UTF-16 -/

section Words

variable {bigEndian : Bool} {a b c d : UInt8}

/-- A word that is no surrogate is the form of its character. -/
theorem utf16Bytes_one
    (isOne : wordOf bigEndian a b < 0xD800 ∨ 0xE000 ≤ wordOf bigEndian a b) :
    utf16Bytes bigEndian (Char.ofNat (wordOf bigEndian a b)) = [a, b] := by
  have small := wordOf_lt bigEndian a b
  have number : (Char.ofNat (wordOf bigEndian a b)).toNat = wordOf bigEndian a b := by
    apply toNat_charOfNat
    show wordOf bigEndian a b < 0xD800 ∨ 0xDFFF < wordOf bigEndian a b ∧ _ < 0x110000
    omega
  simp only [utf16Bytes, number, if_pos small]
  exact wordBytes_wordOf bigEndian a b

/-- A pair of surrogates is the form of its character. -/
theorem utf16Bytes_pair (low : 0xD800 ≤ wordOf bigEndian a b) (high : wordOf bigEndian a b < 0xDC00)
    (low' : 0xDC00 ≤ wordOf bigEndian c d) (high' : wordOf bigEndian c d < 0xE000) :
    utf16Bytes bigEndian (Char.ofNat (0x10000 + (wordOf bigEndian a b - 0xD800) * 1024 +
      (wordOf bigEndian c d - 0xDC00))) = [a, b] ++ [c, d] := by
  have form := wordBytes_wordOf bigEndian a b
  have form' := wordBytes_wordOf bigEndian c d
  generalize wordOf bigEndian a b = n at low high form ⊢
  generalize wordOf bigEndian c d = m at low' high' form' ⊢
  generalize isNumber : 0x10000 + (n - 0xD800) * 1024 + (m - 0xDC00) = k
  have number : (Char.ofNat k).toNat = k := by
    apply toNat_charOfNat
    right
    omega
  have first : 0xD800 + (k - 0x10000) / 1024 = n := by omega
  have second : 0xDC00 + (k - 0x10000) % 1024 = m := by omega
  simp only [utf16Bytes, number, first, second, form, form']
  rw [if_neg (by omega)]

end Words

/-- What is read as UTF-16 is the form of what was read. -/
theorem flatMap_utf16Bytes_of_decodeUtf16 {bigEndian : Bool} {pos : Nat} {bytes : List UInt8}
    {s : List Char} (read : decodeUtf16 bigEndian pos bytes = .ok s) :
    s.flatMap (utf16Bytes bigEndian) = bytes := by
  fun_induction decodeUtf16 bigEndian pos bytes generalizing s with
  | case1 =>
      cases read
      rfl
  | case3 pos a b rest n isOne =>
      rename_i ih
      obtain ⟨s, later, rfl⟩ := Decoded.cons_eq_ok_iff.1 read
      rw [Bool.or_eq_true, decide_eq_true_eq, decide_eq_true_eq] at isOne
      rw [List.flatMap_cons, utf16Bytes_one isOne, ih later]
      rfl
  | case5 pos a b n notOne isHigh c d rest m isLow =>
      rename_i ih
      obtain ⟨s, later, rfl⟩ := Decoded.cons_eq_ok_iff.1 read
      simp only [Bool.or_eq_true, decide_eq_true_eq, not_or] at notOne
      simp only [Bool.and_eq_true, decide_eq_true_eq] at isLow
      rw [List.flatMap_cons, utf16Bytes_pair (Nat.not_lt.1 notOne.1) (Nat.not_le.1 isHigh) isLow.1
        isLow.2, ih later]
      rfl
  | case2 | case4 | case6 | case7 => cases read

/-- The form of a character is read as that character. -/
theorem decodeUtf16_append (bigEndian : Bool) (pos : Nat) (c : Char) (rest : List UInt8) :
    ∃ next, decodeUtf16 bigEndian pos (utf16Bytes bigEndian c ++ rest) =
      .cons c (decodeUtf16 bigEndian next rest) := by
  have valid := toNat_of_char c
  by_cases small : c.toNat < 0x10000
  · obtain ⟨a, b, form, back⟩ := exists_wordBytes_eq bigEndian small
    have isOne : (decide (c.toNat < 0xD800) || decide (0xE000 ≤ c.toNat)) = true := by
      rw [Bool.or_eq_true, decide_eq_true_eq, decide_eq_true_eq]
      omega
    refine ⟨pos + 2, ?_⟩
    simp only [utf16Bytes, if_pos small, form, List.cons_append, List.nil_append]
    rw [decodeUtf16.eq_def]
    simp only [back, if_pos isOne, Char.ofNat_toNat]
  · obtain ⟨a, b, form, back⟩ := exists_wordBytes_eq bigEndian
      (show 0xD800 + (c.toNat - 0x10000) / 1024 < 0x10000 by omega)
    obtain ⟨a', b', form', back'⟩ := exists_wordBytes_eq bigEndian
      (show 0xDC00 + (c.toNat - 0x10000) % 1024 < 0x10000 by omega)
    have notOne : ¬(decide (0xD800 + (c.toNat - 0x10000) / 1024 < 0xD800) ||
        decide (0xE000 ≤ 0xD800 + (c.toNat - 0x10000) / 1024)) = true := by
      rw [Bool.or_eq_true, decide_eq_true_eq, decide_eq_true_eq]
      omega
    have isHigh : ¬0xDC00 ≤ 0xD800 + (c.toNat - 0x10000) / 1024 := by omega
    have isLow : (decide (0xDC00 ≤ 0xDC00 + (c.toNat - 0x10000) % 1024) &&
        decide (0xDC00 + (c.toNat - 0x10000) % 1024 < 0xE000)) = true := by
      rw [Bool.and_eq_true, decide_eq_true_eq, decide_eq_true_eq]
      omega
    have number : 0x10000 + (0xD800 + (c.toNat - 0x10000) / 1024 - 0xD800) * 1024 +
        (0xDC00 + (c.toNat - 0x10000) % 1024 - 0xDC00) = c.toNat := by
      omega
    refine ⟨pos + 4, ?_⟩
    simp only [utf16Bytes, if_neg small, form, form', List.cons_append, List.nil_append]
    rw [decodeUtf16.eq_def]
    simp only [back, back', if_neg notOne, if_neg isHigh, if_pos isLow, number, Char.ofNat_toNat]

/-- UTF-16 is read just from the forms of the characters. -/
theorem decodeUtf16_eq_ok_iff {bigEndian : Bool} {pos : Nat} {bytes : List UInt8} {s : List Char} :
    decodeUtf16 bigEndian pos bytes = .ok s ↔ s.flatMap (utf16Bytes bigEndian) = bytes := by
  constructor
  · exact flatMap_utf16Bytes_of_decodeUtf16
  · rintro rfl
    induction s generalizing pos with
    | nil => rfl
    | cons c rest ih =>
        obtain ⟨next, read⟩ := decodeUtf16_append bigEndian pos c (rest.flatMap (utf16Bytes bigEndian))
        rw [List.flatMap_cons, read, ih]
        rfl

/-! ### UTF-32 -/

/-- The number of four bytes, as two words. -/
def longOf (bigEndian : Bool) (a b c d : UInt8) : Nat :=
  if bigEndian then wordOf true a b * 65536 + wordOf true c d
  else wordOf false c d * 65536 + wordOf false a b

/-- Four bytes whose number is a character are the form of that character. -/
theorem utf32Bytes_longOf {bigEndian : Bool} {a b c d : UInt8}
    (valid : (longOf bigEndian a b c d).isValidChar) :
    utf32Bytes bigEndian (Char.ofNat (longOf bigEndian a b c d)) = [a, b, c, d] := by
  have number := toNat_charOfNat valid
  cases bigEndian with
  | true =>
      have first := wordOf_lt true a b
      have second := wordOf_lt true c d
      have high : longOf true a b c d / 65536 = wordOf true a b := by
        simp only [longOf, if_true]
        omega
      have low : longOf true a b c d % 65536 = wordOf true c d := by
        simp only [longOf, if_true]
        omega
      simp only [utf32Bytes, number, high, low, if_true, wordBytes_wordOf]
      rfl
  | false =>
      have first := wordOf_lt false a b
      have second := wordOf_lt false c d
      have high : longOf false a b c d / 65536 = wordOf false c d := by
        simp only [longOf, Bool.false_eq_true, if_false]
        omega
      have low : longOf false a b c d % 65536 = wordOf false a b := by
        simp only [longOf, Bool.false_eq_true, if_false]
        omega
      simp only [utf32Bytes, number, high, low, Bool.false_eq_true, if_false, wordBytes_wordOf]
      rfl

/-- The form of a character is four bytes that make up its number. -/
theorem exists_utf32Bytes_eq (bigEndian : Bool) (c : Char) :
    ∃ a b d e, utf32Bytes bigEndian c = [a, b, d, e] ∧ longOf bigEndian a b d e = c.toNat := by
  have valid := toNat_of_char c
  obtain ⟨a, b, low, back⟩ := exists_wordBytes_eq bigEndian
    (show c.toNat % 65536 < 0x10000 by omega)
  obtain ⟨d, e, high, back'⟩ := exists_wordBytes_eq bigEndian
    (show c.toNat / 65536 < 0x10000 by omega)
  cases bigEndian with
  | true =>
      refine ⟨d, e, a, b, ?_, ?_⟩
      · simp only [utf32Bytes, low, high, if_true]
        rfl
      · simp only [longOf, if_true, back, back']
        omega
  | false =>
      refine ⟨a, b, d, e, ?_, ?_⟩
      · simp only [utf32Bytes, low, high, Bool.false_eq_true, if_false]
        rfl
      · simp only [longOf, Bool.false_eq_true, if_false, back, back']
        omega

/-- What is read as UTF-32 is the form of what was read. -/
theorem flatMap_utf32Bytes_of_decodeUtf32 {bigEndian : Bool} {pos : Nat} {bytes : List UInt8}
    {s : List Char} (read : decodeUtf32 bigEndian pos bytes = .ok s) :
    s.flatMap (utf32Bytes bigEndian) = bytes := by
  fun_induction decodeUtf32 bigEndian pos bytes generalizing s with
  | case1 =>
      cases read
      rfl
  | case4 pos a b c d rest n inRange noSurrogate =>
      rename_i ih
      obtain ⟨s, later, rfl⟩ := Decoded.cons_eq_ok_iff.1 read
      have isLong : n = longOf bigEndian a b c d := rfl
      rw [Bool.and_eq_true, decide_eq_true_eq, decide_eq_true_eq] at noSurrogate
      have valid : (longOf bigEndian a b c d).isValidChar := by
        rw [isLong] at inRange noSurrogate
        show longOf bigEndian a b c d < 0xD800 ∨ 0xDFFF < longOf bigEndian a b c d ∧ _ < 0x110000
        omega
      rw [List.flatMap_cons, isLong, utf32Bytes_longOf valid, ih later]
      rfl
  | case2 | case3 | case5 => cases read

/-- The form of a character is read as that character. -/
theorem decodeUtf32_append (bigEndian : Bool) (pos : Nat) (c : Char) (rest : List UInt8) :
    decodeUtf32 bigEndian pos (utf32Bytes bigEndian c ++ rest) =
      .cons c (decodeUtf32 bigEndian (pos + 4) rest) := by
  have valid := toNat_of_char c
  obtain ⟨a, b, d, e, form, number⟩ := exists_utf32Bytes_eq bigEndian c
  have inRange : ¬0x110000 ≤ c.toNat := by omega
  have noSurrogate : ¬(decide (0xD800 ≤ c.toNat) && decide (c.toNat < 0xE000)) = true := by
    rw [Bool.and_eq_true, decide_eq_true_eq, decide_eq_true_eq]
    omega
  rw [form]
  simp only [List.cons_append, List.nil_append]
  rw [decodeUtf32.eq_def]
  simp only [longOf] at number
  simp only [number, if_neg inRange, if_neg noSurrogate, Char.ofNat_toNat]

/-- UTF-32 is read just from the forms of the characters. -/
theorem decodeUtf32_eq_ok_iff {bigEndian : Bool} {pos : Nat} {bytes : List UInt8} {s : List Char} :
    decodeUtf32 bigEndian pos bytes = .ok s ↔ s.flatMap (utf32Bytes bigEndian) = bytes := by
  constructor
  · exact flatMap_utf32Bytes_of_decodeUtf32
  · rintro rfl
    induction s generalizing pos with
    | nil => rfl
    | cons c rest ih =>
        rw [List.flatMap_cons, decodeUtf32_append, ih]
        rfl

/-! ### One byte for each character -/

section Single

variable {codec reason : String} {byte? : Char → Option UInt8} {char? : UInt8 → Option Char}

theorem encodeEach_eq_ok_iff {start : Nat} {s : List Char} {bytes : List UInt8} :
    encodeEach codec reason byte? start s = .ok bytes ↔
      List.Forall₂ (fun c b => byte? c = some b) s bytes := by
  induction s generalizing start bytes with
  | nil => simp [encodeEach, eq_comm]
  | cons c rest ih =>
      rw [List.forall₂_cons_left_iff]
      cases found : byte? c with
      | none => simp [encodeEach, found]
      | some b =>
          cases later : encodeEach codec reason byte? (start + 1) rest with
          | error fault =>
              have noBytes : ∀ bytes, ¬List.Forall₂ (fun c b => byte? c = some b) rest bytes := by
                intro bytes related
                have written : encodeEach codec reason byte? (start + 1) rest = .ok bytes := ih.2 related
                rw [later] at written
                cases written
              simp [encodeEach, found, later, noBytes]
          | ok others =>
              have others_iff : ∀ bytes, List.Forall₂ (fun c b => byte? c = some b) rest bytes ↔
                  others = bytes := by
                intro bytes
                rw [← ih, later, Except.ok.injEq]
              simp [encodeEach, found, later, others_iff, eq_comm]

theorem decodeEach_eq_ok_iff {pos : Nat} {s : List Char} {bytes : List UInt8} :
    decodeEach codec reason char? pos bytes = .ok s ↔
      List.Forall₂ (fun b c => char? b = some c) bytes s := by
  induction bytes generalizing pos s with
  | nil => simp [decodeEach, eq_comm]
  | cons b rest ih =>
      rw [List.forall₂_cons_left_iff]
      cases found : char? b with
      | none => simp [decodeEach, found]
      | some c =>
          simp only [decodeEach, found, Decoded.cons_eq_ok_iff, ih, Option.some.injEq]
          constructor
          · rintro ⟨others, related, rfl⟩
            exact ⟨c, others, rfl, related, rfl⟩
          · rintro ⟨_, others, rfl, related, rfl⟩
            exact ⟨others, related, rfl⟩

/-- If single bytes and characters belong together, so do strings of them. -/
theorem decodeEach_iff_encodeEach {pos start : Nat} {s : List Char} {bytes : List UInt8}
    {codec' reason' : String} (inverse : ∀ c b, byte? c = some b ↔ char? b = some c) :
    decodeEach codec reason char? pos bytes = .ok s ↔
      encodeEach codec' reason' byte? start s = .ok bytes := by
  rw [decodeEach_eq_ok_iff, encodeEach_eq_ok_iff]
  constructor
  · intro read
    exact read.flip.imp (fun c b isChar => (inverse c b).2 isChar)
  · intro written
    exact written.flip.imp (fun b c isByte => (inverse c b).1 isByte)

end Single

/-- A character below the bound, as a byte. -/
theorem byteBelow_eq_some_iff {bound : Nat} (small : bound ≤ 256) (c : Char) (b : UInt8) :
    byteBelow bound c = some b ↔ b.toNat < bound ∧ Char.ofNat b.toNat = c := by
  rw [byteBelow]
  constructor
  · intro written
    by_cases below : c.toNat < bound
    · rw [if_pos below, Option.some.injEq] at written
      rw [← written, toNat_ofNat_of_lt (Nat.lt_of_lt_of_le below small)]
      exact ⟨below, Char.ofNat_toNat c⟩
    · rw [if_neg below] at written
      cases written
  · rintro ⟨below, rfl⟩
    have number : (Char.ofNat b.toNat).toNat = b.toNat := by
      apply toNat_charOfNat
      left
      have small' := b.toNat_lt
      omega
    rw [number, if_pos below, UInt8.ofNat_toNat]

/-- What a code page must be to be undone: its entries are characters beyond ASCII and differ. -/
structure CodePage.IsSound (page : CodePage) : Prop where
  length_le : page.upperHalf.length ≤ 128
  entries : ∀ n ∈ page.upperHalf, n = 0 ∨ 0x80 ≤ n ∧ n.isValidChar
  distinct : page.upperHalf.Pairwise (fun m n => m = n → n = 0)

theorem isSound_windows1252 : windows1252.IsSound where
  length_le := by decide +kernel
  entries := by decide +kernel
  distinct := by decide +kernel

theorem isSound_latin9 : latin9.IsSound where
  length_le := by decide +kernel
  entries := by decide +kernel
  distinct := by decide +kernel

namespace CodePage.IsSound

variable {page : CodePage} {c : Char} {b : UInt8}

/-- The place of an entry is the only one. -/
theorem findIdx?_eq_some_iff (sound : page.IsSound) {n i : Nat} (nonzero : n ≠ 0) :
    page.upperHalf.findIdx? (· == n) = some i ↔ page.upperHalf[i]? = some n := by
  rw [List.findIdx?_eq_some_iff_getElem, List.getElem?_eq_some_iff]
  constructor
  · rintro ⟨inside, same, -⟩
    exact ⟨inside, by simpa using same⟩
  · rintro ⟨inside, same⟩
    refine ⟨inside, by simpa using same, ?_⟩
    intro j before same'
    have equal : page.upperHalf[j] = page.upperHalf[i] := by
      rw [same]
      simpa using same'
    have zero := List.pairwise_iff_getElem.1 sound.distinct j i _ inside before equal
    exact nonzero (same.symm.trans zero)

theorem decode?_of_low (isLow : b.toNat < 0x80) : page.decode? b = some (Char.ofNat b.toNat) :=
  if_pos (UInt8.lt_iff_toNat_lt.2 isLow)

/-- The character of an upper byte is the entry at its place, if there is one. -/
theorem decode?_of_high (sound : page.IsSound) (isHigh : 0x80 ≤ b.toNat) :
    page.decode? b = some c ↔ 0x80 ≤ c.toNat ∧ page.upperHalf[b.toNat - 0x80]? = some c.toNat := by
  have notLow : ¬b < 0x80 := fun isLow => Nat.not_lt.2 isHigh (UInt8.lt_iff_toNat_lt.1 isLow)
  rw [CodePage.decode?, if_neg notLow]
  cases entry : page.upperHalf[b.toNat - 0x80]? with
  | none => simp
  | some n =>
      rcases sound.entries n (List.mem_of_getElem? entry) with rfl | ⟨large, valid⟩
      · simp only [reduceCtorEq, Option.some.injEq, false_iff, not_and]
        omega
      · have number : (Char.ofNat n).toNat = n := toNat_charOfNat valid
        split
        · rename_i isZero
          simp only [Option.some.injEq] at isZero
          omega
        · rename_i m _ same
          cases same
          rw [Option.some.injEq, Option.some.injEq]
          constructor
          · rintro rfl
            exact ⟨by omega, number.symm⟩
          · rintro ⟨-, rfl⟩
            exact Char.ofNat_toNat c
        · rename_i missing
          cases missing

/-- A character and a byte of a code page belong together either way. -/
theorem encode?_eq_some_iff (sound : page.IsSound) :
    page.encode? c = some b ↔ page.decode? b = some c := by
  by_cases isLow : b.toNat < 0x80
  · rw [decode?_of_low isLow, Option.some.injEq]
    constructor
    · intro written
      by_cases ascii : c.toNat < 0x80
      · rw [CodePage.encode?, if_pos ascii, Option.some.injEq] at written
        rw [← written, toNat_ofNat_of_lt (by omega), Char.ofNat_toNat]
      · -- The byte of a later character is no lower one.
        rw [CodePage.encode?, if_neg ascii, Option.map_eq_some_iff] at written
        obtain ⟨i, place, rfl⟩ := written
        have inside := (List.findIdx?_eq_some_iff_getElem.1 place).1
        have short := sound.length_le
        rw [toNat_ofNat_of_lt (by omega)] at isLow
        omega
    · rintro rfl
      have number : (Char.ofNat b.toNat).toNat = b.toNat := toNat_charOfNat (Or.inl (by omega))
      rw [CodePage.encode?, number, if_pos isLow, UInt8.ofNat_toNat]
  · rw [sound.decode?_of_high (Nat.not_lt.1 isLow)]
    constructor
    · intro written
      by_cases ascii : c.toNat < 0x80
      · rw [CodePage.encode?, if_pos ascii, Option.some.injEq] at written
        rw [← written, toNat_ofNat_of_lt (by omega)] at isLow
        exact absurd ascii isLow
      · rw [CodePage.encode?, if_neg ascii, Option.map_eq_some_iff] at written
        obtain ⟨i, place, rfl⟩ := written
        have inside := (List.findIdx?_eq_some_iff_getElem.1 place).1
        have short := sound.length_le
        rw [toNat_ofNat_of_lt (by omega), Nat.add_sub_cancel]
        exact ⟨by omega, (sound.findIdx?_eq_some_iff (by omega)).1 place⟩
    · rintro ⟨large, entry⟩
      have place := (sound.findIdx?_eq_some_iff (show c.toNat ≠ 0 by omega)).2 entry
      rw [CodePage.encode?, if_neg (by omega), place, Option.map_some, Option.some.injEq]
      exact ofNat_eq_of_toNat (by omega)

end CodePage.IsSound

/-! ### Encodings -/

namespace Encoding

/-- The byte order mark that an encoding writes. -/
def mark : Encoding → List UInt8
  | .utf8Marked => [0xEF, 0xBB, 0xBF]
  | .utf16Marked => [0xFF, 0xFE]
  | .utf32Marked => [0xFF, 0xFE, 0, 0]
  | _ => []

/-- An encoding whose table, if it has one, can be undone. -/
def IsSound : Encoding → Prop
  | .page table => table.IsSound
  | _ => True

/-- No spelling belongs to two encodings. -/
theorem disjoint_encodingNames :
    encodingNames.Pairwise (fun entry other => ∀ spelling ∈ entry.2, spelling ∉ other.2) := by
  decide

/-- An encoding is found by each of its spellings. -/
theorem find?_of_spelled {encoding : Encoding} {names : List String}
    (listed : (encoding, names) ∈ encodingNames) {name : String} (spelled : plainName name ∈ names) :
    Encoding.find? name = .ok encoding := by
  obtain ⟨front, back, whole⟩ := List.append_of_mem listed
  have disjoint := disjoint_encodingNames
  rw [whole, List.pairwise_append] at disjoint
  have others : ∀ entry ∈ front, ¬entry.2.contains (plainName name) = true := by
    intro entry mem isOther
    exact disjoint.2.2 entry mem (encoding, names) List.mem_cons_self _ (List.contains_iff_mem.1 isOther)
      spelled
  have found : encodingNames.find? (fun entry => entry.2.contains (plainName name)) =
      some (encoding, names) := by
    rw [whole, List.find?_append, List.find?_eq_none.2 others, Option.none_or]
    exact List.find?_cons_of_pos (List.contains_iff_mem.2 spelled)
  simp only [Encoding.find?, found]

/-- The encodings that have a name. -/
theorem isSound_of_find? {name : String} {encoding : Encoding}
    (found : Encoding.find? name = .ok encoding) : encoding.IsSound := by
  have all : ∀ entry ∈ encodingNames, entry.1.IsSound := by
    simp [encodingNames, IsSound, isSound_windows1252, isSound_latin9]
  unfold Encoding.find? at found
  simp only at found
  split at found
  · rename_i entry isEntry
    cases found
    exact all entry (List.mem_of_find?_eq_some isEntry)
  · cases found

variable {encoding : Encoding} {s : List Char} {bytes rest : List UInt8}

/-- Bytes that begin with the mark are read as a text just if they are written for it. -/
theorem decode_mark_append_iff (sound : encoding.IsSound) :
    encoding.decode (encoding.mark ++ rest) = .ok s ↔
      encoding.encode s = .ok (encoding.mark ++ rest) := by
  cases encoding with
  | utf8 =>
      show decodeUtf8 0 rest = .ok s ↔ _ = Except.ok ([] ++ rest)
      rw [decodeUtf8_eq_ok_iff, encode, Except.ok.injEq, List.nil_append]
  | utf8Marked =>
      show decodeUtf8 0 rest = .ok s ↔ _
      rw [decodeUtf8_eq_ok_iff, encode, Except.ok.injEq, mark, List.append_cancel_left_eq]
  | latin1 =>
      have same : Encoding.latin1.decode rest = .ok s ↔
          decodeEach "" "" (fun b => some (Char.ofNat b.toNat)) 0 rest = .ok s := by
        rw [decode, Except.ok.injEq, decodeEach_eq_ok_iff, ← List.forall₂_eq_eq_eq,
          List.forall₂_map_left_iff]
        simp only [Option.some.injEq]
      apply same.trans
      apply decodeEach_iff_encodeEach
      intro c b
      rw [byteBelow_eq_some_iff (Nat.le_refl 256), Option.some.injEq]
      exact and_iff_right b.toNat_lt
  | ascii =>
      apply decodeEach_iff_encodeEach
      intro c b
      have below : b < 0x80 ↔ b.toNat < 128 := UInt8.lt_iff_toNat_lt
      rw [byteBelow_eq_some_iff (by omega), Option.ite_none_right_eq_some, Option.some.injEq, below]
  | utf16Marked =>
      show decodeUtf16 false 2 rest = .ok s ↔ _
      rw [decodeUtf16_eq_ok_iff, encode, Except.ok.injEq, mark, List.append_cancel_left_eq]
  | utf16 bigEndian =>
      show decodeUtf16 bigEndian 0 rest = .ok s ↔ _ = Except.ok ([] ++ rest)
      rw [decodeUtf16_eq_ok_iff, encode, Except.ok.injEq, List.nil_append]
  | utf32Marked =>
      show decodeUtf32 false 4 rest = .ok s ↔ _
      rw [decodeUtf32_eq_ok_iff, encode, Except.ok.injEq, mark, List.append_cancel_left_eq]
  | utf32 bigEndian =>
      show decodeUtf32 bigEndian 0 rest = .ok s ↔ _ = Except.ok ([] ++ rest)
      rw [decodeUtf32_eq_ok_iff, encode, Except.ok.injEq, List.nil_append]
  | page table => exact decodeEach_iff_encodeEach (fun c b => sound.encode?_eq_some_iff)

theorem mark_prefix_of_encode (written : encoding.encode s = .ok bytes) :
    encoding.mark <+: bytes := by
  cases encoding with
  | utf8Marked | utf16Marked | utf32Marked =>
      cases written
      exact List.prefix_append _ _
  | utf8 | latin1 | ascii | utf16 | utf32 | page => exact List.nil_prefix

/-- What was written is read back. -/
theorem decode_encode (sound : encoding.IsSound) (written : encoding.encode s = .ok bytes) :
    encoding.decode bytes = .ok s := by
  obtain ⟨rest, rfl⟩ := mark_prefix_of_encode written
  exact (decode_mark_append_iff sound).2 written

/-- What was read can be written. The bytes are those that were read just if these begin with the mark. -/
theorem encode_decode (sound : encoding.IsSound) (read : encoding.decode bytes = .ok s) :
    ∃ written, encoding.encode s = .ok written ∧ (written = bytes ↔ encoding.mark <+: bytes) := by
  have same : ∀ written, encoding.encode s = .ok written →
      (written = bytes ↔ encoding.mark <+: bytes) := by
    intro written isWritten
    constructor
    · rintro rfl
      exact mark_prefix_of_encode isWritten
    · rintro ⟨rest, rfl⟩
      have again := (decode_mark_append_iff sound).1 read
      exact Except.ok.inj (isWritten.symm.trans again)
  suffices isWritten : ∃ written, encoding.encode s = .ok written by
    obtain ⟨written, isWritten⟩ := isWritten
    exact ⟨written, isWritten, same written isWritten⟩
  cases encoding with
  | utf8 | utf8Marked | utf16Marked | utf16 | utf32Marked | utf32 => exact ⟨_, rfl⟩
  | latin1 | ascii | page => exact ⟨bytes, (decode_mark_append_iff sound).1 read⟩

end Encoding

/-! ### Line ends -/

theorem not_mem_unifyNewlines (s : List Char) : '\r' ∉ unifyNewlines s := by
  fun_induction unifyNewlines s with
  | case1 => exact List.not_mem_nil
  | case2 rest ih =>
      rw [List.mem_cons, not_or]
      exact ⟨by decide, ih⟩
  | case3 c rest _ ih =>
      rw [List.mem_cons, not_or]
      refine ⟨?_, ih⟩
      split
      · decide
      · rename_i other
        exact fun same => other same.symm

/-- Unifying the line ends changes the texts that have a carriage return. -/
theorem unifyNewlines_eq_self_iff {s : List Char} : unifyNewlines s = s ↔ '\r' ∉ s := by
  constructor
  · intro same
    rw [← same]
    exact not_mem_unifyNewlines s
  · exact unifyNewlines_eq_self

/-- Bytes that are read as a text and written again with unified line ends are the same just if the text
    has no carriage return and the bytes begin with the mark of the encoding. -/
theorem Encoding.encode_unifyNewlines_eq_iff {encoding : Encoding} {s : List Char}
    {bytes written : List UInt8} (sound : encoding.IsSound) (read : encoding.decode bytes = .ok s)
    (isWritten : encoding.encode (unifyNewlines s) = .ok written) :
    written = bytes ↔ '\r' ∉ s ∧ encoding.mark <+: bytes := by
  constructor
  · rintro rfl
    have again := decode_encode sound isWritten
    have same : unifyNewlines s = s := Except.ok.inj (again.symm.trans read)
    exact ⟨unifyNewlines_eq_self_iff.1 same, mark_prefix_of_encode isWritten⟩
  · rintro ⟨noReturn, marked⟩
    obtain ⟨written', isWritten', same⟩ := encode_decode sound read
    rw [unifyNewlines_eq_self noReturn, isWritten', Except.ok.injEq] at isWritten
    rw [← isWritten]
    exact same.2 marked

end LayeredFiles.Text
