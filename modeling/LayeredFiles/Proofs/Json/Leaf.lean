import LayeredFiles.Json.Read
import LayeredFiles.Json.Write
import LayeredFiles.Proofs.Number.RoundTrip
/-
Module: LayeredFiles.Proofs.Json.Leaf
Layer: Proofs
Purpose: the parts of a document that have no parts. A text is read back from its escapes, one character
  after the other; a number is read back from its digits, as far as whole numbers have no more of them than
  the limit allows.
Main exports: Json.readText_writeChars, Json.takeNumber?_text, Json.takeNumber?_minus, Json.EndsValue
-/

namespace LayeredFiles.Json

open Number

/-! ### Texts -/

theorem digitBelow?_hexDigit {n : Nat} (small : n < 16) :
    digitBelow? 16 (Text.hexDigit n) = some n ∧ (Text.hexDigit n).toNat < 0x80 := by
  have all : ∀ n : Fin 16, digitBelow? 16 (Text.hexDigit n.val) = some n.val ∧
      (Text.hexDigit n.val).toNat < 0x80 := by decide
  exact all ⟨n, small⟩

/-- A control character is read back from its number. -/
theorem takeNumberedChar_control {c : Char} (control : c.toNat < 0x20) {more : List Char}
    (goesOn : more ≠ []) :
    takeNumberedChar ('0' :: '0' :: Text.hexDigit (c.toNat / 16) :: Text.hexDigit (c.toNat % 16) ::
      more) = some (c, more) := by
  obtain ⟨first, rest, rfl⟩ := List.exists_cons_of_ne_nil goesOn
  obtain ⟨high, high'⟩ := digitBelow?_hexDigit (show c.toNat / 16 < 16 by omega)
  obtain ⟨low, low'⟩ := digitBelow?_hexDigit (show c.toNat % 16 < 16 by omega)
  have zero : digitBelow? 16 '0' = some 0 := by decide
  have unit : takeUnit ('0' :: '0' :: Text.hexDigit (c.toNat / 16) ::
      Text.hexDigit (c.toNat % 16) :: first :: rest) = some (c.toNat, first :: rest) := by
    have digits : ['0', '0', Text.hexDigit (c.toNat / 16), Text.hexDigit (c.toNat % 16)].mapM
        (digitBelow? 16) = some [0, 0, c.toNat / 16, c.toNat % 16] := by
      simp only [List.mapM_cons, List.mapM_nil, zero, high, low]
      rfl
    simp [takeUnit, digits, high', low']
    omega
  have noHalf : ∀ isSecond, isHalf isSecond c.toNat = false := by
    intro isSecond
    cases isSecond <;> simp [isHalf] <;> omega
  have isChar : unitChar c.toNat = c := by
    rw [unitChar, noHalf, noHalf]
    exact Char.ofNat_toNat c
  rw [takeNumberedChar, unit]
  simp only [noHalf, isChar, Bool.not_false, if_true]

/-- The rest of a text behind one of its characters. -/
theorem bind_eq_map {α : Type} (x : Except Stop (List α × List Char)) (a : α) :
    (do let (found, rest) ← x; pure (a :: found, rest)) =
      x.map (fun found => (a :: found.1, found.2)) := by
  cases x <;> rfl

theorem readChars_letter (opening : List Char) (fuel : Nat) {letter c : Char}
    (isLetter : escapedLetters.lookup letter = some c) (notNumbered : letter ≠ 'u')
    (more : List Char) :
    readChars opening (fuel + 1) ('\\' :: letter :: more) =
      (readChars opening fuel more).map (fun found => (c :: found.1, found.2)) := by
  rw [readChars, isLetter]
  · exact bind_eq_map _ _
  · exact notNumbered

/-- The forms of characters: an escape of one letter, the number of a control character, or the character
    itself. -/
theorem writeChar_cases (c : Char) :
    (∃ letter, escapedLetters.lookup letter = some c ∧ letter ≠ 'u' ∧ letter ≠ '\r' ∧
      writeChar c = ['\\', letter]) ∨
    (c.toNat < 0x20 ∧ writeChar c =
      ['\\', 'u', '0', '0', Text.hexDigit (c.toNat / 16), Text.hexDigit (c.toNat % 16)]) ∨
    (c ≠ '"' ∧ c ≠ '\\' ∧ ¬c.toNat < 0x20 ∧ writeChar c = [c]) := by
  unfold writeChar
  split
  · rename_i quote
    exact Or.inl ⟨'"', by rw [quote]; rfl, by decide, by decide, rfl⟩
  split
  · rename_i backslash
    exact Or.inl ⟨'\\', by rw [backslash]; rfl, by decide, by decide, rfl⟩
  split
  · rename_i newLine
    exact Or.inl ⟨'n', by rw [newLine]; rfl, by decide, by decide, rfl⟩
  split
  · rename_i carriageReturn
    exact Or.inl ⟨'r', by rw [carriageReturn]; rfl, by decide, by decide, rfl⟩
  split
  · rename_i tab
    exact Or.inl ⟨'t', by rw [tab]; rfl, by decide, by decide, rfl⟩
  split
  · rename_i backspace
    exact Or.inl ⟨'b', by rw [backspace]; rfl, by decide, by decide, rfl⟩
  split
  · rename_i formFeed
    exact Or.inl ⟨'f', by rw [formFeed]; rfl, by decide, by decide, rfl⟩
  split
  · rename_i control
    exact Or.inr (Or.inl ⟨control, rfl⟩)
  · rename_i noQuote noBackslash _ _ _ _ _ shown
    exact Or.inr (Or.inr ⟨noQuote, noBackslash, shown, rfl⟩)

/-- A character is read back from its form, and reading goes on behind it. -/
theorem readChars_writeChar (opening : List Char) (fuel : Nat) (c : Char) {more : List Char}
    (goesOn : more ≠ []) :
    readChars opening (fuel + 1) (writeChar c ++ more) =
      (readChars opening fuel more).map (fun found => (c :: found.1, found.2)) := by
  rcases writeChar_cases c with ⟨letter, isLetter, notNumbered, -, form⟩ | ⟨control, form⟩ |
    ⟨noQuote, noBackslash, shown, form⟩
  · rw [form]
    exact readChars_letter opening fuel isLetter notNumbered more
  · have numbered := takeNumberedChar_control control goesOn
    rw [form]
    simp only [List.cons_append, List.nil_append]
    rw [readChars, numbered]
    exact bind_eq_map _ _
  · rw [form, List.singleton_append, readChars, if_neg shown]
    · exact bind_eq_map _ _
    · exact noQuote
    · exact fun same _ => noBackslash same
    · exact fun _ same _ => noBackslash same
    · exact fun _ _ same _ => noBackslash same

/-- The characters of a text are read back up to the closing quote. -/
theorem readChars_writeChars (opening : List Char) {fuel : Nat} (s rest : List Char)
    (enough : s.length < fuel) :
    readChars opening fuel (s.flatMap writeChar ++ '"' :: rest) = .ok (s, rest) := by
  induction s generalizing fuel with
  | nil =>
      obtain ⟨fuel, rfl⟩ : ∃ n, fuel = n + 1 := ⟨fuel - 1, by omega⟩
      rfl
  | cons c s ih =>
      rw [List.length_cons] at enough
      obtain ⟨fuel, rfl⟩ : ∃ n, fuel = n + 1 := ⟨fuel - 1, by omega⟩
      rw [List.flatMap_cons, List.append_assoc, readChars_writeChar opening fuel c (by simp),
        ih (by omega)]
      rfl

/-- A text is read back from its form, its opening quote being passed already. -/
theorem readText_writeChars (s rest : List Char) :
    readText (s.flatMap writeChar ++ '"' :: rest) = .ok (String.ofList s, rest) := by
  have each : ∀ c, 1 ≤ (writeChar c).length := by
    intro c
    rcases writeChar_cases c with ⟨letter, -, -, -, form⟩ | ⟨-, form⟩ | ⟨-, -, -, form⟩
    · simp [form]
    · simp [form]
    · simp [form]
  have enough : s.length < (s.flatMap writeChar ++ '"' :: rest).length + 1 := by
    have length : s.length ≤ (s.flatMap writeChar).length := by
      induction s with
      | nil => exact Nat.le_refl 0
      | cons c s ih =>
          have := each c
          rw [List.flatMap_cons, List.length_append, List.length_cons]
          omega
    rw [List.length_append]
    omega
  rw [readText, readChars_writeChars _ s rest enough]
  rfl

/-! ### Numbers -/

/-- Behind a value a document goes on with a comma or a new line, if it goes on. -/
def EndsValue (rest : List Char) : Prop := ∀ c, rest.head? = some c → c = ',' ∨ c = '\n'

/-- Digits are cut off where something else follows. -/
theorem takeWhile_digits {s rest : List Char} (digits : IsDigits s)
    (ends : ∀ c, rest.head? = some c → c.isDigit = false) :
    (s ++ rest).takeWhile Char.isDigit = s ∧ (s ++ rest).dropWhile Char.isDigit = rest := by
  rw [List.takeWhile_append_of_pos digits, List.dropWhile_append_of_pos digits]
  cases rest with
  | nil => simp
  | cons c rest =>
      have other := ends c rfl
      simp [other]

section Number

variable (s : Spelling) {rest : List Char}

theorem not_isDigit_of_endsValue (ends : EndsValue rest) :
    ∀ c, rest.head? = some c → c.isDigit = false := by
  intro c first
  rcases ends c first with rfl | rfl
  · rfl
  · rfl

/-- Behind the whole digits and the fraction there is no digit. -/
theorem head_exponentText_append (ends : EndsValue rest) :
    ∀ c, (s.exponentText ++ rest).head? = some c → c.isDigit = false ∧ c ≠ '.' := by
  intro c first
  by_cases empty : s.exponent = []
  · rw [Spelling.exponentText, if_pos empty, List.nil_append] at first
    rcases ends c first with rfl | rfl
    · exact ⟨rfl, by decide⟩
    · exact ⟨rfl, by decide⟩
  · rw [Spelling.exponentText, if_neg empty] at first
    cases first
    exact ⟨rfl, by decide⟩

theorem head_fractionText_append (ends : EndsValue rest) :
    ∀ c, (s.fractionText ++ (s.exponentText ++ rest)).head? = some c → c.isDigit = false := by
  intro c first
  by_cases empty : s.fraction = []
  · rw [Spelling.fractionText, if_pos empty, List.nil_append] at first
    exact (head_exponentText_append s ends c first).1
  · rw [Spelling.fractionText, if_neg empty] at first
    cases first
    rfl

theorem takeExponentText_text (ends : EndsValue rest) :
    takeExponentText (s.exponentText ++ rest) = (s.exponentText, rest) := by
  by_cases empty : s.exponent = []
  · rw [Spelling.exponentText, if_pos empty, List.nil_append]
    cases rest with
    | nil => rfl
    | cons c rest =>
        rcases ends c rfl with rfl | rfl
        · rfl
        · rfl
  · obtain ⟨d, digits, isExponent⟩ := List.exists_cons_of_ne_nil empty
    have digit : d.isDigit = true := s.isExponent d (by simp [isExponent])
    have notPlus : d ≠ '+' := ne_of_isDigit digit (by decide)
    have notMinus : d ≠ '-' := ne_of_isDigit digit (by decide)
    obtain ⟨taken, left⟩ := takeWhile_digits s.isExponent (not_isDigit_of_endsValue ends)
    rw [isExponent, List.cons_append] at taken left
    rw [Spelling.exponentText, if_neg empty, isExponent, List.cons_append, List.cons_append,
      List.append_assoc, List.cons_append]
    rcases s.isSign with none | plus | minus
    · simp [none, takeExponentText, notPlus, notMinus, digit, taken, left]
    · simp [plus, takeExponentText, digit, taken, left]
    · simp [minus, takeExponentText, digit, taken, left]

theorem takeFractionText_text (ends : EndsValue rest) :
    takeFractionText (s.fractionText ++ (s.exponentText ++ rest)) =
      (s.fractionText, s.exponentText ++ rest) := by
  have others := head_exponentText_append s ends
  by_cases empty : s.fraction = []
  · rw [Spelling.fractionText, if_pos empty, List.nil_append]
    generalize s.exponentText ++ rest = more at others ⊢
    unfold takeFractionText
    split
    · exact absurd rfl (others '.' rfl).2
    · rfl
  · obtain ⟨d, digits, isFraction⟩ := List.exists_cons_of_ne_nil empty
    have digit : d.isDigit = true := s.isFraction d (by simp [isFraction])
    obtain ⟨taken, left⟩ := takeWhile_digits s.isFraction (fun c first => (others c first).1)
    rw [isFraction, List.cons_append] at taken left
    rw [Spelling.fractionText, if_neg empty, isFraction, List.cons_append, List.cons_append,
      takeFractionText, if_pos digit, taken, left]

/-- The whole digits of a number: a zero alone, or all digits up to what follows. -/
def wholeDigits : List Char → List Char
  | '0' :: _ => ['0']
  | s => s.takeWhile Char.isDigit

theorem wholeDigits_append {whole : List Char} (digits : IsDigits whole) (nonempty : whole ≠ [])
    (noZeros : whole = ['0'] ∨ whole.head? ≠ some '0')
    (follows : ∀ c, rest.head? = some c → c.isDigit = false) :
    wholeDigits (whole ++ rest) = whole := by
  rcases noZeros with rfl | noZero
  · rfl
  · obtain ⟨c, more, rfl⟩ := List.exists_cons_of_ne_nil nonempty
    have notZero : c ≠ '0' := fun zero => noZero (congrArg some zero)
    have taken := (takeWhile_digits digits follows).1
    rw [List.cons_append] at taken ⊢
    simp [wholeDigits, notZero, taken]

/-- A number whose sign has been taken. -/
def takeUnsigned? (sign body : List Char) : Option (NumberText × List Char) :=
  if wholeDigits body = [] then none
  else
    let (fraction, rest) := takeFractionText (body.drop (wholeDigits body).length)
    let (exponent, rest) := takeExponentText rest
    some (⟨sign ++ wholeDigits body, fraction, exponent⟩, rest)

theorem takeNumber?_minus (negative : Bool) {d : Char} (notMinus : d ≠ '-') (rest : List Char) :
    takeNumber? (minus negative ++ d :: rest) = takeUnsigned? (minus negative) (d :: rest) := by
  cases negative with
  | true => rfl
  | false =>
      simp [minus, takeNumber?, notMinus]
      rfl

/-- The number at the front of a document is taken as a whole. -/
theorem takeNumber?_text (noZeros : s.whole = ['0'] ∨ s.whole.head? ≠ some '0') (negative : Bool)
    (ends : EndsValue rest) :
    takeNumber? (minus negative ++ s.text ++ rest) =
      some (⟨minus negative ++ s.whole, s.fractionText, s.exponentText⟩, rest) := by
  obtain ⟨d, more, isText, digit⟩ := s.exists_text_eq
  have notMinus : d ≠ '-' := ne_of_isDigit digit (by decide)
  have body : d :: (more ++ rest) = s.whole ++ (s.fractionText ++ (s.exponentText ++ rest)) := by
    rw [← List.cons_append, ← isText, Spelling.text, List.append_assoc, List.append_assoc]
  have whole := wholeDigits_append s.isWhole s.nonempty noZeros (head_fractionText_append s ends)
  rw [List.append_assoc, isText, List.cons_append, takeNumber?_minus negative notMinus, body,
    takeUnsigned?, whole, if_neg s.nonempty, List.drop_left]
  simp only [takeFractionText_text s ends, takeExponentText_text s ends]

end Number

/-- A number starts no word. -/
theorem takeWord?_minus (negative : Bool) {d : Char} (digit : d.isDigit = true) (rest : List Char) :
    takeWord? (minus negative ++ d :: rest) = none := by
  have others : ∀ c, c.isDigit = false → c ≠ d := fun c other => (ne_of_isDigit digit other).symm
  cases negative with
  | false => simp [minus, takeWord?, words, Text.stripPrefix?, others]
  | true => simp [minus, takeWord?, words, Text.stripPrefix?, others]

/-- A number is read by its value. -/
theorem readPlain_text {s : Spelling} (noZeros : s.whole = ['0'] ∨ s.whole.head? ≠ some '0')
    (negative : Bool) {rest : List Char} (ends : EndsValue rest) :
    readPlain (minus negative ++ s.text ++ rest) =
      (NumberText.value ⟨minus negative ++ s.whole, s.fractionText, s.exponentText⟩).map
        (fun v => (v, rest)) := by
  obtain ⟨d, more, isText, digit⟩ := s.exists_text_eq
  have noWord := takeWord?_minus negative digit (more ++ rest)
  rw [← List.cons_append, ← isText, ← List.append_assoc] at noWord
  rw [readPlain, noWord, takeNumber?_text s noZeros negative ends]
  simp only
  cases NumberText.value ⟨minus negative ++ s.whole, s.fractionText, s.exponentText⟩ with
  | error stop => rfl
  | ok v => rfl

/-- What is read back from the digits of a whole number. -/
def wholeBack (i : Int) : Except Stop Value :=
  if digitLimit < (decimalDigits i.natAbs).length then .error (.tooLong (decimalDigits i.natAbs).length)
  else .ok (.int i)

theorem toList_toString (i : Int) :
    (toString i).toList = minus (decide (i < 0)) ++ decimalDigits i.natAbs := by
  cases i with
  | ofNat n => exact Nat.toList_repr
  | negSucc n =>
      have text : toString (Int.negSucc n) = "-" ++ Nat.repr (n + 1) := rfl
      have negative : decide (Int.negSucc n < 0) = true := decide_eq_true (Int.negSucc_lt_zero n)
      rw [text, String.toList_append, Nat.toList_repr, negative]
      rfl

/-- A whole number is read back from its digits. -/
theorem readPlain_int (i : Int) {rest : List Char} (ends : EndsValue rest) :
    readPlain ((toString i).toList ++ rest) = (wholeBack i).map (fun v => (v, rest)) := by
  let s : Spelling :=
    ⟨decimalDigits i.natAbs, [], [], [], Nat.toDigits_ne_nil, isDigits_decimalDigits _, nofun,
      Or.inl rfl, nofun⟩
  have isText : s.text = decimalDigits i.natAbs := by
    rw [Spelling.text, Spelling.fractionText, Spelling.exponentText, if_pos rfl, if_pos rfl,
      List.append_nil, List.append_nil]
  have noZeros : s.whole = ['0'] ∨ s.whole.head? ≠ some '0' := by
    by_cases zero : i.natAbs = 0
    · left
      change decimalDigits i.natAbs = ['0']
      rw [zero]
      rfl
    · exact Or.inr (head_decimalDigits (Nat.pos_of_ne_zero zero))
  have value : NumberText.value ⟨minus (decide (i < 0)) ++ s.whole, s.fractionText, s.exponentText⟩ =
      wholeBack i := by
    have isWhole : s.whole = decimalDigits i.natAbs := rfl
    have isFraction : s.fractionText = [] := if_pos rfl
    have isExponent : s.exponentText = [] := if_pos rfl
    have signed : (if decide (i < 0) = true then -(i.natAbs : ℤ) else i.natAbs) = i := by
      split
      · rename_i negative
        have := of_decide_eq_true negative
        omega
      · rename_i notNegative
        have := of_decide_eq_false (Bool.eq_false_iff.2 notNegative)
        omega
    rw [NumberText.value, if_pos (by rw [isFraction, isExponent]; rfl)]
    simp only
    rw [isWhole, readInt_decimalDigits, wholeBack, signed]
    by_cases tooLong : digitLimit < (decimalDigits i.natAbs).length
    · rw [if_pos tooLong, if_pos tooLong]
    · rw [if_neg tooLong, if_neg tooLong]
  rw [toList_toString, ← isText, readPlain_text noZeros _ ends, value]

/-- A finite number is written as a spelling that is read back, and the others are written as nothing. -/
theorem writeFloat_of_finite {x : Binary64} (finite : x.isFinite = true) :
    ∃ negative, ∃ s : Spelling, writeFloat x = minus negative ++ s.text ∧
      readFloat (minus negative ++ s.text) = some x ∧ s.IsStrict := by
  cases x with
  | nan => cases finite
  | number negative rank =>
      have below : rank.val ≠ infinityRank := by
        simpa [Binary64.isFinite, Binary64.isNaN, Binary64.isInfinite] using finite
      obtain ⟨s, isText, back, strict⟩ := compact.exists_spelling_of_finite (Or.inl rfl) below
      exact ⟨negative, s, by rw [writeFloat, if_pos finite, isText], back, strict⟩

theorem writeFloat_of_not_finite {x : Binary64} (notFinite : ¬x.isFinite = true) :
    writeFloat x = "null".toList := if_neg notFinite

/-- A number that is finite is read back from its shortest text, and nothing from the others. -/
theorem readPlain_float (x : Binary64) {rest : List Char} (ends : EndsValue rest) :
    readPlain (writeFloat x ++ rest) =
      .ok (if x.isFinite then .float x else .null, rest) := by
  by_cases finite : x.isFinite = true
  · obtain ⟨negative, s, isText, back, strict⟩ := writeFloat_of_finite finite
    have notWhole : ¬(decide (s.fractionText = []) && decide (s.exponentText = [])) = true := by
      rw [Bool.and_eq_true, decide_eq_true_eq, decide_eq_true_eq]
      rintro ⟨noFraction, noExponent⟩
      rcases strict.notWhole with someFraction | someExponent
      · rw [Spelling.fractionText, if_neg someFraction] at noFraction
        cases noFraction
      · rw [Spelling.exponentText, if_neg someExponent] at noExponent
        cases noExponent
    rw [isText, if_pos finite, readPlain_text strict.noZeros _ ends, NumberText.value,
      if_neg notWhole]
    simp only
    rw [List.append_assoc, List.append_assoc, ← List.append_assoc s.whole, ← Spelling.text, back]
    rfl
  · rw [writeFloat_of_not_finite finite, if_neg finite]
    rfl

end LayeredFiles.Json
