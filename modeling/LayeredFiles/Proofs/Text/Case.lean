import LayeredFiles.Proofs.Text.Inverse
import LayeredFiles.Text.Words
/-
Module: LayeredFiles.Proofs.Text.Case
Layer: Proofs
Purpose: a lower-case form is its own lower-case form. No run of the table of lower-case letters leads into
  a run of that table, so what a letter is mapped to is mapped no further. A run leads to letters only, so
  a blank or a hyphen of a lower-case form is one of the text.
Main exports: Text.IsUnmapped, Text.isUnmapped_shifted, Text.IsLower, Text.isLower_of_mem_lower,
  Text.lower_of_isLower, Text.mem_of_mem_lower, Text.lowerAfter_of_ascii
-/

namespace LayeredFiles.Text

/-! ### Runs of letters -/

namespace CaseRun

/-- What the first letter of the run is mapped to. -/
def low (r : CaseRun) : Nat := (r.first + r.shift).toNat

/-- What the last letter of the run is mapped to. -/
def high (r : CaseRun) : Nat := (r.last + r.shift).toNat

/-- No letter of the run is mapped into a range. -/
def avoids (r : CaseRun) (range : Nat × Nat) : Bool := r.high.blt range.1 || range.2.blt r.low

/-- No letter of the run is mapped to one of another run. Either the other run lies elsewhere, or both hold
    every second code point only and the ones lie between the others. -/
def misses (r other : CaseRun) : Bool :=
  r.avoids (other.first, other.last) ||
    ((r.step == 2 || r.first == r.last) && other.step == 2 && (r.low - other.first) % 2 == 1)

theorem covers_iff {r : CaseRun} {n : Nat} :
    r.covers n = true ↔ r.first ≤ n ∧ n ≤ r.last ∧ (n - r.first) % r.step = 0 := by
  simp [covers, and_assoc]

variable {r : CaseRun} {n : Nat} (covered : r.covers n = true)
include covered

theorem not_mem_of_avoids {range : Nat × Nat} (avoids : r.avoids range = true) :
    ¬(range.1 ≤ (n + r.shift).toNat ∧ (n + r.shift).toNat ≤ range.2) := by
  obtain ⟨first, last, -⟩ := covers_iff.1 covered
  simp only [CaseRun.avoids, low, high, Bool.or_eq_true, Nat.blt_eq] at avoids
  omega

theorem not_covers_of_misses {other : CaseRun} (misses : r.misses other = true) :
    other.covers (n + r.shift).toNat = false := by
  obtain ⟨first, last, steps⟩ := covers_iff.1 covered
  rw [Bool.eq_false_iff]
  intro again
  obtain ⟨first', last', steps'⟩ := covers_iff.1 again
  rw [CaseRun.misses, Bool.or_eq_true] at misses
  rcases misses with elsewhere | between
  · exact not_mem_of_avoids covered elsewhere ⟨first', last'⟩
  · simp only [Bool.and_eq_true, Bool.or_eq_true, beq_iff_eq, low] at between
    obtain ⟨⟨thin, thin'⟩, odd⟩ := between
    rw [thin'] at steps'
    have even : (n - r.first) % 2 = 0 := by
      rcases thin with two | one
      · rwa [two] at steps
      · omega
    omega

end CaseRun

/-- What no letter is mapped to: the halves of pairs, a hyphen, the blanks, and the capital I with a dot,
    whose lower-case form is two characters. -/
def neverLower : List (Nat × Nat) :=
  (0xD800, 0xDFFF) :: (0x2D, 0x2D) :: (0x130, 0x130) :: blankRanges

/-- The run leads to characters that are mapped no further. -/
structure CaseRun.IsFinal (r : CaseRun) : Prop where
  small : r.high < 0x110000
  avoids : ∀ range ∈ neverLower, r.avoids range = true
  misses : lowerRuns.all r.misses = true

instance (r : CaseRun) : Decidable r.IsFinal :=
  decidable_of_iff (r.high < 0x110000 ∧ (∀ range ∈ neverLower, r.avoids range = true) ∧
      lowerRuns.all r.misses = true)
    ⟨fun ⟨small, avoids, misses⟩ => ⟨small, avoids, misses⟩,
      fun isFinal => ⟨isFinal.small, isFinal.avoids, isFinal.misses⟩⟩

theorem isFinal_of_mem : ∀ r ∈ lowerRuns, r.IsFinal := by decide +kernel

/-! ### Code points -/

/-- No run of lower-case letters holds the code point. -/
def IsUnmapped (n : Nat) : Prop := ∀ r ∈ lowerRuns, r.covers n = false

instance (n : Nat) : Decidable (IsUnmapped n) := inferInstanceAs (Decidable (∀ r ∈ lowerRuns, _))

theorem shifted_cases (n : Nat) :
    (IsUnmapped n ∧ shifted lowerRuns n = n) ∨
      ∃ r ∈ lowerRuns, r.covers n = true ∧ shifted lowerRuns n = (n + r.shift).toNat := by
  unfold shifted
  cases found : lowerRuns.find? (fun r => r.covers n) with
  | none =>
      refine Or.inl ⟨fun r mem => ?_, rfl⟩
      exact Bool.eq_false_iff.2 (List.find?_eq_none.1 found r mem)
  | some r =>
      have covered := List.find?_some found
      exact Or.inr ⟨r, List.mem_of_find?_eq_some found, covered, rfl⟩

theorem shifted_of_isUnmapped {n : Nat} (unmapped : IsUnmapped n) : shifted lowerRuns n = n := by
  rcases shifted_cases n with ⟨-, same⟩ | ⟨r, mem, covered, -⟩
  · exact same
  · rw [unmapped r mem] at covered
    cases covered

/-- What a code point is mapped to is mapped no further. -/
theorem isUnmapped_shifted (n : Nat) : IsUnmapped (shifted lowerRuns n) := by
  rcases shifted_cases n with ⟨unmapped, same⟩ | ⟨r, mem, covered, mapped⟩
  · rw [same]
    exact unmapped
  · rw [mapped]
    intro other isRun
    exact r.not_covers_of_misses covered (List.all_eq_true.1 (isFinal_of_mem r mem).misses other isRun)

/-- In the ranges that no letter is mapped to, a code point stands for itself. -/
theorem shifted_eq_of_neverLower {n first last : Nat} (never : (first, last) ∈ neverLower)
    (above : first ≤ shifted lowerRuns n) (below : shifted lowerRuns n ≤ last) :
    shifted lowerRuns n = n := by
  rcases shifted_cases n with ⟨-, same⟩ | ⟨r, mem, covered, mapped⟩
  · exact same
  · rw [mapped] at above below
    exact absurd ⟨above, below⟩ (r.not_mem_of_avoids covered ((isFinal_of_mem r mem).avoids _ never))

/-- A character is mapped to a character. -/
theorem isValidChar_shifted (c : Char) : (shifted lowerRuns c.toNat).isValidChar := by
  rcases shifted_cases c.toNat with ⟨-, same⟩ | ⟨r, mem, covered, mapped⟩
  · rw [same]
    exact c.valid
  · have isFinal := isFinal_of_mem r mem
    have noHalf := r.not_mem_of_avoids covered (isFinal.avoids (0xD800, 0xDFFF) List.mem_cons_self)
    have small := isFinal.small
    obtain ⟨-, last, -⟩ := CaseRun.covers_iff.1 covered
    rw [mapped, Nat.isValidChar]
    simp only [CaseRun.high] at small noHalf
    omega

/-! ### Characters -/

theorem exists_code_of_ascii {c : Char} (ascii : c.toNat < 0x80) : ∃ n < 0x80, c = Char.ofNat n :=
  ⟨c.toNat, ascii, (Char.ofNat_toNat c).symm⟩

theorem ascii_of_isCapital {c : Char} (capital : isCapital c = true) : c.toNat < 0x80 := by
  simp only [isCapital, Bool.and_eq_true, decide_eq_true_eq, Char.le_def, UInt32.le_iff_toNat_le] at capital
  exact Nat.lt_of_le_of_lt capital.2 (by decide)

/-- The character is its own lower-case form, wherever it stands. -/
def IsLower (c : Char) : Prop := ∀ before after, lowerBetween before c after = [c]

/-- The letter that a character is mapped to, if that is one letter. -/
def lowerLetter (c : Char) : Char := Char.ofNat (shifted lowerRuns c.toNat)

theorem toNat_lowerLetter (c : Char) : (lowerLetter c).toNat = shifted lowerRuns c.toNat :=
  toNat_charOfNat (isValidChar_shifted c)

/-- The table holds the letters of ASCII, too. -/
theorem lowerChar_eq {c : Char} (noDot : c ≠ '\u0130') : lowerChar c = [lowerLetter c] := by
  unfold lowerChar
  split
  · rename_i ascii
    have checked : ∀ n < 0x80, [(Char.ofNat n).toLower] = [lowerLetter (Char.ofNat n)] := by
      decide +kernel
    obtain ⟨n, small, rfl⟩ := exists_code_of_ascii ascii
    exact checked n small
  · rfl

theorem isLower_of_isUnmapped {c : Char} (unmapped : IsUnmapped c.toNat) (noDot : c ≠ '\u0130') :
    IsLower c := by
  intro before after
  have noSigma : c ≠ '\u03A3' := by
    rintro rfl
    exact absurd unmapped (by decide +kernel)
  rw [lowerBetween, if_neg noSigma, lowerChar_eq noDot, lowerLetter, shifted_of_isUnmapped unmapped,
    Char.ofNat_toNat]

theorem isLower_lowerLetter {c : Char} (noDot : c ≠ '\u0130') : IsLower (lowerLetter c) := by
  apply isLower_of_isUnmapped
  · rw [toNat_lowerLetter]
    exact isUnmapped_shifted c.toNat
  · intro dotted
    have isCode : shifted lowerRuns c.toNat = 0x130 := by
      rw [← toNat_lowerLetter, dotted]
      rfl
    have never : (0x130, 0x130) ∈ neverLower := by decide
    have same : shifted lowerRuns c.toNat = c.toNat :=
      shifted_eq_of_neverLower never (Nat.le_of_eq isCode.symm) (Nat.le_of_eq isCode)
    apply noDot
    rw [← dotted, lowerLetter, same, Char.ofNat_toNat]

/-- The lower-case forms that are not looked up: those of a capital sigma, and that of the capital I with a
    dot. -/
def specialForms : List (List Char) := [['\u03C2'], ['\u03C3'], ['i', '\u0307']]

theorem lowerBetween_cases (before : List Char) (c : Char) (after : List Char) :
    (c ≠ '\u0130' ∧ lowerBetween before c after = [lowerLetter c]) ∨
      lowerBetween before c after ∈ specialForms := by
  by_cases sigma : c = '\u03A3'
  · right
    rw [lowerBetween, if_pos sigma]
    split <;> decide
  · rw [lowerBetween, if_neg sigma]
    by_cases dotted : c = '\u0130'
    · right
      rw [dotted]
      decide
    · exact Or.inl ⟨dotted, lowerChar_eq dotted⟩

theorem isLower_of_mem_lowerBetween {before : List Char} {c : Char} {after : List Char} {d : Char}
    (mem : d ∈ lowerBetween before c after) : IsLower d := by
  rcases lowerBetween_cases before c after with ⟨noDot, isLetter⟩ | special
  · rw [isLetter, List.mem_singleton] at mem
    rw [mem]
    exact isLower_lowerLetter noDot
  · have checked : specialForms.flatten.all (fun d => IsUnmapped d.toNat ∧ d ≠ '\u0130') = true := by
      decide +kernel
    have isForm := List.all_eq_true.1 checked d (List.mem_flatten_of_mem special mem)
    rw [decide_eq_true_eq] at isForm
    exact isLower_of_isUnmapped isForm.1 isForm.2

/-- A blank or a hyphen is nothing but its own lower-case form. -/
theorem eq_of_mem_lowerBetween {before : List Char} {c : Char} {after : List Char} {d : Char}
    (mem : d ∈ lowerBetween before c after) (gap : d = '-' ∨ isBlank d = true) : d = c := by
  rcases lowerBetween_cases before c after with ⟨noDot, isLetter⟩ | special
  · rw [isLetter, List.mem_singleton] at mem
    have isCode : d.toNat = shifted lowerRuns c.toNat := by rw [mem, toNat_lowerLetter]
    have same : shifted lowerRuns c.toNat = c.toNat := by
      rcases gap with rfl | blank
      · have never : (0x2D, 0x2D) ∈ neverLower := by decide
        exact shifted_eq_of_neverLower never (Nat.le_of_eq isCode) (Nat.le_of_eq isCode.symm)
      · obtain ⟨range, isRange, above, below⟩ := exists_range_of_inRanges blank
        have never : range ∈ neverLower := by simp [neverLower, isRange]
        exact shifted_eq_of_neverLower never (isCode ▸ above) (isCode ▸ below)
    rw [mem, lowerLetter, same, Char.ofNat_toNat]
  · have checked : specialForms.flatten.all (fun d => ¬(d = '-' ∨ isBlank d = true)) = true := by
      decide +kernel
    have isForm := List.all_eq_true.1 checked d (List.mem_flatten_of_mem special mem)
    rw [decide_eq_true_eq] at isForm
    exact absurd gap isForm

/-- A capital is not its own lower-case form. -/
theorem isCapital_of_isLower {c : Char} (isLower : IsLower c) : isCapital c = false := by
  have checked : ∀ n < 0x80, isCapital (Char.ofNat n) = true →
      lowerBetween [] (Char.ofNat n) [] ≠ [Char.ofNat n] := by
    decide +kernel
  rw [Bool.eq_false_iff]
  intro capital
  obtain ⟨n, small, rfl⟩ := exists_code_of_ascii (ascii_of_isCapital capital)
  exact checked n small capital (isLower [] [])

/-! ### Texts -/

theorem mem_lowerAfter {before s : List Char} {d : Char} (mem : d ∈ lowerAfter before s) :
    ∃ front c after, c ∈ s ∧ d ∈ lowerBetween front c after := by
  induction s generalizing before with
  | nil => cases mem
  | cons c rest ih =>
      rcases List.mem_append.1 mem with here | behind
      · exact ⟨before, c, rest, List.mem_cons_self, here⟩
      · obtain ⟨front, other, after, isChar, isForm⟩ := ih behind
        exact ⟨front, other, after, List.mem_cons_of_mem _ isChar, isForm⟩

theorem lowerAfter_of_isLower {s : List Char} (isLower : ∀ c ∈ s, IsLower c) (before : List Char) :
    lowerAfter before s = s := by
  induction s generalizing before with
  | nil => rfl
  | cons c rest ih =>
      rw [List.forall_mem_cons] at isLower
      rw [lowerAfter, isLower.1 before rest, ih isLower.2 (c :: before), List.singleton_append]

/-- A text of lower-case characters is its own lower-case form. -/
theorem lower_of_isLower {s : List Char} (isLower : ∀ c ∈ s, IsLower c) : lower s = s :=
  lowerAfter_of_isLower isLower []

/-- A lower-case form consists of lower-case characters. -/
theorem isLower_of_mem_lower {s : List Char} {d : Char} (mem : d ∈ lower s) : IsLower d := by
  obtain ⟨_, _, _, -, isForm⟩ := mem_lowerAfter mem
  exact isLower_of_mem_lowerBetween isForm

/-- A blank or a hyphen of a lower-case form is one of the text. -/
theorem mem_of_mem_lower {s : List Char} {d : Char} (mem : d ∈ lower s)
    (gap : d = '-' ∨ isBlank d = true) : d ∈ s := by
  obtain ⟨_, c, _, isChar, isForm⟩ := mem_lowerAfter mem
  rw [eq_of_mem_lowerBetween isForm gap]
  exact isChar

/-- In ASCII every letter is mapped on its own. -/
theorem lowerAfter_of_ascii {s : List Char} (ascii : ∀ c ∈ s, c.toNat < 0x80) (before : List Char) :
    lowerAfter before s = s.map Char.toLower := by
  induction s generalizing before with
  | nil => rfl
  | cons c rest ih =>
      rw [List.forall_mem_cons] at ascii
      have noSigma : c ≠ '\u03A3' := by
        rintro rfl
        exact absurd ascii.1 (by decide)
      rw [lowerAfter, lowerBetween, if_neg noSigma, lowerChar, if_pos ascii.1, ih ascii.2 (c :: before),
        List.singleton_append, List.map_cons]

end LayeredFiles.Text
