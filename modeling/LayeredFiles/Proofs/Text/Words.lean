import LayeredFiles.Proofs.Text.Case
import LayeredFiles.Proofs.Text.Split
/-
Module: LayeredFiles.Proofs.Text.Words
Layer: Proofs
Purpose: the two spellings of a name. Writing a name with underscores leaves no capital, no hyphen and no
  blank, and what is written so is left as it is. A name whose words are small letters and digits comes
  back from the spelling with capitals: each boundary between two words is found either before a capital
  with small letters behind it or between a letter or digit and a capital, and never twice.
Main exports: Text.IsSnake, Text.isSnake_snakeCase, Text.snakeCase_normal, Text.JoinedBy, Text.IsNameWord,
  Text.words_of_joinedBy, Text.joinedBy_markWords, Text.markCapitals_of_joinedBy, Text.snakeCase_pascalCase
-/

namespace LayeredFiles.Text

/-! ### The spelling with underscores -/

/-- The text is spelled with underscores: nothing in it is to be put in lower case or to be replaced. -/
def IsSnake (s : List Char) : Prop := ∀ c ∈ s, IsLower c ∧ c ≠ '-' ∧ isBlank c = false

theorem markWords_of_no_capital {s : List Char} (noCapital : ∀ c ∈ s, isCapital c = false)
    (isCopying : Bool) : markWords isCopying s = s := by
  fun_induction markWords isCopying s with
  | case1 | case2 | case4 => rfl
  | case3 _ c d _ ih => rw [ih (by simp_all)]
  | case5 _ c d e rest _ ih => rw [ih (by simp_all)]
  | case6 _ c d e rest _ marks => simp_all
  | case7 _ c d e rest _ _ ih => rw [ih (by simp_all)]

theorem markCapitals_of_no_capital {s : List Char} (noCapital : ∀ c ∈ s, isCapital c = false) :
    markCapitals s = s := by
  fun_induction markCapitals s with
  | case1 | case2 => rfl
  | case3 c capital rest marks => simp_all
  | case4 c d rest _ ih => rw [ih (by simp_all)]

theorem joinGaps_of_no_gap {s : List Char} (noGap : ∀ c ∈ s, c ≠ '-' ∧ isBlank c = false)
    (isInRun : Bool) : joinGaps isInRun s = s := by
  fun_induction joinGaps isInRun s with
  | case1 => rfl
  | case2 | case3 => simp_all
  | case4 _ c rest _ ih => rw [ih (by simp_all)]

theorem not_gap_of_mem_joinGaps {isInRun : Bool} {s : List Char} {c : Char}
    (mem : c ∈ joinGaps isInRun s) : c ≠ '-' ∧ isBlank c = false := by
  induction s generalizing isInRun with
  | nil => cases mem
  | cons d rest ih =>
      rw [joinGaps] at mem
      split at mem
      · split at mem
        · exact ih mem
        · rcases List.mem_cons.1 mem with rfl | mem
          · decide
          · exact ih mem
      · rename_i noGap
        rcases List.mem_cons.1 mem with rfl | mem
        · simpa using noGap
        · exact ih mem

/-- What is written with underscores is spelled so. -/
theorem isSnake_snakeCase (s : List Char) : IsSnake (snakeCase s) := by
  intro c mem
  have noGap : ¬(c = '-' ∨ isBlank c = true) := by
    intro gap
    have inText := not_gap_of_mem_joinGaps (mem_of_mem_lower mem gap)
    rcases gap with hyphen | blank
    · exact inText.1 hyphen
    · rw [inText.2] at blank
      cases blank
  rw [not_or] at noGap
  exact ⟨isLower_of_mem_lower mem, noGap.1, Bool.eq_false_iff.2 noGap.2⟩

/-- What is spelled with underscores stays as it is. -/
theorem snakeCase_of_isSnake {s : List Char} (isSnake : IsSnake s) : snakeCase s = s := by
  have noCapital : ∀ c ∈ s, isCapital c = false := by
    intro c mem
    exact isCapital_of_isLower (isSnake c mem).1
  rw [snakeCase, markWords_of_no_capital noCapital, markCapitals_of_no_capital noCapital,
    joinGaps_of_no_gap (fun c mem => (isSnake c mem).2), lower_of_isLower (fun c mem => (isSnake c mem).1)]

/-- The spelling with underscores is a normal form: no capital, no hyphen and no blank is left, and writing
    a text so once more changes nothing. The texts that are left as they are, are those in which every
    character is its own lower-case form and none is a hyphen or a blank. -/
theorem snakeCase_normal (s : List Char) :
    (∀ c ∈ snakeCase s, isCapital c = false ∧ c ≠ '-' ∧ isBlank c = false) ∧
      snakeCase (snakeCase s) = snakeCase s ∧
      (snakeCase s = s ↔ ∀ c ∈ s, IsLower c ∧ c ≠ '-' ∧ isBlank c = false) := by
  refine ⟨?_, snakeCase_of_isSnake (isSnake_snakeCase s), ?_, snakeCase_of_isSnake⟩
  · intro c mem
    obtain ⟨isLower, noGap⟩ := isSnake_snakeCase s c mem
    exact ⟨isCapital_of_isLower isLower, noGap⟩
  · intro same
    rw [← same]
    exact isSnake_snakeCase s

/-! ### Words and gaps -/

/-- The text is made of words, one after another, with a gap of some kind between two of them. -/
inductive JoinedBy (IsGap : List Char → Prop) : List (List Char) → List Char → Prop
  | one (word : List Char) : JoinedBy IsGap [word] word
  | more (word gap : List Char) {rest : List (List Char)} {s : List Char} (isGap : IsGap gap)
      (joined : JoinedBy IsGap rest s) : JoinedBy IsGap (word :: rest) (word ++ (gap ++ s))

/-- One or more characters that separate words. -/
def IsGapRun (gap : List Char) : Prop := gap ≠ [] ∧ ∀ c ∈ gap, isWordGap c = true

instance (gap : List Char) : Decidable (IsGapRun gap) :=
  decidable_of_iff (gap ≠ [] ∧ gap.all isWordGap = true) (by rw [IsGapRun, List.all_eq_true])

theorem wordsFrom_append {w : List Char} (solid : ∀ c ∈ w, isWordGap c = false) (word rest : List Char) :
    wordsFrom word (w ++ rest) = wordsFrom (w.reverse ++ word) rest := by
  induction w generalizing word with
  | nil => rfl
  | cons c w ih =>
      rw [List.forall_mem_cons] at solid
      rw [List.cons_append, wordsFrom, solid.1, if_neg Bool.false_ne_true, ih solid.2, List.reverse_cons,
        List.append_assoc, List.singleton_append]

theorem wordsFrom_gap {gap : List Char} (isGap : ∀ c ∈ gap, isWordGap c = true) (rest : List Char) :
    wordsFrom [] (gap ++ rest) = wordsFrom [] rest := by
  induction gap with
  | nil => rfl
  | cons c gap ih =>
      rw [List.forall_mem_cons] at isGap
      rw [List.cons_append, wordsFrom, if_pos isGap.1, if_pos rfl, ih isGap.2]

/-- A gap ends the word in front of it. -/
theorem wordsFrom_append_gap {word gap : List Char} (nonempty : word ≠ []) (isGap : IsGapRun gap)
    (rest : List Char) : wordsFrom word (gap ++ rest) = word.reverse :: wordsFrom [] rest := by
  obtain ⟨c, gap', rfl⟩ := List.exists_cons_of_ne_nil isGap.1
  obtain ⟨first, others⟩ := List.forall_mem_cons.1 isGap.2
  rw [List.cons_append, wordsFrom, if_pos first, if_neg nonempty, wordsFrom_gap others]

/-- The words of a text are found again, whatever the gaps between them are. -/
theorem words_of_joinedBy {ws : List (List Char)} {s : List Char} (joined : JoinedBy IsGapRun ws s)
    (solid : ∀ w ∈ ws, w ≠ [] ∧ ∀ c ∈ w, isWordGap c = false) : words s = ws := by
  unfold words
  induction joined with
  | one word =>
      obtain ⟨nonempty, noGap⟩ := solid word List.mem_cons_self
      have whole := wordsFrom_append noGap [] []
      rw [List.append_nil, List.append_nil] at whole
      rw [whole, wordsFrom, if_neg (List.reverse_ne_nil_iff.2 nonempty), List.reverse_reverse]
  | more word gap isGap _ ih =>
      rw [List.forall_mem_cons] at solid
      obtain ⟨⟨nonempty, noGap⟩, others⟩ := solid
      rw [wordsFrom_append noGap, List.append_nil,
        wordsFrom_append_gap (List.reverse_ne_nil_iff.2 nonempty) isGap, List.reverse_reverse, ih others]

/-! ### Words of small letters and digits -/

/-- A character that goes on a word. -/
def isSmallOrDigit (c : Char) : Bool := isSmall c || c.isDigit

/-- A word of a name: a small letter, and behind it at least one small letter or digit. -/
def IsNameWord : List Char → Prop
  | first :: second :: rest => isSmall first = true ∧ ∀ c ∈ second :: rest, isSmallOrDigit c = true
  | _ => False

instance : DecidablePred IsNameWord
  | [] => isFalse id
  | [_] => isFalse id
  | first :: second :: rest =>
    decidable_of_iff (isSmall first = true ∧ (second :: rest).all isSmallOrDigit = true)
      (by rw [IsNameWord, List.all_eq_true])

/-- A word with its first letter as a capital. -/
def raised : List Char → List Char
  | [] => []
  | c :: rest => c.toUpper :: rest

theorem ascii_of_isSmallOrDigit {c : Char} (isSmallOrDigit : isSmallOrDigit c = true) : c.toNat < 0x80 := by
  simp only [Text.isSmallOrDigit, isSmall, Bool.or_eq_true, Bool.and_eq_true, decide_eq_true_eq, Char.le_def,
    UInt32.le_iff_toNat_le, Char.isDigit_iff_toNat] at isSmallOrDigit
  rcases isSmallOrDigit with ⟨-, small⟩ | ⟨-, digit⟩
  · exact Nat.lt_of_le_of_lt small (by decide)
  · exact Nat.lt_of_le_of_lt digit (by decide)

theorem isSmallOrDigit_of_isSmall {c : Char} (small : isSmall c = true) : isSmallOrDigit c = true := by
  rw [isSmallOrDigit, small, Bool.true_or]

/-- A character of a word is no capital and no gap, and it is its own lower-case form. -/
theorem of_isSmallOrDigit {c : Char} (isSmallOrDigit : isSmallOrDigit c = true) :
    isCapital c = false ∧ isWordGap c = false ∧ c.toLower = c := by
  have checked : ∀ n < 0x80, Text.isSmallOrDigit (Char.ofNat n) = true →
      isCapital (Char.ofNat n) = false ∧ isWordGap (Char.ofNat n) = false ∧
        (Char.ofNat n).toLower = Char.ofNat n := by
    decide +kernel
  obtain ⟨n, small, rfl⟩ := exists_code_of_ascii (ascii_of_isSmallOrDigit isSmallOrDigit)
  exact checked n small isSmallOrDigit

theorem noCapital_of_smallOrDigits {s : List Char} (smallOrDigits : ∀ c ∈ s, isSmallOrDigit c = true) :
    ∀ c ∈ s, isCapital c = false :=
  fun c mem => (of_isSmallOrDigit (smallOrDigits c mem)).1

/-- The capital of a small letter is a capital, from which the small letter is found again. -/
theorem of_isSmall {c : Char} (isSmall : isSmall c = true) :
    titleChar c = [c.toUpper] ∧ isCapital c.toUpper = true ∧ c.toUpper.toLower = c := by
  have checked : ∀ n < 0x80, Text.isSmall (Char.ofNat n) = true →
      titleChar (Char.ofNat n) = [(Char.ofNat n).toUpper] ∧ isCapital (Char.ofNat n).toUpper = true ∧
        (Char.ofNat n).toUpper.toLower = Char.ofNat n := by
    decide +kernel
  have ascii := ascii_of_isSmallOrDigit (isSmallOrDigit_of_isSmall isSmall)
  obtain ⟨n, small, rfl⟩ := exists_code_of_ascii ascii
  exact checked n small isSmall

theorem exists_of_isNameWord {word : List Char} (named : IsNameWord word) :
    ∃ first rest, word = first :: rest ∧ isSmall first = true ∧ rest ≠ [] ∧
      ∀ c ∈ rest, isSmallOrDigit c = true := by
  match word, named with
  | first :: second :: rest, ⟨small, others⟩ =>
      exact ⟨first, second :: rest, rfl, small, List.cons_ne_nil _ _, others⟩

theorem isSmallOrDigit_of_isNameWord {word : List Char} (named : IsNameWord word) :
    ∀ c ∈ word, isSmallOrDigit c = true := by
  obtain ⟨first, rest, rfl, small, -, others⟩ := exists_of_isNameWord named
  rw [List.forall_mem_cons]
  exact ⟨isSmallOrDigit_of_isSmall small, others⟩

theorem map_toLower_of_isSmallOrDigit {s : List Char} (smallOrDigits : ∀ c ∈ s, isSmallOrDigit c = true) :
    s.map Char.toLower = s := by
  rw [List.map_congr_left (fun c mem => (of_isSmallOrDigit (smallOrDigits c mem)).2.2), List.map_id']

theorem capitalize_of_isNameWord {word : List Char} (named : IsNameWord word) :
    capitalize word = raised word := by
  obtain ⟨first, rest, rfl, small, -, others⟩ := exists_of_isNameWord named
  have ascii : ∀ c ∈ rest, c.toNat < 0x80 := fun c mem => ascii_of_isSmallOrDigit (others c mem)
  rw [capitalize, (of_isSmall small).1, lowerAfter_of_ascii ascii, map_toLower_of_isSmallOrDigit others]
  rfl

/-- The spelling with capitals puts the words together, each with a capital. -/
theorem pascalCase_of_joinedBy {ws : List (List Char)} {s : List Char} (joined : JoinedBy IsGapRun ws s)
    (named : ∀ w ∈ ws, IsNameWord w) : pascalCase s = (ws.map raised).flatten := by
  have solid : ∀ w ∈ ws, w ≠ [] ∧ ∀ c ∈ w, isWordGap c = false := by
    intro w mem
    have smallOrDigits := isSmallOrDigit_of_isNameWord (named w mem)
    refine ⟨?_, fun c inWord => (of_isSmallOrDigit (smallOrDigits c inWord)).2.1⟩
    rintro rfl
    exact named [] mem
  rw [pascalCase, words_of_joinedBy joined solid, ← List.flatMap_def]
  exact List.flatMap_congr (fun w mem => capitalize_of_isNameWord (named w mem))

/-! ### Boundaries before capitals -/

/-- What may stand between two words when the first pass is over. -/
def IsMark (gap : List Char) : Prop := gap = [] ∨ gap = ['_']

theorem markWords_cons_of_not_capital {d : Char} (noCapital : isCapital d = false) (isCopying : Bool)
    (c : Char) (rest : List Char) :
    ∃ next, markWords isCopying (c :: d :: rest) = c :: markWords next (d :: rest) := by
  cases rest with
  | nil =>
      rw [markWords]
      split
      · exact ⟨true, rfl⟩
      · exact ⟨true, rfl⟩
  | cons e rest =>
      rw [markWords, noCapital, Bool.and_false, Bool.false_and, if_neg Bool.false_ne_true]
      split
      · exact ⟨true, rfl⟩
      · exact ⟨false, rfl⟩

/-- Before a capital a mark is put, or the capital is copied like any other character. -/
theorem markWords_cons_capital {d : Char} (noCapital : isCapital d = false) (isCopying : Bool)
    (c capital : Char) (rest : List Char) :
    ∃ gap next, IsMark gap ∧ markWords isCopying (c :: capital :: d :: rest) =
      c :: (gap ++ capital :: markWords next (d :: rest)) := by
  rw [markWords]
  split
  · obtain ⟨next, copied⟩ := markWords_cons_of_not_capital noCapital true capital rest
    exact ⟨[], next, Or.inl rfl, congrArg (c :: ·) copied⟩
  · split
    · exact ⟨['_'], true, Or.inr rfl, rfl⟩
    · obtain ⟨next, copied⟩ := markWords_cons_of_not_capital noCapital false capital rest
      exact ⟨[], next, Or.inl rfl, congrArg (c :: ·) copied⟩

/-- A character more in front belongs to the first word. -/
theorem JoinedBy.cons {IsGap : List Char → Prop} {word : List Char} {rest : List (List Char)}
    {s : List Char} (joined : JoinedBy IsGap (word :: rest) s) (c : Char) :
    JoinedBy IsGap ((c :: word) :: rest) (c :: s) := by
  cases joined with
  | one => exact .one (c :: word)
  | more _ gap isGap joined => exact .more (c :: word) gap isGap joined

/-- A word with a capital, as the second pass finds it. -/
def IsRaised (word : List Char) : Prop :=
  ∃ capital rest, word = capital :: rest ∧ isCapital capital = true ∧ rest ≠ [] ∧
    ∀ c ∈ rest, isSmallOrDigit c = true

theorem isRaised_of_isNameWord {word : List Char} (named : IsNameWord word) : IsRaised (raised word) := by
  obtain ⟨first, rest, rfl, small, nonempty, others⟩ := exists_of_isNameWord named
  exact ⟨first.toUpper, rest, rfl, (of_isSmall small).2.1, nonempty, others⟩

/-- Up to its last character a word is copied, if no capital stands behind its first one. -/
theorem joinedBy_markWords_append {word : List Char} (nonempty : word ≠ [])
    (noCapital : ∀ c ∈ word.tail, isCapital c = false) {rest : List (List Char)} {s : List Char}
    (behind : ∀ isCopying c, JoinedBy IsMark ([c] :: rest) (markWords isCopying (c :: s)))
    (isCopying : Bool) : JoinedBy IsMark (word :: rest) (markWords isCopying (word ++ s)) := by
  induction word generalizing isCopying with
  | nil => exact absurd rfl nonempty
  | cons c word ih =>
      cases word with
      | nil => exact behind isCopying c
      | cons d word =>
          obtain ⟨here, others⟩ := List.forall_mem_cons.1 noCapital
          obtain ⟨next, copied⟩ := markWords_cons_of_not_capital here isCopying c (word ++ s)
          rw [List.cons_append, List.cons_append, copied]
          exact (ih (List.cons_ne_nil _ _) others next).cons c

/-- Behind a character, every word starts with its capital, and with a mark at most in front of that. -/
theorem joinedBy_markWords_cons {ws : List (List Char)} (allRaised : ∀ w ∈ ws, IsRaised w)
    (isCopying : Bool) (c : Char) :
    JoinedBy IsMark ([c] :: ws) (markWords isCopying (c :: ws.flatten)) := by
  induction ws generalizing isCopying c with
  | nil => exact .one [c]
  | cons w ws ih =>
      rw [List.forall_mem_cons] at allRaised
      obtain ⟨⟨capital, rest, rfl, -, nonempty, smallOrDigits⟩, others⟩ := allRaised
      obtain ⟨d, rest, rfl⟩ := List.exists_cons_of_ne_nil nonempty
      have noCapital := noCapital_of_smallOrDigits smallOrDigits
      obtain ⟨here, noCapital'⟩ := List.forall_mem_cons.1 noCapital
      obtain ⟨gap, next, isMark, marked⟩ :=
        markWords_cons_capital here isCopying c capital (rest ++ ws.flatten)
      have behind := joinedBy_markWords_append nonempty noCapital' (ih others) next
      rw [List.flatten_cons, List.cons_append, List.cons_append, marked]
      exact .more [c] gap isMark (behind.cons capital)

/-- The first pass leaves the words as they are and puts marks between some of them. -/
theorem joinedBy_markWords {ws : List (List Char)} (nonempty : ws ≠ [])
    (allRaised : ∀ w ∈ ws, IsRaised w) :
    JoinedBy IsMark ws (markWords false ws.flatten) := by
  obtain ⟨w, ws, rfl⟩ := List.exists_cons_of_ne_nil nonempty
  obtain ⟨⟨capital, rest, rfl, -, -, smallOrDigits⟩, others⟩ := List.forall_mem_cons.1 allRaised
  exact joinedBy_markWords_append (List.cons_ne_nil _ _) (noCapital_of_smallOrDigits smallOrDigits)
    (joinedBy_markWords_cons others) false

/-! ### Boundaries behind small letters and digits -/

theorem markCapitals_cons_of_other {c : Char} (other : isSmallOrDigit c = false) (s : List Char) :
    markCapitals (c :: s) = c :: markCapitals s := by
  cases s with
  | nil => rfl
  | cons d rest =>
      rw [isSmallOrDigit] at other
      rw [markCapitals, other, Bool.false_and, if_neg Bool.false_ne_true]

theorem isSmallOrDigit_of_isCapital {c : Char} (capital : isCapital c = true) : isSmallOrDigit c = false := by
  rw [Bool.eq_false_iff]
  intro isSmallOrDigit
  rw [(of_isSmallOrDigit isSmallOrDigit).1] at capital
  cases capital

/-- Between a word and a capital the second pass leaves one underscore, be it there already or not. -/
theorem markCapitals_append {word gap : List Char} (nonempty : word ≠ [])
    (smallOrDigits : ∀ c ∈ word, isSmallOrDigit c = true) (isMark : IsMark gap) {capital : Char}
    (isCapital : isCapital capital = true) (s : List Char) :
    markCapitals (word ++ (gap ++ capital :: s)) = word ++ '_' :: markCapitals (capital :: s) := by
  have other := isSmallOrDigit_of_isCapital isCapital
  induction word with
  | nil => exact absurd rfl nonempty
  | cons c word ih =>
      rw [List.forall_mem_cons] at smallOrDigits
      cases word with
      | nil =>
          have isBoundary : (isSmall c || c.isDigit) = true := smallOrDigits.1
          rcases isMark with rfl | rfl
          · rw [List.singleton_append, List.nil_append, markCapitals, isBoundary, isCapital, Bool.and_true,
              if_pos rfl, markCapitals_cons_of_other other]
            rfl
          · have noCapital : Text.isCapital '_' = false := by decide
            have notSmallOrDigit : isSmallOrDigit '_' = false := by decide
            rw [List.singleton_append, List.singleton_append, markCapitals, noCapital, Bool.and_false,
              if_neg Bool.false_ne_true, markCapitals_cons_of_other notSmallOrDigit]
            rfl
      | cons d word =>
          have noCapital := (of_isSmallOrDigit (smallOrDigits.2 d List.mem_cons_self)).1
          have behind := ih (List.cons_ne_nil _ _) smallOrDigits.2
          rw [List.cons_append] at behind
          rw [List.cons_append, List.cons_append, markCapitals, noCapital, Bool.and_false,
            if_neg Bool.false_ne_true, behind]
          rfl

theorem JoinedBy.ne_nil {IsGap : List Char → Prop} {ws : List (List Char)} {s : List Char}
    (joined : JoinedBy IsGap ws s) : ws ≠ [] := by
  cases joined with
  | one | more => exact List.cons_ne_nil _ _

/-- A text of words with capitals begins with a capital. -/
theorem JoinedBy.exists_capital {IsGap : List Char → Prop} {ws : List (List Char)} {s : List Char}
    (joined : JoinedBy IsGap ws s) (allRaised : ∀ w ∈ ws, IsRaised w) :
    ∃ capital rest, s = capital :: rest ∧ isCapital capital = true := by
  cases joined with
  | one word =>
      obtain ⟨capital, rest, rfl, isCapital, -, -⟩ := allRaised _ List.mem_cons_self
      exact ⟨capital, rest, rfl, isCapital⟩
  | more word gap isGap joined =>
      obtain ⟨capital, rest, rfl, isCapital, -, -⟩ := allRaised _ List.mem_cons_self
      exact ⟨capital, _, rfl, isCapital⟩

/-- The second pass puts a mark wherever the first one has put none. -/
theorem markCapitals_of_joinedBy {ws : List (List Char)} {s : List Char} (joined : JoinedBy IsMark ws s)
    (allRaised : ∀ w ∈ ws, IsRaised w) : markCapitals s = joinWith ['_'] ws := by
  induction joined with
  | one word =>
      obtain ⟨capital, rest, rfl, isCapital, -, smallOrDigits⟩ := allRaised word List.mem_cons_self
      rw [markCapitals_cons_of_other (isSmallOrDigit_of_isCapital isCapital),
        markCapitals_of_no_capital (noCapital_of_smallOrDigits smallOrDigits)]
      rfl
  | more word gap isMark joined ih =>
      rw [List.forall_mem_cons] at allRaised
      obtain ⟨⟨capital, rest, rfl, isCapital, nonempty, smallOrDigits⟩, others⟩ := allRaised
      obtain ⟨next, s', starts, isNext⟩ := joined.exists_capital others
      have behind := ih others
      rw [starts] at behind ⊢
      rw [List.cons_append, markCapitals_cons_of_other (isSmallOrDigit_of_isCapital isCapital),
        markCapitals_append nonempty smallOrDigits isMark isNext, behind,
        joinWith_cons_of_ne_nil _ joined.ne_nil]
      simp only [List.cons_append, List.append_assoc, List.nil_append]

/-! ### From the spelling with capitals back -/

theorem map_joinWith (f : Char → Char) (separator : List Char) (pieces : List (List Char)) :
    (joinWith separator pieces).map f = joinWith (separator.map f) (pieces.map (List.map f)) := by
  fun_induction joinWith separator pieces with
  | case1 | case2 => rfl
  | case3 piece next pieces ih =>
      rw [List.map_append, List.map_append, ih]
      rfl

theorem map_toLower_raised {word : List Char} (named : IsNameWord word) :
    (raised word).map Char.toLower = word := by
  obtain ⟨first, rest, rfl, small, -, others⟩ := exists_of_isNameWord named
  rw [raised, List.map_cons, (of_isSmall small).2.2, map_toLower_of_isSmallOrDigit others]

theorem isWordGap_of_isCapital {c : Char} (capital : isCapital c = true) : isWordGap c = false := by
  have checked : ∀ n < 0x80, isCapital (Char.ofNat n) = true → isWordGap (Char.ofNat n) = false := by
    decide +kernel
  obtain ⟨n, small, rfl⟩ := exists_code_of_ascii (ascii_of_isCapital capital)
  exact checked n small capital

theorem of_mem_isRaised {word : List Char} (isRaised : IsRaised word) {c : Char} (mem : c ∈ word) :
    c.toNat < 0x80 ∧ isWordGap c = false := by
  obtain ⟨capital, rest, rfl, isCapital, -, smallOrDigits⟩ := isRaised
  rcases List.mem_cons.1 mem with rfl | mem
  · exact ⟨ascii_of_isCapital isCapital, isWordGap_of_isCapital isCapital⟩
  · exact ⟨ascii_of_isSmallOrDigit (smallOrDigits c mem), (of_isSmallOrDigit (smallOrDigits c mem)).2.1⟩

/-- Words with capitals and underscores between them are ASCII texts without hyphens and blanks. -/
theorem of_mem_joinWith {ws : List (List Char)} (allRaised : ∀ w ∈ ws, IsRaised w) {c : Char}
    (mem : c ∈ joinWith ['_'] ws) : c.toNat < 0x80 ∧ c ≠ '-' ∧ isBlank c = false := by
  rcases mem_joinWith mem with mem | ⟨w, isWord, mem⟩
  · rw [List.mem_singleton.1 mem]
    decide
  · obtain ⟨ascii, noGap⟩ := of_mem_isRaised (allRaised w isWord) mem
    simp only [isWordGap, Bool.or_eq_false_iff, decide_eq_false_iff_not] at noGap
    exact ⟨ascii, noGap.1.1, noGap.2⟩

/-- Of words with capitals that stand together, the boundaries are found again. -/
theorem snakeCase_flatten_raised {ws : List (List Char)} (nonempty : ws ≠ [])
    (named : ∀ w ∈ ws, IsNameWord w) : snakeCase (ws.map raised).flatten = joinWith ['_'] ws := by
  have allRaised : ∀ w ∈ ws.map raised, IsRaised w :=
    List.forall_mem_map.2 (fun w mem => isRaised_of_isNameWord (named w mem))
  have marked := joinedBy_markWords (List.map_eq_nil_iff.not.2 nonempty) allRaised
  have lowered : (ws.map raised).map (List.map Char.toLower) = ws := by
    rw [List.map_map]
    exact (List.map_congr_left (fun w mem => map_toLower_raised (named w mem))).trans (List.map_id' ws)
  rw [snakeCase, markCapitals_of_joinedBy marked allRaised,
    joinGaps_of_no_gap (fun c mem => (of_mem_joinWith allRaised mem).2), lower,
    lowerAfter_of_ascii (fun c mem => (of_mem_joinWith allRaised mem).1), map_joinWith, lowered]
  rfl

/-- A name whose words have two characters at least, a small letter and then small letters and digits,
    comes back from the spelling with capitals as these words with underscores between them, whatever
    stood between them before. -/
theorem snakeCase_pascalCase {ws : List (List Char)} {s : List Char} (named : ∀ w ∈ ws, IsNameWord w)
    (joined : JoinedBy IsGapRun ws s) : snakeCase (pascalCase s) = joinWith ['_'] ws := by
  rw [pascalCase_of_joinedBy joined named]
  exact snakeCase_flatten_raised joined.ne_nil named

/-- Words with small letters and with digits behind their capitals, and gaps of several kinds. -/
theorem snakeCase_pascalCase_of_digits :
    snakeCase (pascalCase "user-_ name\u3000v2\tx1y".toList) = "user_name_v2_x1y".toList := by
  have joined : JoinedBy IsGapRun ["user".toList, "name".toList, "v2".toList, "x1y".toList]
      "user-_ name\u3000v2\tx1y".toList :=
    .more _ "-_ ".toList (by decide) (.more _ "\u3000".toList (by decide)
      (.more _ "\t".toList (by decide) (.one _)))
  exact snakeCase_pascalCase (by decide) joined

end LayeredFiles.Text
