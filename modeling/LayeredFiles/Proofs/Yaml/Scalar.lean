import LayeredFiles.Yaml.Value
import LayeredFiles.Proofs.Fault
import LayeredFiles.Proofs.Number.Range
import LayeredFiles.Proofs.Text.Split
/-
Module: LayeredFiles.Proofs.Yaml.Scalar
Layer: Proofs
Purpose: which scalars of a YAML document have no value for a reason that nobody announces. A scalar that is
  no number, no day or no bytes is malformed, as a rule; but a word that is no truth value, a number without
  a character, a moment in no form of a moment, and a number in very many groups of sixty end differently.
  Scalars without a tag do so only if they are such a number.
Main exports: Yaml.breakOf?, Yaml.Breaks, Yaml.breakOf?_valueByTag_eq_some_iff,
  Yaml.of_breaks_of_untagged
-/

namespace LayeredFiles

open Number

namespace Yaml

theorem realOf_of_some {i : Int} {x : Binary64} (isNumber : Binary64.ofInt? i = some x) :
    realOf i = .ok x := by
  rw [realOf, isNumber, Option.elim_some]

theorem realOf_of_none {i : Int} (tooLarge : Binary64.ofInt? i = none) :
    realOf i = faulty (.arithmetic .intTooLarge) := by
  rw [realOf, tooLarge, Option.elim_none]

/-- The weights of groups of sixty are numbers up to the one in front of 173 groups. -/
theorem exists_weightOf {groups : Nat} (few : groups < 174) : ∃ x, weightOf groups = .ok x := by
  obtain ⟨place, isPlace⟩ : ∃ place, 1023 = place := ⟨_, rfl⟩
  obtain ⟨most, isMost⟩ : ∃ most, 173 = most := ⟨_, rfl⟩
  have fits : 60 ^ most < 2 ^ place := by
    rw [← isPlace, ← isMost]
    decide +kernel
  have small : 60 ^ groups < 2 ^ place :=
    (Nat.pow_le_pow_right (by decide) (by omega)).trans_lt fits
  obtain ⟨x, isNumber⟩ := Binary64.exists_ofInt? isPlace small
  exact ⟨x, realOf_of_some isNumber⟩

theorem weightOf_of_le {groups : Nat} (many : 174 ≤ groups) :
    weightOf groups = faulty (.arithmetic .intTooLarge) := by
  obtain ⟨place, isPlace⟩ : ∃ place, 1024 = place := ⟨_, rfl⟩
  obtain ⟨least, isLeast⟩ : ∃ least, 174 = least := ⟨_, rfl⟩
  have exceeds : 2 ^ place ≤ 60 ^ least := by
    rw [← isPlace, ← isLeast]
    decide +kernel
  have large : 2 ^ place ≤ 60 ^ groups := exceeds.trans (Nat.pow_le_pow_right (by decide) (by omega))
  exact realOf_of_none (Binary64.ofInt?_of_large isPlace large)

/-! ### Making values -/

/-- The fault for which no value is made, if nobody announces it. -/
def breakOf? {α : Type} : Making α → Option Fault
  | .error (.fault fault) => if fault.isAnnounced then none else some fault
  | _ => none

section Breaking

variable {α β : Type} {fault : Fault}

@[simp] theorem breakOf?_ok (a : α) : breakOf? (.ok a) = none := rfl

@[simp] theorem breakOf?_pure (a : α) : breakOf? (pure a) = none := rfl

@[simp] theorem breakOf?_malformed (what : YamlProblem) : breakOf? (malformed what : Making α) = none := rfl

theorem breakOf?_faulty (fault : Fault) :
    breakOf? (faulty fault : Making α) = if fault.isAnnounced then none else some fault := rfl

/-- One step after another breaks in the first or in the second. -/
theorem breakOf?_bind_eq_some_iff {made : Making α} {next : α → Making β} :
    breakOf? (made >>= next) = some fault ↔
      breakOf? made = some fault ∨ ∃ a, made = .ok a ∧ breakOf? (next a) = some fault := by
  cases made with
  | error stop =>
      have same : breakOf? ((.error stop : Making α) >>= next) = breakOf? (.error stop : Making α) := by
        cases stop <;> rfl
      rw [same]
      refine ⟨Or.inl, ?_⟩
      rintro (breaks | ⟨a, isMade, -⟩)
      · exact breaks
      · cases isMade
  | ok a =>
      refine ⟨fun breaks => Or.inr ⟨a, rfl, breaks⟩, ?_⟩
      rintro (breaks | ⟨b, isMade, breaks⟩)
      · cases breaks
      · cases isMade
        exact breaks

@[simp] theorem breakOf?_map (f : α → β) (made : Making α) : breakOf? (f <$> made) = breakOf? made := by
  cases made with
  | error stop => cases stop <;> rfl
  | ok a => rfl

@[simp] theorem breakOf?_faulty_bind (fault : Fault) (next : α → Making β) :
    breakOf? ((faulty fault : Making α) >>= next) = if fault.isAnnounced then none else some fault := rfl

@[simp] theorem breakOf?_ok_bind (a : α) (next : α → Making β) :
    breakOf? ((.ok a : Making α) >>= next) = breakOf? (next a) := rfl

theorem breakOf?_eq_some_iff {made : Making α} :
    breakOf? made = some fault ↔ made = .error (.fault fault) ∧ fault.isAnnounced = false := by
  unfold breakOf?
  split
  · rename_i fault' 
    by_cases announced : fault'.isAnnounced = true
    · rw [if_pos announced]
      refine iff_of_false (by simp) ?_
      rintro ⟨same, silent⟩
      cases same
      rw [announced] at silent
      cases silent
    · rw [if_neg announced, Option.some.injEq, Except.error.injEq, YamlStop.fault.injEq]
      constructor
      · rintro rfl
        exact ⟨rfl, by simpa using announced⟩
      · exact And.left
  · rename_i other
    refine iff_of_false (by simp) ?_
    rintro ⟨same, -⟩
    exact other fault same

/-- One step for each item breaks in none if no step breaks. -/
theorem breakOf?_mapM {f : α → Making β} (items : List α) (none : ∀ a, breakOf? (f a) = none) :
    breakOf? (items.mapM f) = Option.none := by
  rw [Option.eq_none_iff_forall_ne_some]
  intro fault breaks
  induction items with
  | nil => cases breaks
  | cons a rest ih =>
      rw [List.mapM_cons, breakOf?_bind_eq_some_iff] at breaks
      rcases breaks with here | ⟨b, -, breaks⟩
      · rw [none a] at here
        cases here
      · rw [breakOf?_bind_eq_some_iff] at breaks
        rcases breaks with behind | ⟨bs, -, breaks⟩
        · exact ih behind
        · cases breaks

end Breaking

/-! ### Numbers -/

theorem breakOf?_intIn (base : Nat) (s : List Char) : breakOf? (intIn base s) = none := by
  unfold intIn
  split
  · rfl
  · rfl
  · rfl

theorem breakOf?_floatIn (s : List Char) : breakOf? (floatIn s) = none := by
  unfold floatIn
  split
  · rfl
  · rfl

/-- A number needs a character. -/
theorem signOf_eq (s : List Char) :
    (s = [] ∧ signOf s = faulty .index) ∨ ∃ isNegative, signOf s = .ok (isNegative, unsigned s) := by
  unfold signOf
  split
  · exact Or.inl ⟨rfl, rfl⟩
  · exact Or.inr ⟨true, rfl⟩
  · exact Or.inr ⟨false, rfl⟩
  · rename_i noMinus noPlus
    refine Or.inr ⟨false, ?_⟩
    unfold unsigned
    split
    · exact absurd rfl (noMinus _)
    · exact absurd rfl (noPlus _)
    · rfl

theorem breakOf?_unsignedInt_eq_some_iff (s : List Char) {fault : Fault} :
    breakOf? (unsignedInt s) = some fault ↔ fault = .index ∧ s = [] := by
  unfold unsignedInt
  split
  · rw [breakOf?_faulty, if_neg (by decide), Option.some.injEq, eq_comm]
    exact (and_iff_left rfl).symm
  · exact iff_of_false (by simp) (by simp)
  · exact iff_of_false (by simp [breakOf?_intIn]) (by simp)
  · exact iff_of_false (by simp [breakOf?_intIn]) (by simp)
  · exact iff_of_false (by simp [breakOf?_intIn]) (by simp)
  · rename_i nonempty _ _ _ _
    refine iff_of_false ?_ (fun empty => nonempty empty.2)
    split
    · rw [breakOf?_bind_eq_some_iff, breakOf?_mapM _ (breakOf?_intIn 10)]
      rintro (breaks | ⟨parts, -, breaks⟩)
      · cases breaks
      · cases breaks
    · simp [breakOf?_intIn]

/-- A whole number breaks just if no character is left of it behind its sign. -/
theorem breakOf?_intOf_eq_some_iff (s : List Char) {fault : Fault} :
    breakOf? (intOf s) = some fault ↔ fault = .index ∧ unsigned (digitsOf s) = [] := by
  unfold intOf
  rcases signOf_eq (digitsOf s) with ⟨empty, stops⟩ | ⟨isNegative, signed⟩
  · rw [stops, empty]
    change breakOf? (faulty .index : Making Value) = some fault ↔ _
    rw [breakOf?_faulty, if_neg (by decide), Option.some.injEq, eq_comm]
    exact (and_iff_left rfl).symm
  · rw [signed]
    change breakOf? (unsignedInt _ >>= _) = some fault ↔ _
    rw [breakOf?_bind_eq_some_iff, breakOf?_unsignedInt_eq_some_iff]
    refine or_iff_left ?_
    rintro ⟨i, -, breaks⟩
    cases breaks

theorem floatIn_eq_ok_iff {s : List Char} {x : Binary64} : floatIn s = .ok x ↔ readFloat s = some x := by
  unfold floatIn
  split
  · rename_i y isNumber
    rw [isNumber, Except.ok.injEq, Option.some.injEq]
  · rename_i noNumber
    rw [noNumber]
    exact iff_of_false (by simp [faulty]) (by simp)

theorem breakOf?_mapM_weightOf_eq_some_iff (items : List Nat) {fault : Fault} :
    breakOf? (items.mapM weightOf) = some fault ↔
      fault = .arithmetic .intTooLarge ∧ ∃ groups ∈ items, 174 ≤ groups := by
  induction items with
  | nil => exact iff_of_false (by simp) (by simp)
  | cons groups rest ih =>
      rw [List.mapM_cons]
      by_cases few : groups < 174
      · obtain ⟨x, isWeight⟩ := exists_weightOf few
        have here : ¬174 ≤ groups := by omega
        simp [isWeight, ih, here]
      · have many : 174 ≤ groups := by omega
        have silent : (Fault.arithmetic .intTooLarge).isAnnounced = false := rfl
        simp [weightOf_of_le many, silent, many, eq_comm]

/-- So many parts of a number in groups of sixty are too many. -/
def groupLimit : Nat := 175

/-- A number in more groups of sixty than a floating-point number can have. -/
def IsOverlong (s : List Char) : Prop :=
  groupLimit ≤ (Text.splitOn ':' s).length ∧ ∀ part ∈ Text.splitOn ':' s, (readFloat part).isSome = true

theorem not_isOverlong {s : List Char} (noColon : ':' ∉ s) : ¬IsOverlong s := by
  rintro ⟨long, -⟩
  rw [Text.splitOn_of_notMem noColon, List.length_singleton] at long
  exact absurd long (by decide)

theorem breakOf?_unsignedFloat_eq_some_iff (s : List Char) {fault : Fault} :
    breakOf? (unsignedFloat s) = some fault ↔ fault = .arithmetic .intTooLarge ∧ IsOverlong s := by
  unfold unsignedFloat
  split
  · rename_i isInfinity
    exact iff_of_false (by simp) (fun both => not_isOverlong (by rw [isInfinity]; decide) both.2)
  · split
    · have parses : (∃ parts, (Text.splitOn ':' s).mapM floatIn = .ok parts) ↔
          ∀ part ∈ Text.splitOn ':' s, (readFloat part).isSome = true := by
        rw [exists_mapM_eq_ok_iff]
        simp only [floatIn_eq_ok_iff, Option.isSome_iff_exists]
      rw [breakOf?_bind_eq_some_iff, breakOf?_mapM _ breakOf?_floatIn, IsOverlong, ← parses]
      constructor
      · rintro (breaks | ⟨parts, isParts, breaks⟩)
        · cases breaks
        · simp only [breakOf?_bind_eq_some_iff, breakOf?_mapM_weightOf_eq_some_iff, List.mem_range,
            length_of_mapM_eq_ok isParts, breakOf?_pure, reduceCtorEq, and_false, exists_false,
            or_false] at breaks
          obtain ⟨isTooLarge, groups, few, many⟩ := breaks
          refine ⟨isTooLarge, ?_, parts, isParts⟩
          unfold groupLimit
          omega
      · rintro ⟨rfl, long, parts, isParts⟩
        unfold groupLimit at long
        refine Or.inr ⟨parts, isParts, ?_⟩
        rw [breakOf?_bind_eq_some_iff, breakOf?_mapM_weightOf_eq_some_iff, length_of_mapM_eq_ok isParts]
        exact Or.inl ⟨rfl, 174, List.mem_range.2 long, Nat.le_refl 174⟩
    · rename_i noColon
      refine iff_of_false (by simp [breakOf?_floatIn]) (fun both => not_isOverlong ?_ both.2)
      simpa using noColon

theorem lower_eq_nil_iff (s : List Char) : Text.lower s = [] ↔ s = [] := by
  cases s with
  | nil => exact iff_of_true rfl rfl
  | cons c rest =>
      have some : ∀ before after, Text.lowerBetween before c after ≠ [] := by
        intro before after
        unfold Text.lowerBetween Text.lowerChar
        repeat' split
        all_goals exact List.cons_ne_nil _ _
      refine iff_of_false (fun none => ?_) (List.cons_ne_nil c rest)
      exact some _ _ (List.append_eq_nil_iff.1 none).1

/-- A floating-point number breaks just if it has no character or too many groups of sixty. -/
theorem breakOf?_floatOf_eq_some_iff (s : List Char) {fault : Fault} :
    breakOf? (floatOf s) = some fault ↔
      (fault = .index ∧ digitsOf s = []) ∨
        (fault = .arithmetic .intTooLarge ∧
          IsOverlong (unsigned (Text.lower (digitsOf s)))) := by
  unfold floatOf
  rw [← lower_eq_nil_iff]
  generalize Text.lower (digitsOf s) = digits
  rcases signOf_eq digits with ⟨rfl, stops⟩ | ⟨isNegative, signed⟩
  · have short : ¬IsOverlong (unsigned []) := not_isOverlong (by simp [unsigned])
    have silent : Fault.index.isAnnounced = false := rfl
    rw [stops, breakOf?_faulty_bind, silent]
    simp [short, eq_comm]
  · have nonempty : digits ≠ [] := by
      rintro rfl
      cases signed
    simp only [signed, breakOf?_ok_bind, nonempty, and_false, false_or]
    split
    · rename_i isNaN
      refine iff_of_false (by simp) (fun both => not_isOverlong ?_ both.2)
      rw [isNaN]
      decide
    · rw [breakOf?_bind_eq_some_iff, breakOf?_unsignedFloat_eq_some_iff]
      exact or_iff_left (by simp)

/-! ### Days and moments -/

theorem breakOf?_dateOf (year month day : Nat) : breakOf? (dateOf year month day) = none := by
  unfold dateOf
  repeat' split
  all_goals rfl

theorem breakOf?_zoneOf (t : TimeText) : breakOf? (zoneOf t) = none := by
  unfold zoneOf offsetOf
  dsimp only
  repeat' split
  all_goals rfl

theorem breakOf?_momentOf (t : TimeText) (hour minute second : Nat) :
    breakOf? (momentOf t hour minute second) = none := by
  rw [Option.eq_none_iff_forall_ne_some]
  intro fault breaks
  unfold momentOf at breaks
  rw [breakOf?_bind_eq_some_iff, breakOf?_zoneOf] at breaks
  rcases breaks with breaks | ⟨offset, -, breaks⟩
  · cases breaks
  · rw [breakOf?_bind_eq_some_iff, breakOf?_dateOf] at breaks
    rcases breaks with breaks | ⟨date, -, breaks⟩
    · cases breaks
    · dsimp only at breaks
      repeat' split at breaks
      all_goals cases breaks

/-- A day or moment breaks just if it has the form of neither. -/
theorem breakOf?_timeOf_eq_some_iff (s : List Char) {fault : Fault} :
    breakOf? (timeOf s) = some fault ↔ fault = .attribute "NoneType" "groupdict" ∧ readTime? s = none := by
  unfold timeOf
  split
  · rename_i noTime
    have silent : (Fault.attribute "NoneType" "groupdict").isAnnounced = false := rfl
    simp [breakOf?_faulty, silent, noTime, eq_comm]
  · rename_i t isTime
    refine iff_of_false ?_ (by simp [isTime])
    split
    · simp [breakOf?_dateOf]
    · simp [breakOf?_momentOf]

/-! ### Words and bytes -/

theorem breakOf?_boolOf_eq_some_iff (s : List Char) {fault : Fault} :
    breakOf? (boolOf s) = some fault ↔
      fault = .key (String.ofList (Text.lower s)) ∧
        truthWords.lookup (String.ofList (Text.lower s)) = none := by
  unfold boolOf
  dsimp only
  split
  · rename_i b isWord
    exact iff_of_false (by simp) (by simp [isWord])
  · rename_i noWord
    have silent : (Fault.key (String.ofList (Text.lower s))).isAnnounced = false := rfl
    simp [breakOf?_faulty, silent, noWord, eq_comm]

theorem breakOf?_binaryOf (s : List Char) : breakOf? (binaryOf s) = none := by
  unfold binaryOf
  repeat' split
  all_goals rfl

/-! ### Texts by their tags -/

/-- A text is made into a value by a tag, and this fault, which nobody announces, is why it is not. -/
inductive Breaks (tag : String) (isScalar : Bool) (text : String) : Fault → Prop
  /-- A word for no truth value. -/
  | word (isBool : tag = Kind.bool.tag)
      (unknown : truthWords.lookup (String.ofList (Text.lower text.toList)) = none) :
      Breaks tag isScalar text (.key (String.ofList (Text.lower text.toList)))
  /-- A whole number without a character behind its sign. -/
  | noInt (isInt : tag = Kind.int.tag) (empty : unsigned (digitsOf text.toList) = []) :
      Breaks tag isScalar text .index
  /-- A floating-point number without a character. -/
  | noFloat (isFloat : tag = Kind.float.tag) (empty : digitsOf text.toList = []) :
      Breaks tag isScalar text .index
  /-- A floating-point number with too many groups of sixty. -/
  | overlong (isFloat : tag = Kind.float.tag)
      (isOverlong : IsOverlong (unsigned (Text.lower (digitsOf text.toList)))) :
      Breaks tag isScalar text (.arithmetic .intTooLarge)
  /-- No day and no moment. -/
  | noTime (isTime : tag = Kind.timestamp.tag) (isOwn : isScalar = true)
      (noTime : readTime? text.toList = none) :
      Breaks tag isScalar text (.attribute "NoneType" "groupdict")
  /-- A day or moment that is the value of a mapping. -/
  | timeOfMapping (isTime : tag = Kind.timestamp.tag) (isMapping : isScalar = false) :
      Breaks tag isScalar text (.type (.notPattern "list"))

theorem tag_injective {kind kind' : Kind} (same : kind.tag = kind'.tag) : kind = kind' := by
  cases kind <;> cases kind' <;> first | rfl | exact absurd same (by decide)

section TextValue

variable (text : String)

theorem textValue_bool : textValue Kind.bool.tag text = boolOf text.toList := by
  unfold textValue
  rw [if_neg (by decide), if_pos rfl]

theorem textValue_int : textValue Kind.int.tag text = intOf text.toList := by
  unfold textValue
  rw [if_neg (by decide), if_neg (by decide), if_pos rfl]

theorem textValue_float : textValue Kind.float.tag text = floatOf text.toList := by
  unfold textValue
  rw [if_neg (by decide), if_neg (by decide), if_neg (by decide), if_pos rfl]

theorem textValue_timestamp : textValue Kind.timestamp.tag text = timeOf text.toList := by
  unfold textValue
  rw [if_neg (by decide), if_neg (by decide), if_neg (by decide),
    if_neg (by decide), if_neg (by decide), if_pos rfl]

/-- Only texts of four tags break. -/
theorem of_breakOf?_textValue {tag : String} {fault : Fault}
    (breaks : breakOf? (textValue tag text) = some fault) :
    tag ∈ [Kind.bool, .int, .float, .timestamp].map Kind.tag := by
  unfold textValue at breaks
  dsimp only at breaks
  split at breaks
  · cases breaks
  · split at breaks
    · simp [*]
    · split at breaks
      · simp [*]
      · split at breaks
        · simp [*]
        · split at breaks
          · rw [breakOf?_binaryOf] at breaks
            cases breaks
          · split at breaks
            · simp [*]
            · cases breaks

end TextValue

section ByTag

variable {tag text : String} {isScalar : Bool} {fault : Fault}

/-- Nothing else keeps the value of a text from being made without announcing it. -/
theorem breaks_of_breakOf?_valueByTag (breaks : breakOf? (valueByTag tag isScalar text) = some fault) :
    Breaks tag isScalar text fault := by
  unfold valueByTag at breaks
  split at breaks
  · rename_i mapping
    rw [Bool.and_eq_true, decide_eq_true_eq, Bool.not_eq_true'] at mapping
    rw [breakOf?_faulty, if_neg (by decide), Option.some.injEq] at breaks
    exact breaks ▸ .timeOfMapping mapping.1 mapping.2
  · rename_i noMapping
    rw [Bool.and_eq_true, decide_eq_true_eq, Bool.not_eq_true', not_and, Bool.not_eq_false] at noMapping
    have isKind := of_breakOf?_textValue text breaks
    simp only [List.map_cons, List.map_nil, List.mem_cons, List.not_mem_nil, or_false] at isKind
    rcases isKind with isBool | isInt | isFloat | isTime
    · rw [isBool, textValue_bool, breakOf?_boolOf_eq_some_iff] at breaks
      exact breaks.1 ▸ .word isBool breaks.2
    · rw [isInt, textValue_int, breakOf?_intOf_eq_some_iff] at breaks
      exact breaks.1 ▸ .noInt isInt breaks.2
    · rw [isFloat, textValue_float, breakOf?_floatOf_eq_some_iff] at breaks
      rcases breaks with ⟨rfl, empty⟩ | ⟨rfl, isOverlong⟩
      · exact .noFloat isFloat empty
      · exact .overlong isFloat isOverlong
    · rw [isTime, textValue_timestamp, breakOf?_timeOf_eq_some_iff] at breaks
      exact breaks.1 ▸ .noTime isTime (noMapping isTime) breaks.2

theorem valueByTag_of_kind {kind : Kind} (isKind : tag = kind.tag)
    (isTime : kind = .timestamp → isScalar = true) :
    valueByTag tag isScalar text = textValue kind.tag text := by
  have own : ¬(decide (tag = Kind.timestamp.tag) && !isScalar) = true := by
    rw [Bool.and_eq_true, decide_eq_true_eq, Bool.not_eq_true', not_and, Bool.not_eq_false]
    intro same
    exact isTime (tag_injective (isKind.symm.trans same))
  rw [valueByTag, if_neg own, isKind]

/-- In each of these ways the value is not made. -/
theorem Breaks.breakOf?_valueByTag (breaks : Breaks tag isScalar text fault) :
    breakOf? (valueByTag tag isScalar text) = some fault := by
  cases breaks with
  | word isBool unknown =>
      rw [valueByTag_of_kind isBool (by simp), textValue_bool, breakOf?_boolOf_eq_some_iff]
      exact ⟨rfl, unknown⟩
  | noInt isInt empty =>
      rw [valueByTag_of_kind isInt (by simp), textValue_int, breakOf?_intOf_eq_some_iff]
      exact ⟨rfl, empty⟩
  | noFloat isFloat empty =>
      rw [valueByTag_of_kind isFloat (by simp), textValue_float, breakOf?_floatOf_eq_some_iff]
      exact Or.inl ⟨rfl, empty⟩
  | overlong isFloat isOverlong =>
      rw [valueByTag_of_kind isFloat (by simp), textValue_float, breakOf?_floatOf_eq_some_iff]
      exact Or.inr ⟨rfl, isOverlong⟩
  | noTime isTime isOwn noTime =>
      rw [valueByTag_of_kind isTime (fun _ => isOwn), textValue_timestamp, breakOf?_timeOf_eq_some_iff]
      exact ⟨rfl, noTime⟩
  | timeOfMapping isTime isMapping =>
      rw [valueByTag, isTime, isMapping]
      rfl

/-- A text breaks by a tag just in these ways. -/
theorem breakOf?_valueByTag_eq_some_iff :
    breakOf? (valueByTag tag isScalar text) = some fault ↔ Breaks tag isScalar text fault :=
  ⟨breaks_of_breakOf?_valueByTag, Breaks.breakOf?_valueByTag⟩

end ByTag

/-! ### Texts without a tag -/

theorem mem_of_mem_withoutEnd {s : List Char} {c : Char} (mem : c ∈ withoutEnd s) : c ∈ s := by
  unfold withoutEnd at mem
  split at mem
  · exact List.mem_of_mem_dropLast mem
  · exact mem

theorem mem_unsigned {s : List Char} {c : Char} (mem : c ∈ s) (noMinus : c ≠ '-') (noPlus : c ≠ '+') :
    c ∈ unsigned s := by
  unfold unsigned
  split
  · exact (List.mem_cons.1 mem).resolve_left noMinus
  · exact (List.mem_cons.1 mem).resolve_left noPlus
  · exact mem

theorem mem_of_mem_unsigned {s : List Char} {c : Char} (mem : c ∈ unsigned s) : c ∈ s := by
  unfold unsigned at mem
  split at mem
  · exact List.mem_cons_of_mem _ mem
  · exact List.mem_cons_of_mem _ mem
  · exact mem

theorem exists_digit_of_isNumeral {s : List Char} (isNumeral : isNumeral s = true) :
    ∃ c ∈ s, c.isDigit = true := by
  unfold Yaml.isNumeral at isNumeral
  cases s with
  | nil => cases isNumeral
  | cons c rest =>
      rw [Bool.and_eq_true] at isNumeral
      exact ⟨c, List.mem_cons_self, isNumeral.1⟩

/-- A whole number has a digit. -/
theorem exists_digit_of_isInt {s : List Char} (isInt : isInt s = true) : ∃ c ∈ s, c.isDigit = true := by
  have inside : ∃ c ∈ unsigned s, c.isDigit = true := by
    unfold Yaml.isInt at isInt
    split at isInt
    · rename_i whole
      exact ⟨'0', by rw [whole]; exact List.mem_cons_self, rfl⟩
    · rename_i whole
      exact ⟨'0', by rw [whole]; exact List.mem_cons_self, rfl⟩
    · rename_i whole
      exact ⟨'0', by rw [whole]; exact List.mem_cons_self, rfl⟩
    · have piece : ∀ digits ∈ Text.splitOn ':' (unsigned s), isNumeral digits = true →
          ∃ c ∈ unsigned s, c.isDigit = true := by
        intro digits isPiece numeral
        obtain ⟨c, mem, isDigit⟩ := exists_digit_of_isNumeral numeral
        exact ⟨c, Text.mem_of_mem_splitOn isPiece mem, isDigit⟩
      split at isInt
      · rename_i pieces
        exact piece _ (by rw [pieces]; exact List.mem_cons_self) isInt
      · rename_i pieces
        rw [Bool.and_eq_true] at isInt
        exact piece _ (by rw [pieces]; exact List.mem_cons_self) isInt.1
      · cases isInt
  obtain ⟨c, mem, isDigit⟩ := inside
  exact ⟨c, mem_of_mem_unsigned mem, isDigit⟩

/-- A floating-point number has a point. -/
theorem point_mem_of_isFloat {s : List Char} (isFloat : isFloat s = true) : '.' ∈ s := by
  by_contra noPoint
  have noCut : Text.cutAt? ['.'] (unsigned s) = none :=
    Text.cutAt?_singleton_eq_none_iff.2 (fun mem => noPoint (mem_of_mem_unsigned mem))
  have noWord : ∀ words : List String, words.all (fun word => word.toList.contains '.') = true →
      ∀ t : List Char, '.' ∉ t → String.ofList t ∉ words := by
    intro words havePoints t free isWord
    have point := List.all_eq_true.1 havePoints _ isWord
    rw [String.toList_ofList, List.contains_iff_mem] at point
    exact free point
  simp only [Yaml.isFloat, noCut, Bool.false_or, Bool.or_eq_true, List.contains_iff_mem] at isFloat
  rcases isFloat with isInfinity | isNaN
  · exact noWord _ (by decide) _ (fun mem => noPoint (mem_of_mem_unsigned mem)) isInfinity
  · exact noWord _ (by decide) _ noPoint isNaN

section PlainKind

variable {text : List Char}

theorem of_plainKind_bool (isBool : plainKind text = .bool) : String.ofList (withoutEnd text) ∈ boolWords := by
  unfold plainKind at isBool
  dsimp only at isBool
  repeat' split at isBool
  all_goals first | (rename_i isWord; exact List.contains_iff_mem.1 isWord) | cases isBool

theorem of_plainKind_float (isFloat : plainKind text = .float) : Yaml.isFloat (withoutEnd text) = true := by
  unfold plainKind at isFloat
  dsimp only at isFloat
  repeat' split at isFloat
  all_goals first | assumption | cases isFloat

theorem of_plainKind_int (isInt : plainKind text = .int) : Yaml.isInt (withoutEnd text) = true := by
  unfold plainKind at isInt
  dsimp only at isInt
  repeat' split at isInt
  all_goals first | assumption | cases isInt

theorem of_plainKind_timestamp (isTime : plainKind text = .timestamp) : isTimestamp text = true := by
  unfold plainKind at isTime
  dsimp only at isTime
  repeat' split at isTime
  all_goals first | assumption | cases isTime

end PlainKind

/-- Without a tag the text of a scalar decides on its kind, if it is no text. -/
theorem plainKind_of_tag {text : String} {isPlain : Bool} {kind : Kind}
    (isKind : (Node.scalar none text isPlain).tag = kind.tag) (notStr : kind ≠ .str) :
    plainKind text.toList = kind := by
  cases isPlain with
  | true => exact tag_injective isKind
  | false =>
      have isStr : Kind.str.tag = kind.tag := isKind
      exact absurd (tag_injective isStr).symm notStr

/-- A word for a truth value is one in lower case. -/
theorem lookup_truthWords_ne_none {word : String} (isWord : word ∈ boolWords) :
    truthWords.lookup (String.ofList (Text.lower word.toList)) ≠ none := by
  have all : boolWords.all (fun word =>
      (truthWords.lookup (String.ofList (Text.lower word.toList))).isSome) = true := by decide
  exact Option.isSome_iff_ne_none.1 (List.all_eq_true.1 all word isWord)

/-- A whole number has a character behind its sign. -/
theorem unsigned_digitsOf_ne_nil {s : List Char} (isInt : isInt (withoutEnd s) = true) :
    unsigned (digitsOf s) ≠ [] := by
  obtain ⟨c, mem, isDigit⟩ := exists_digit_of_isInt isInt
  have other : ∀ d : Char, d.isDigit = false → c ≠ d := by
    rintro d notDigit rfl
    rw [isDigit] at notDigit
    cases notDigit
  have kept : c ∈ digitsOf s := by
    rw [digitsOf, List.mem_filter, bne_iff_ne]
    exact ⟨mem_of_mem_withoutEnd mem, other '_' rfl⟩
  exact List.ne_nil_of_mem (mem_unsigned kept (other '-' rfl) (other '+' rfl))

/-- A floating-point number has a character. -/
theorem digitsOf_ne_nil {s : List Char} (isFloat : isFloat (withoutEnd s) = true) : digitsOf s ≠ [] := by
  have kept : '.' ∈ digitsOf s := by
    rw [digitsOf, List.mem_filter]
    exact ⟨mem_of_mem_withoutEnd (point_mem_of_isFloat isFloat), rfl⟩
  exact List.ne_nil_of_mem kept

/-- A text that is a word for a truth value up to a line end, but stands for none, has that line end. -/
theorem eq_append_lineEnd_of_unknown {text : String}
    (isWord : String.ofList (withoutEnd text.toList) ∈ boolWords)
    (unknown : truthWords.lookup (String.ofList (Text.lower text.toList)) = none) :
    text = String.ofList (withoutEnd text.toList) ++ "\n" := by
  unfold withoutEnd at isWord ⊢
  split
  · rename_i ends
    apply String.toList_inj.1
    simp only [String.toList_append, String.toList_ofList]
    exact (List.dropLast_append_getLast? _ ends).symm
  · rename_i noEnd
    rw [if_neg noEnd, String.ofList_toList] at isWord
    exact absurd unknown (lookup_truthWords_ne_none isWord)

/-- A scalar without a tag breaks only as a number in too many groups of sixty, or as a word for a truth value
    with a line end behind it. -/
theorem of_breaks_of_untagged {text : String} {isPlain : Bool} {fault : Fault}
    (breaks : Breaks (Node.scalar none text isPlain).tag true text fault) :
    IsOverlong (unsigned (Text.lower (digitsOf text.toList))) ∨ ∃ word ∈ boolWords, text = word ++ "\n" := by
  cases breaks with
  | word isBool unknown =>
      have isWord := of_plainKind_bool (plainKind_of_tag isBool (by decide))
      exact Or.inr ⟨_, isWord, eq_append_lineEnd_of_unknown isWord unknown⟩
  | noInt isInt empty =>
      have isNumber := of_plainKind_int (plainKind_of_tag isInt (by decide))
      exact absurd empty (unsigned_digitsOf_ne_nil isNumber)
  | noFloat isFloat empty =>
      have isNumber := of_plainKind_float (plainKind_of_tag isFloat (by decide))
      exact absurd empty (digitsOf_ne_nil isNumber)
  | overlong isFloat isOverlong => exact Or.inl isOverlong
  | noTime isTime isOwn noTime =>
      have isMoment := of_plainKind_timestamp (plainKind_of_tag isTime (by decide))
      rw [isTimestamp, noTime] at isMoment
      cases isMoment
  | timeOfMapping isTime isMapping => cases isMapping

end Yaml

end LayeredFiles
