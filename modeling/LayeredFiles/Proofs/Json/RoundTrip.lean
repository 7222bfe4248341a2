import LayeredFiles.Proofs.Json.Leaf
import LayeredFiles.Proofs.Text.Split
/-
Module: LayeredFiles.Proofs.Json.RoundTrip
Layer: Proofs
Purpose: what a reader makes of the document of a value. Texts, truth values and finite numbers come back,
  numbers that are not finite and values without a form come back as nothing, and reading stops at a whole
  number with too many digits. This holds of every value; the induction is on its parts.
Main exports: Json.readBack, Json.readsBack_writeValue, Json.read_write, Json.noReturn_writeValue
-/

namespace LayeredFiles.Json

open Number Text

/-- What is read back from the document of a value, or why reading stops. -/
def readBack : Value → Except Stop Value
  | .bool b => .ok (.bool b)
  | .int i => wholeBack i
  | .float x => .ok (if x.isFinite then .float x else .null)
  | .str s => .ok (.str s)
  | .list items => (readBackAll items).map .list
  | .dict entries => (readBackEntries entries).map (fun members => .dict (Entries.ofList members))
  | _ => .ok .null
where
  /-- What is read back from some values. -/
  readBackAll : List Value → Except Stop (List Value)
    | [] => .ok []
    | v :: rest => do
      let v ← readBack v
      let rest ← readBackAll rest
      pure (v :: rest)
  /-- What is read back from the members of an object. -/
  readBackEntries : List (Value × Value) → Except Stop (List (Value × Value))
    | [] => .ok []
    | (key, v) :: rest => do
      let v ← readBack v
      let rest ← readBackEntries rest
      pure ((.str (key.text?.getD ""), v) :: rest)

/-! ### How values start and end -/

/-- A character that a value without parts can start with, a text apart. -/
def StartsPlain (s : List Char) : Prop :=
  ∃ c rest, s = c :: rest ∧ (c.isDigit = true ∨ c ∈ ['-', 'n', 't', 'f'])

/-- A text that starts like a value: with no blank, no closing bracket and no byte order mark. -/
def StartsValue (s : List Char) : Prop :=
  ∃ c rest, s = c :: rest ∧ isGap c = false ∧ c ≠ ']' ∧ c ≠ '\x7d' ∧ c ≠ '\uFEFF'

theorem StartsPlain.append {s : List Char} (starts : StartsPlain s) (more : List Char) :
    StartsPlain (s ++ more) := by
  obtain ⟨c, rest, rfl, first⟩ := starts
  exact ⟨c, rest ++ more, rfl, first⟩

theorem StartsValue.append {s : List Char} (starts : StartsValue s) (more : List Char) :
    StartsValue (s ++ more) := by
  obtain ⟨c, rest, rfl, first⟩ := starts
  exact ⟨c, rest ++ more, rfl, first⟩

theorem StartsPlain.startsValue {s : List Char} (starts : StartsPlain s) : StartsValue s := by
  obtain ⟨c, rest, rfl, digit | other⟩ := starts
  · have noDigits : ∀ d ∈ [' ', '\t', '\n', '\r', ']', '\x7d', '\uFEFF'], c ≠ d := by
      intro d mem
      refine ne_of_isDigit digit ?_
      revert mem d
      simp
    refine ⟨c, rest, rfl, ?_, noDigits _ (by decide), noDigits _ (by decide), noDigits _ (by decide)⟩
    simp [isGap, noDigits]
  · have all : ∀ d ∈ ['-', 'n', 't', 'f'],
        isGap d = false ∧ d ≠ ']' ∧ d ≠ '\x7d' ∧ d ≠ '\uFEFF' := by
      simp [isGap]
    exact ⟨c, rest, rfl, all c other⟩

theorem startsPlain_minus (negative : Bool) {d : Char} (digit : d.isDigit = true) (rest : List Char) :
    StartsPlain (minus negative ++ d :: rest) := by
  cases negative with
  | false => exact ⟨d, rest, rfl, Or.inl digit⟩
  | true => exact ⟨'-', d :: rest, rfl, Or.inr (by decide)⟩

theorem startsPlain_toString (i : Int) : StartsPlain (toString i).toList := by
  obtain ⟨d, digits, isText⟩ := List.exists_cons_of_ne_nil
    (show decimalDigits i.natAbs ≠ [] from Nat.toDigits_ne_nil)
  have digit : d.isDigit = true := isDigits_decimalDigits i.natAbs d (by simp [isText])
  rw [toList_toString, isText]
  exact startsPlain_minus _ digit digits

theorem startsPlain_null : StartsPlain "null".toList := ⟨'n', _, rfl, Or.inr (by decide)⟩

theorem startsPlain_bool (b : Bool) : StartsPlain (if b then "true" else "false").toList := by
  cases b with
  | true => exact ⟨'t', _, rfl, Or.inr (by decide)⟩
  | false => exact ⟨'f', _, rfl, Or.inr (by decide)⟩

theorem startsPlain_writeFloat (x : Binary64) : StartsPlain (writeFloat x) := by
  by_cases finite : x.isFinite = true
  · obtain ⟨negative, s, isText, -⟩ := writeFloat_of_finite finite
    obtain ⟨d, rest, digits, digit⟩ := s.exists_text_eq
    rw [isText, digits]
    exact startsPlain_minus negative digit rest
  · rw [writeFloat_of_not_finite finite]
    exact startsPlain_null

theorem startsValue_bracketed (indent : Nat) {left : Char} (right : Char) (parts : List (List Char))
    (isLeft : left = '[' ∨ left = '\x7b') : StartsValue (bracketed indent left right parts) := by
  have starts : ∀ rest, StartsValue (left :: rest) := by
    rintro rest
    rcases isLeft with rfl | rfl
    · exact ⟨'[', rest, rfl, by decide⟩
    · exact ⟨'\x7b', rest, rfl, by decide⟩
  cases parts with
  | nil => exact starts _
  | cons part parts => exact starts _

/-- The texts of values start like values. -/
theorem startsValue_writeValue (indent : Nat) (v : Value) : StartsValue (writeValue indent v) := by
  cases v with
  | bool b => exact (startsPlain_bool b).startsValue
  | int i => exact (startsPlain_toString i).startsValue
  | float x => exact (startsPlain_writeFloat x).startsValue
  | str s => exact ⟨'"', _, rfl, by decide⟩
  | list items => exact startsValue_bracketed indent ']' _ (Or.inl rfl)
  | dict entries => exact startsValue_bracketed indent '\x7d' _ (Or.inr rfl)
  | _ => exact startsPlain_null.startsValue

/-! ### Blanks -/

theorem skipGaps_of_startsValue {s : List Char} (starts : StartsValue s) : skipGaps s = s := by
  obtain ⟨c, rest, rfl, noGap, -⟩ := starts
  exact List.dropWhile_cons_of_neg (by simp [noGap])

theorem skipGaps_newLine (indent : Nat) (s : List Char) : skipGaps (newLine indent ++ s) = skipGaps s := by
  have blanks : ∀ c ∈ newLine indent, isGap c = true := by
    intro c mem
    rcases List.mem_cons.1 mem with rfl | mem
    · rfl
    · rw [List.eq_of_mem_replicate mem]
      rfl
  exact List.dropWhile_append_of_pos blanks

theorem endsValue_newLine (indent : Nat) (s : List Char) : EndsValue (newLine indent ++ s) := by
  intro c first
  exact Or.inr (Option.some.inj first).symm

theorem endsValue_comma (s : List Char) : EndsValue (',' :: s) := by
  intro c first
  exact Or.inl (Option.some.inj first).symm

/-! ### Values -/

/-- Values without parts are read as such. -/
theorem readValue_of_startsPlain {fuel : Nat} {s : List Char} (some : 0 < fuel)
    (starts : StartsPlain s) : readValue fuel s = readPlain s := by
  obtain ⟨fuel, rfl⟩ : ∃ n, fuel = n + 1 := ⟨fuel - 1, by omega⟩
  obtain ⟨c, rest, rfl, first⟩ := starts
  have others : ∀ d ∈ ['"', '[', '\x7b'], c ≠ d := by
    rcases first with digit | other
    · intro d mem
      refine ne_of_isDigit digit ?_
      revert mem d
      simp
    · revert other c
      simp
  rw [readValue]
  · exact fun _ same => others '"' (by decide) (List.cons.inj same).1
  · exact fun _ same => others '[' (by decide) (List.cons.inj same).1
  · exact fun _ same => others '\x7b' (by decide) (List.cons.inj same).1

/-- A text that is read back as a value wherever it stands in a document, or at which reading stops. -/
structure ReadsBack (s : List Char) (result : Except Stop Value) : Prop where
  starts : StartsValue s
  reads : ∀ (fuel : Nat) (rest : List Char), s.length ≤ fuel → EndsValue rest →
    readValue fuel (s ++ rest) = result.map (fun v => (v, rest))

theorem StartsValue.length_pos {s : List Char} (starts : StartsValue s) : 0 < s.length := by
  obtain ⟨c, rest, rfl, -⟩ := starts
  exact Nat.succ_pos _

theorem readsBack_of_readPlain {s : List Char} {result : Except Stop Value} (starts : StartsPlain s)
    (reads : ∀ rest, EndsValue rest → readPlain (s ++ rest) = result.map (fun v => (v, rest))) :
    ReadsBack s result where
  starts := starts.startsValue
  reads _ _ enough ends := by
    have some := lt_of_lt_of_le starts.startsValue.length_pos enough
    rw [readValue_of_startsPlain some (starts.append _), reads _ ends]

theorem readsBack_null : ReadsBack "null".toList (.ok .null) :=
  readsBack_of_readPlain startsPlain_null (fun _ _ => rfl)

theorem readsBack_bool (b : Bool) :
    ReadsBack (if b then "true" else "false").toList (.ok (.bool b)) := by
  refine readsBack_of_readPlain (startsPlain_bool b) (fun _ _ => ?_)
  cases b with
  | true => rfl
  | false => rfl

theorem readsBack_writeText (s : String) : ReadsBack (writeText s.toList) (.ok (.str s)) where
  starts := ⟨'"', _, rfl, by decide⟩
  reads fuel rest enough _ := by
    have some : 0 < fuel := lt_of_lt_of_le (Nat.succ_pos _) enough
    obtain ⟨fuel, rfl⟩ : ∃ n, fuel = n + 1 := ⟨fuel - 1, by omega⟩
    have back := readText_writeChars s.toList rest
    rw [writeText, List.cons_append, List.cons_append, List.append_assoc, List.singleton_append,
      readValue, back, String.ofList_toList]
    rfl

/-! ### Lists and objects -/

section Steps

variable {fuel : Nat} {s more after rest : List Char} {v : Value} {reason : Stop}

/-- A list whose bracket is not closed at once has items. -/
theorem readValue_list (starts : StartsValue (skipGaps s)) :
    readValue (fuel + 1) ('[' :: s) =
      (readItems fuel (skipGaps s)).map (fun found => (.list found.1, found.2)) := by
  obtain ⟨c, t, isText, -, notClosed, -⟩ := starts
  rw [readValue, isText]
  split
  · rename_i closed
    exact absurd (List.cons.inj closed).1 notClosed
  · cases readItems fuel (c :: t) with
    | error stop => rfl
    | ok found => rfl

theorem readValue_dict (starts : StartsValue (skipGaps s)) :
    readValue (fuel + 1) ('\x7b' :: s) =
      (readMembers fuel (skipGaps s)).map (fun found => (.dict (Entries.ofList found.1), found.2)) := by
  obtain ⟨c, t, isText, -, -, notClosed, -⟩ := starts
  rw [readValue, isText]
  split
  · rename_i closed
    exact absurd (List.cons.inj closed).1 notClosed
  · cases readMembers fuel (c :: t) with
    | error stop => rfl
    | ok found => rfl

theorem readItems_stop (value : readValue fuel s = .error reason) :
    readItems (fuel + 1) s = .error reason := by
  rw [readItems, value]
  rfl

theorem readItems_last (value : readValue fuel s = .ok (v, more))
    (closes : skipGaps more = ']' :: rest) : readItems (fuel + 1) s = .ok ([v], rest) := by
  rw [readItems, value]
  simp only [bind, Except.bind, closes]
  rfl

theorem readItems_next (value : readValue fuel s = .ok (v, more))
    (goesOn : skipGaps more = ',' :: after) :
    readItems (fuel + 1) s =
      (readItems fuel (skipGaps after)).map (fun found => (v :: found.1, found.2)) := by
  rw [readItems, value]
  simp only [bind, Except.bind, goesOn]
  cases readItems fuel (skipGaps after) with
  | error stop => rfl
  | ok found => rfl

/-- A name, a colon and the text of a value. -/
def memberText (name : String) (s : List Char) : List Char :=
  writeText name.toList ++ ": ".toList ++ s

theorem memberText_eq (name : String) (s : List Char) :
    memberText name s = '"' :: (name.toList.flatMap writeChar ++ '"' :: (':' :: ' ' :: s)) := by
  rw [memberText, writeText, List.cons_append, List.append_assoc, List.cons_append, List.append_assoc]
  rfl

variable (name : String)

theorem skipGaps_blank (starts : StartsValue s) : skipGaps (' ' :: s) = s :=
  skipGaps_of_startsValue starts

theorem readMembers_stop (starts : StartsValue s) (value : readValue fuel s = .error reason) :
    readMembers (fuel + 1) (memberText name s) = .error reason := by
  have colon : skipGaps (':' :: ' ' :: s) = ':' :: ' ' :: s := rfl
  rw [memberText_eq, readMembers, readText_writeChars]
  simp only [bind, Except.bind, colon, skipGaps_blank starts, value]

theorem readMembers_last (starts : StartsValue s) (value : readValue fuel s = .ok (v, more))
    (closes : skipGaps more = '\x7d' :: rest) :
    readMembers (fuel + 1) (memberText name s) = .ok ([(.str name, v)], rest) := by
  have colon : skipGaps (':' :: ' ' :: s) = ':' :: ' ' :: s := rfl
  rw [memberText_eq, readMembers, readText_writeChars, String.ofList_toList]
  simp only [bind, Except.bind, colon, skipGaps_blank starts, value, closes]
  rfl

theorem readMembers_next (starts : StartsValue s) (value : readValue fuel s = .ok (v, more))
    (goesOn : skipGaps more = ',' :: after) :
    readMembers (fuel + 1) (memberText name s) =
      (readMembers fuel (skipGaps after)).map (fun found => ((.str name, v) :: found.1, found.2)) := by
  have colon : skipGaps (':' :: ' ' :: s) = ':' :: ' ' :: s := rfl
  rw [memberText_eq, readMembers, readText_writeChars, String.ofList_toList]
  simp only [bind, Except.bind, colon, skipGaps_blank starts, value, goesOn]
  cases readMembers fuel (skipGaps after) with
  | error stop => rfl
  | ok found => rfl

end Steps

section Parts

variable {indent : Nat}

/-- Parts on lines of their own. -/
def joined (indent : Nat) (parts : List (List Char)) : List Char :=
  joinWith (',' :: newLine indent) parts

/-- Behind a part that is not the last one a comma and the other parts follow. -/
theorem joined_append (indent : Nat) (part : List Char) {parts : List (List Char)}
    (nonempty : parts ≠ []) (more : List Char) :
    joined indent (part :: parts) ++ more =
      part ++ ',' :: (newLine indent ++ (joined indent parts ++ more)) := by
  obtain ⟨next, parts, rfl⟩ := List.exists_cons_of_ne_nil nonempty
  rw [joined, joinWith, List.append_assoc, List.append_assoc]
  rfl

theorem length_joined_cons (indent : Nat) (part : List Char) {parts : List (List Char)}
    (nonempty : parts ≠ []) :
    part.length + (joined indent parts).length < (joined indent (part :: parts)).length := by
  have whole := congrArg List.length (joined_append indent part nonempty [])
  simp only [List.append_nil, List.length_append, List.length_cons] at whole
  omega

theorem StartsValue.joined {part : List Char} (starts : StartsValue part) (indent : Nat)
    (parts : List (List Char)) : StartsValue (Json.joined indent (part :: parts)) := by
  cases parts with
  | nil => exact starts
  | cons next parts =>
      rw [Json.joined, joinWith, List.append_assoc]
      exact starts.append _

theorem skipGaps_closing {c : Char} (noGap : isGap c = false) (outer : Nat) (rest : List Char) :
    skipGaps (newLine outer ++ c :: rest) = c :: rest := by
  rw [skipGaps_newLine]
  exact List.dropWhile_cons_of_neg (by simp [noGap])

/-- Behind a comma reading goes on at the next part. -/
theorem skipGaps_joined (indent : Nat) {part : List Char} (starts : StartsValue part)
    (parts : List (List Char)) (more : List Char) :
    skipGaps (newLine indent ++ (joined indent (part :: parts) ++ more)) =
      joined indent (part :: parts) ++ more := by
  rw [skipGaps_newLine, skipGaps_of_startsValue ((starts.joined indent parts).append more)]

/-- The items of a list are read back one after the other. -/
theorem readItems_joined {items : List Value}
    (each : ∀ v ∈ items, ReadsBack (writeValue indent v) (readBack v)) (nonempty : items ≠ [])
    (outer fuel : Nat) {rest : List Char}
    (enough : (joined indent (writeValue.writeAll indent items)).length < fuel) :
    readItems fuel (joined indent (writeValue.writeAll indent items) ++
        (newLine outer ++ ']' :: rest)) =
      (readBack.readBackAll items).map (fun back => (back, rest)) := by
  induction items generalizing fuel with
  | nil => exact absurd rfl nonempty
  | cons v items ih =>
      obtain ⟨fuel, rfl⟩ : ∃ n, fuel = n + 1 := ⟨fuel - 1, by omega⟩
      have first := each v List.mem_cons_self
      rw [writeValue.writeAll] at enough ⊢
      rw [readBack.readBackAll]
      cases items with
      | nil =>
          have value := first.reads fuel _ (Nat.lt_succ_iff.1 enough)
            (endsValue_newLine outer (']' :: rest))
          cases back : readBack v with
          | error reason =>
              rw [back] at value
              exact readItems_stop value
          | ok v' =>
              rw [back] at value
              exact readItems_last value (skipGaps_closing rfl outer rest)
      | cons next items =>
          have some : writeValue.writeAll indent (next :: items) ≠ [] := by simp [writeValue.writeAll]
          have length := length_joined_cons indent (writeValue indent v) some
          have others := ih (fun w mem => each w (List.mem_cons_of_mem v mem)) (by simp) fuel
            (by omega)
          have opens := skipGaps_joined indent (startsValue_writeValue indent next)
            (writeValue.writeAll indent items) (newLine outer ++ ']' :: rest)
          have value := first.reads fuel _ (by omega) (endsValue_comma
            (newLine indent ++ (joined indent (writeValue.writeAll indent (next :: items)) ++
              (newLine outer ++ ']' :: rest))))
          rw [joined_append indent _ some]
          cases back : readBack v with
          | error reason =>
              rw [back] at value
              exact readItems_stop value
          | ok v' =>
              rw [back] at value
              rw [readItems_next value rfl, writeValue.writeAll, opens, ← writeValue.writeAll, others]
              cases readBack.readBackAll (next :: items) with
              | error reason => rfl
              | ok back => rfl

theorem writeEntries_cons (entry : Value × Value) (entries : Entries) :
    writeValue.writeEntries indent (entry :: entries) =
      memberText (entry.1.text?.getD "") (writeValue indent entry.2) ::
        writeValue.writeEntries indent entries := rfl

theorem writeEntries_eq (indent : Nat) (entries : Entries) :
    writeValue.writeEntries indent entries =
      entries.map (fun e => memberText (e.1.text?.getD "") (writeValue indent e.2)) := by
  induction entries with
  | nil => rfl
  | cons e entries ih => rw [writeEntries_cons, ih, List.map_cons]

theorem writeAll_eq (indent : Nat) (items : List Value) :
    writeValue.writeAll indent items = items.map (writeValue indent) := by
  induction items with
  | nil => rfl
  | cons v items ih => rw [writeValue.writeAll, ih, List.map_cons]

theorem startsValue_memberText (name : String) (s : List Char) : StartsValue (memberText name s) :=
  ⟨'"', _, rfl, by decide⟩

theorem length_memberText (name : String) (s : List Char) :
    s.length < (memberText name s).length := by
  rw [memberText_eq]
  simp only [List.length_cons, List.length_append]
  omega

theorem memberText_append (name : String) (s more : List Char) :
    memberText name s ++ more = memberText name (s ++ more) := List.append_assoc _ _ _

/-- The members of an object are read back one after the other. -/
theorem readMembers_joined {entries : Entries}
    (each : ∀ e ∈ entries, ReadsBack (writeValue indent e.2) (readBack e.2)) (nonempty : entries ≠ [])
    (outer fuel : Nat) {rest : List Char}
    (enough : (joined indent (writeValue.writeEntries indent entries)).length ≤ fuel) :
    readMembers fuel (joined indent (writeValue.writeEntries indent entries) ++
        (newLine outer ++ '\x7d' :: rest)) =
      (readBack.readBackEntries entries).map (fun back => (back, rest)) := by
  induction entries generalizing fuel with
  | nil => exact absurd rfl nonempty
  | cons e entries ih =>
      obtain ⟨key, v⟩ := e
      have first := each (key, v) List.mem_cons_self
      have member := length_memberText (key.text?.getD "") (writeValue indent v)
      have starts := first.starts
      simp only at first starts
      rw [writeEntries_cons] at enough ⊢
      rw [readBack.readBackEntries]
      cases entries with
      | nil =>
          have enough' : (memberText (key.text?.getD "") (writeValue indent v)).length ≤ fuel := enough
          obtain ⟨fuel, rfl⟩ : ∃ n, fuel = n + 1 := ⟨fuel - 1, by omega⟩
          have value := first.reads fuel _ (by omega) (endsValue_newLine outer ('\x7d' :: rest))
          change readMembers (fuel + 1) (memberText _ (writeValue indent v) ++ _) = _
          rw [memberText_append]
          cases back : readBack v with
          | error reason =>
              rw [back] at value
              exact readMembers_stop _ (starts.append _) value
          | ok v' =>
              rw [back] at value
              exact readMembers_last _ (starts.append _) value (skipGaps_closing rfl outer rest)
      | cons next entries =>
          have some : writeValue.writeEntries indent (next :: entries) ≠ [] := by
            simp [writeEntries_cons]
          have length := length_joined_cons indent
            (memberText (key.text?.getD "") (writeValue indent v)) some
          obtain ⟨fuel, rfl⟩ : ∃ n, fuel = n + 1 := ⟨fuel - 1, by simp only at enough; omega⟩
          simp only at enough
          have others := ih (fun w mem => each w (List.mem_cons_of_mem _ mem)) (by simp) fuel
            (by omega)
          have opens := skipGaps_joined indent
            (startsValue_memberText (next.1.text?.getD "") (writeValue indent next.2))
            (writeValue.writeEntries indent entries) (newLine outer ++ '\x7d' :: rest)
          have value := first.reads fuel _ (by omega) (endsValue_comma
            (newLine indent ++ (joined indent (writeValue.writeEntries indent (next :: entries)) ++
              (newLine outer ++ '\x7d' :: rest))))
          rw [joined_append indent _ some, memberText_append]
          simp only
          cases back : readBack v with
          | error reason =>
              rw [back] at value
              exact readMembers_stop _ (starts.append _) value
          | ok v' =>
              rw [back] at value
              rw [readMembers_next _ (starts.append _) value rfl, writeEntries_cons, opens,
                ← writeEntries_cons, others]
              cases readBack.readBackEntries (next :: entries) with
              | error reason => rfl
              | ok back => rfl

theorem bracketed_append (left right : Char) {parts : List (List Char)} (nonempty : parts ≠ [])
    (rest : List Char) :
    bracketed indent left right parts ++ rest =
      left :: (newLine (indent + 2) ++ (joined (indent + 2) parts ++
        (newLine indent ++ right :: rest))) := by
  obtain ⟨part, parts, rfl⟩ := List.exists_cons_of_ne_nil nonempty
  simp [bracketed, joined]

theorem length_bracketed (indent : Nat) (left right : Char) {parts : List (List Char)}
    (nonempty : parts ≠ []) :
    (joined (indent + 2) parts).length + 2 ≤ (bracketed indent left right parts).length := by
  obtain ⟨part, parts, rfl⟩ := List.exists_cons_of_ne_nil nonempty
  simp only [bracketed, joined, List.length_append, List.length_cons, List.length_nil]
  omega

theorem readsBack_list (items : List Value)
    (each : ∀ v ∈ items, ReadsBack (writeValue (indent + 2) v) (readBack v)) :
    ReadsBack (writeValue indent (.list items)) (readBack (.list items)) where
  starts := startsValue_writeValue indent (.list items)
  reads fuel rest enough _ := by
    have some := lt_of_lt_of_le (startsValue_writeValue indent (.list items)).length_pos enough
    obtain ⟨fuel, rfl⟩ : ∃ n, fuel = n + 1 := ⟨fuel - 1, by omega⟩
    rw [writeValue] at enough ⊢
    rw [readBack]
    cases items with
    | nil => rfl
    | cons v items =>
        have parts : writeValue.writeAll (indent + 2) (v :: items) ≠ [] := by
          simp [writeValue.writeAll]
        have length := length_bracketed indent '[' ']' parts
        have opens := skipGaps_joined (indent + 2) (startsValue_writeValue (indent + 2) v)
          (writeValue.writeAll (indent + 2) items) (newLine indent ++ ']' :: rest)
        have starts := ((startsValue_writeValue (indent + 2) v).joined (indent + 2)
          (writeValue.writeAll (indent + 2) items)).append (newLine indent ++ ']' :: rest)
        rw [← opens] at starts
        rw [bracketed_append '[' ']' parts, writeValue.writeAll, readValue_list starts, opens,
          ← writeValue.writeAll, readItems_joined each (by simp) indent fuel (by omega)]
        cases readBack.readBackAll (v :: items) with
        | error reason => rfl
        | ok back => rfl

theorem readsBack_dict (entries : Entries)
    (each : ∀ e ∈ entries, ReadsBack (writeValue (indent + 2) e.2) (readBack e.2)) :
    ReadsBack (writeValue indent (.dict entries)) (readBack (.dict entries)) where
  starts := startsValue_writeValue indent (.dict entries)
  reads fuel rest enough _ := by
    have some := lt_of_lt_of_le (startsValue_writeValue indent (.dict entries)).length_pos enough
    obtain ⟨fuel, rfl⟩ : ∃ n, fuel = n + 1 := ⟨fuel - 1, by omega⟩
    rw [writeValue] at enough ⊢
    rw [readBack]
    cases entries with
    | nil => rfl
    | cons e entries =>
        have parts : writeValue.writeEntries (indent + 2) (e :: entries) ≠ [] := by
          simp [writeEntries_cons]
        have length := length_bracketed indent '\x7b' '\x7d' parts
        have first := startsValue_memberText (e.1.text?.getD "") (writeValue (indent + 2) e.2)
        have opens := skipGaps_joined (indent + 2) first
          (writeValue.writeEntries (indent + 2) entries) (newLine indent ++ '\x7d' :: rest)
        have starts := (first.joined (indent + 2)
          (writeValue.writeEntries (indent + 2) entries)).append (newLine indent ++ '\x7d' :: rest)
        rw [← opens] at starts
        rw [bracketed_append '\x7b' '\x7d' parts, writeEntries_cons, readValue_dict starts, opens,
          ← writeEntries_cons, readMembers_joined each (by simp) indent fuel (by omega)]
        cases readBack.readBackEntries (e :: entries) with
        | error reason => rfl
        | ok back => rfl

end Parts

/-- Induction on the parts that a document shows of a value. -/
theorem induction_of_parts {motive : Value → Prop}
    (list : ∀ items, (∀ v ∈ items, motive v) → motive (.list items))
    (dict : ∀ entries : Entries, (∀ e ∈ entries, motive e.2) → motive (.dict entries))
    (leaf : ∀ v, (∀ items, v ≠ .list items) → (∀ entries, v ≠ .dict entries) → motive v)
    (v : Value) : motive v := by
  cases v with
  | list items => exact list items (fun w mem => induction_of_parts list dict leaf w)
  | dict entries => exact dict entries (fun e mem => induction_of_parts list dict leaf e.2)
  | _ => exact leaf _ (by simp) (by simp)
termination_by sizeOf v
decreasing_by
  · have smaller := List.sizeOf_lt_of_mem mem
    simp only [Value.list.sizeOf_spec]
    omega
  · have smaller := List.sizeOf_lt_of_mem mem
    obtain ⟨key, w⟩ := e
    simp only [Prod.mk.sizeOf_spec] at smaller
    simp only [Value.dict.sizeOf_spec]
    omega

/-- The text of every value is read back as `readBack` says. -/
theorem readsBack_writeValue (v : Value) (indent : Nat) :
    ReadsBack (writeValue indent v) (readBack v) := by
  induction v using induction_of_parts generalizing indent with
  | list items each => exact readsBack_list items (fun w mem => each w mem _)
  | dict entries each => exact readsBack_dict entries (fun e mem => each e mem _)
  | leaf v notList notDict =>
      cases v with
      | bool b => exact readsBack_bool b
      | int i =>
          exact readsBack_of_readPlain (startsPlain_toString i) (fun _ ends => readPlain_int i ends)
      | float x =>
          exact readsBack_of_readPlain (startsPlain_writeFloat x) (fun _ ends => readPlain_float x ends)
      | str s => exact readsBack_writeText s
      | list items => exact absurd rfl (notList items)
      | dict entries => exact absurd rfl (notDict entries)
      | _ => exact readsBack_null

/-- What was written is read as a whole. -/
theorem read_write (v : Value) : read (write v).toList = readBack v := by
  have back := readsBack_writeValue v 0
  have ends : EndsValue [] := nofun
  have value := back.reads (2 * (writeValue 0 v).length + 2) [] (by omega) ends
  rw [List.append_nil] at value
  obtain ⟨c, rest, isText, -, -, -, noMark⟩ := back.starts
  have opens := skipGaps_of_startsValue back.starts
  rw [write, String.toList_ofList, read]
  · rw [opens, value]
    cases readBack v with
    | error reason => rfl
    | ok v' => rfl
  · intro rest' same
    rw [isText] at same
    exact noMark (List.cons.inj same).1

/-! ### Line ends -/

theorem noReturn_minus_digits (negative : Bool) {s : List Char}
    (chars : ∀ c ∈ s, c.isDigit = true ∨ c ∈ ['.', 'e', '+', '-']) : '\r' ∉ minus negative ++ s := by
  intro mem
  rcases List.mem_append.1 mem with inSign | inText
  · exact absurd (mem_minus inSign) (by decide)
  · exact absurd (chars _ inText) (by decide)

theorem noReturn_writeFloat (x : Binary64) : '\r' ∉ writeFloat x := by
  by_cases finite : x.isFinite = true
  · obtain ⟨negative, s, isText, -⟩ := writeFloat_of_finite finite
    rw [isText]
    exact noReturn_minus_digits negative (fun _ mem => s.mem_text mem)
  · rw [writeFloat_of_not_finite finite]
    decide

theorem noReturn_writeText (s : List Char) : '\r' ∉ writeText s := by
  have each : ∀ c, '\r' ∉ writeChar c := by
    intro c mem
    rcases writeChar_cases c with ⟨letter, -, -, notReturn, form⟩ | ⟨control, form⟩ |
      ⟨-, -, shown, form⟩
    · rw [form] at mem
      simp [notReturn.symm] at mem
    · have hexDigits : ∀ n : Fin 16, '\r' ≠ hexDigit n.val := by decide
      have high := hexDigits ⟨c.toNat / 16, by omega⟩
      have low := hexDigits ⟨c.toNat % 16, by omega⟩
      rw [form] at mem
      simp [high, low] at mem
    · rw [form, List.mem_singleton] at mem
      rw [← mem] at shown
      exact shown (by decide)
  intro mem
  rw [writeText, List.cons_append, List.mem_cons, List.mem_append, List.mem_flatMap] at mem
  rcases mem with quote | ⟨c, -, mem⟩ | quote
  · exact absurd quote (by decide)
  · exact each c mem
  · exact absurd quote (by decide)

theorem noReturn_newLine (indent : Nat) : '\r' ∉ newLine indent := by
  intro mem
  rcases List.mem_cons.1 mem with line | blank
  · exact absurd line (by decide)
  · exact absurd (List.eq_of_mem_replicate blank) (by decide)

theorem noReturn_bracketed (indent : Nat) {left right : Char} (isLeft : '\r' ≠ left)
    (isRight : '\r' ≠ right) {parts : List (List Char)} (each : ∀ part ∈ parts, '\r' ∉ part) :
    '\r' ∉ bracketed indent left right parts := by
  cases parts with
  | nil => simp [bracketed, isLeft, isRight]
  | cons part parts =>
      intro mem
      have noSeparator : '\r' ∉ ',' :: newLine (indent + 2) := by
        intro mem
        rcases List.mem_cons.1 mem with comma | mem
        · exact absurd comma (by decide)
        · exact noReturn_newLine _ mem
      simp only [bracketed, List.mem_append, List.mem_cons, List.not_mem_nil, or_false] at mem
      rcases mem with (((first | line) | inParts) | line) | last
      · exact isLeft first
      · exact noReturn_newLine _ line
      · rcases mem_joinWith inParts with inSeparator | ⟨piece, isPart, mem⟩
        · exact noSeparator inSeparator
        · exact each piece isPart mem
      · exact noReturn_newLine _ line
      · exact isRight last

/-- A document has no carriage returns: those of its texts are escaped. -/
theorem noReturn_writeValue (v : Value) (indent : Nat) : '\r' ∉ writeValue indent v := by
  induction v using induction_of_parts generalizing indent with
  | list items each =>
      refine noReturn_bracketed indent (by decide) (by decide) (fun part isPart => ?_)
      rw [writeAll_eq, List.mem_map] at isPart
      obtain ⟨w, mem, rfl⟩ := isPart
      exact each w mem _
  | dict entries each =>
      refine noReturn_bracketed indent (by decide) (by decide) (fun part isPart inPart => ?_)
      rw [writeEntries_eq, List.mem_map] at isPart
      obtain ⟨e, mem, rfl⟩ := isPart
      rw [memberText, List.mem_append, List.mem_append] at inPart
      rcases inPart with (inName | inColon) | inValue
      · exact noReturn_writeText _ inName
      · exact absurd inColon (by decide)
      · exact each e mem _ inValue
  | leaf v notList notDict =>
      cases v with
      | bool b => cases b <;> simp [writeValue]
      | int i =>
          rw [writeValue, toList_toString]
          exact noReturn_minus_digits _ (fun c mem => Or.inl (isDigits_decimalDigits _ c mem))
      | float x => exact noReturn_writeFloat x
      | str s => exact noReturn_writeText s.toList
      | list items => exact absurd rfl (notList items)
      | dict entries => exact absurd rfl (notDict entries)
      | _ => exact (by decide : '\r' ∉ "null".toList)

end LayeredFiles.Json
