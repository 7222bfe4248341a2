import LayeredFiles.Proofs.NormalPath
import LayeredFiles.Settings.Validate
/-
Module: LayeredFiles.Proofs.Settings.Valid
Layer: Proofs
Purpose: what the checks of settings guarantee. Settings that were accepted have a normal path, at least one
  file at once and a limit of time above zero, if there is one.
Main exports: BatchSettings.IsValid, Settings.IsValid, Settings.isValid_of_checkBatch,
  Settings.isValid_of_validateBatch, Settings.isValid_of_checkSettings
-/

namespace LayeredFiles

open Number

/-! ### Valid settings -/

/-- At least one file at once, and a limit of time above zero if there is one. -/
structure BatchSettings.IsValid (b : BatchSettings) : Prop where
  parallel : 1 ≤ b.maxParallel
  timeout : ∀ x, b.chainTimeout = some x → Binary64.compareInt? 0 x = some .lt

namespace Settings

/-- A normal path and valid settings of a batch; texts and truth values are always valid. -/
structure IsValid (s : Settings) : Prop where
  path : s.templatesPath.IsNormal
  batch : s.batch.IsValid

theorem of_map {α β ε : Type} {f : α → β} {a : Except ε α} {b : β} (passed : a.map f = .ok b) :
    ∃ result, a = .ok result ∧ f result = b := by
  cases a with
  | error fault => cases passed
  | ok result =>
      cases passed
      exact ⟨result, rfl, rfl⟩

theorem of_both {α β : Type} {a : Checked α} {b : Checked β} {result : α × β}
    (passed : both a b = .ok result) : a = .ok result.1 ∧ b = .ok result.2 := by
  unfold both at passed
  split at passed
  · cases passed
    exact ⟨rfl, rfl⟩
  · cases passed
  · cases passed
  · cases passed

/-- A field that passes has its default where it is not given, and else a value that passes its check. -/
theorem of_check {α : Type} {place : List String} {entries : Entries} {name : String}
    {otherwise a : α} {field : Value → Field α}
    (passed : check place entries name otherwise field = .ok a) :
    (Entries.find? entries name = none ∧ a = otherwise) ∨
      ∃ v, Entries.find? entries name = some v ∧ field v = .ok a := by
  unfold check at passed
  split at passed
  · rename_i absent
    cases passed
    exact Or.inl ⟨absent, rfl⟩
  · rename_i v given
    split at passed
    · rename_i isValue
      cases passed
      exact Or.inr ⟨v, given, isValue⟩
    · cases passed

theorem isNormal_of_pathValue {v : Value} {p : NormalPath} (passed : pathValue v = .ok p) :
    p.IsNormal := by
  cases v with
  | str s =>
      cases passed
      exact NormalPath.isNormal_ofString s
  | _ => cases passed

theorem one_le_of_parallelValue {v : Value} {i : Int} (passed : parallelValue v = .ok i) : 1 ≤ i := by
  unfold parallelValue at passed
  cases whole : wholeNumber v with
  | error problem =>
      rw [whole] at passed
      cases passed
  | ok j =>
      rw [whole] at passed
      simp only [bind, Except.bind] at passed
      split at passed
      · rename_i atLeast
        cases passed
        exact atLeast
      · cases passed

/-- A limit of time that is checked is none, or it is a number above zero. -/
theorem timeoutValue_eq (v : Value) :
    timeoutValue v = .ok none ∨
      timeoutValue v = (do
        let x ← realNumber v
        if Binary64.compareInt? 0 x = some .lt then pure (some x) else throw (.above 0)) := by
  cases v with
  | null => exact Or.inl rfl
  | _ => exact Or.inr rfl

theorem positive_of_timeoutValue {v : Value} {x : Binary64}
    (passed : timeoutValue v = .ok (some x)) : Binary64.compareInt? 0 x = some .lt := by
  rcases timeoutValue_eq v with none | isNumber
  · rw [none] at passed
    cases passed
  · rw [isNumber] at passed
    cases real : realNumber v with
    | error problem =>
        rw [real] at passed
        cases passed
    | ok y =>
        rw [real] at passed
        simp only [bind, Except.bind] at passed
        split at passed
        · rename_i above
          cases passed
          exact above
        · cases passed

theorem isValid_default : BatchSettings.default.IsValid := ⟨by decide, nofun⟩

theorem isValid_of_checkBatch {isDocument : Bool} {place : List String} {v : Value}
    {b : BatchSettings} (passed : checkBatch isDocument place v = .ok b) : b.IsValid := by
  cases v with
  | dict entries =>
      obtain ⟨⟨maxParallel, chainTimeout⟩, fields, rfl⟩ := of_map passed
      obtain ⟨parallel, timeout⟩ := of_both fields
      simp only at parallel timeout ⊢
      constructor
      · rcases of_check parallel with ⟨-, rfl⟩ | ⟨w, -, isValue⟩
        · exact isValid_default.parallel
        · exact one_le_of_parallelValue isValue
      · rintro x rfl
        rcases of_check timeout with ⟨-, default⟩ | ⟨w, -, isValue⟩
        · cases default
        · exact positive_of_timeoutValue isValue
  | _ => cases passed

theorem isValid_of_checkBatchField {isDocument : Bool} {entries : Entries} {b : BatchSettings}
    (passed : checkBatchField isDocument entries = .ok b) : b.IsValid := by
  unfold checkBatchField at passed
  split at passed
  · cases passed
    exact isValid_default
  · exact isValid_of_checkBatch passed

/-- What was accepted is valid. -/
theorem isValid_of_checkSettings {isDocument : Bool} {home : NormalPath} {v : Value} {s : Settings}
    (isNormal : home.IsNormal) (passed : checkSettings isDocument home v = .ok s) : s.IsValid := by
  cases v with
  | dict entries =>
      obtain ⟨⟨templatesPath, encoding, verbose, batch⟩, fields, rfl⟩ := of_map passed
      obtain ⟨path, others⟩ := of_both fields
      obtain ⟨-, others⟩ := of_both others
      obtain ⟨-, inBatch⟩ := of_both others
      simp only at path inBatch ⊢
      refine ⟨?_, isValid_of_checkBatchField inBatch⟩
      rcases of_check path with ⟨-, rfl⟩ | ⟨w, -, isValue⟩
      · exact isNormal
      · exact isNormal_of_pathValue isValue
  | _ => cases passed

theorem of_reported {α : Type} {title : String} {result : Checked α} {a : α}
    (passed : reported title result = .ok a) : result = .ok a := by
  cases result with
  | error faults => cases passed
  | ok b =>
      cases passed
      rfl

theorem isValid_of_validateBatch {v : Value} {b : BatchSettings} (passed : validateBatch v = .ok b) :
    b.IsValid :=
  isValid_of_checkBatch (of_reported passed)

end Settings

end LayeredFiles
