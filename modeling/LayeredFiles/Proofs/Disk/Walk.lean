import LayeredFiles.Disk.Basic
/-
Module: LayeredFiles.Proofs.Disk.Walk
Layer: Proofs
Purpose: walks by what they pass. The names in front of the last one are passed one by one, and each of them
  leads to a folder; what is passed is one relation, and a walk is told by it and by what its last name
  leads to. What holds of every walk is shown along this relation.
Main exports: Disk.IsEntryName, Disk.Passes, Disk.Passes.walkFrom_append, Disk.Passes.walkFrom,
  Disk.exists_passes_of_walkFrom, Disk.walkFrom_eq_entry_iff, Disk.fits_of_walkFrom
-/

namespace LayeredFiles.Disk

theorem walkFrom_name (disk : Disk) (start : Place) (isOpen : Bool) {name : List Char}
    (rest : List (List Char)) (notDot : name ≠ ['.']) (notDots : name ≠ ['.', '.']) :
    disk.walkFrom start isOpen (name :: rest) =
      if nameLimit < (String.ofList name).utf8ByteSize then .error .nameTooLong
      else if rest = [] then .ok (.entry start (String.ofList name) isOpen)
      else match disk.find? (start ++ [String.ofList name]) with
        | none => .error .notFound
        | some (.file _) => .error .notDirectory
        | some .folder => disk.walkFrom (start ++ [String.ofList name]) isOpen rest :=
  walkFrom.eq_4 disk start isOpen name rest notDot notDots

/-- A name that an entry of a folder can have. -/
structure IsEntryName (name : List Char) : Prop where
  notDot : name ≠ ['.']
  notDots : name ≠ ['.', '.']
  fits : ¬nameLimit < (String.ofList name).utf8ByteSize

/-- The names lead from a folder to one, and every name on the way does. -/
inductive Passes (disk : Disk) : Place → List (List Char) → Place → Prop where
  | done (start : Place) : Passes disk start [] start
  | stay {start top : Place} {rest : List (List Char)} (passes : Passes disk start rest top) :
      Passes disk start (['.'] :: rest) top
  | back {start top : Place} {rest : List (List Char)} (passes : Passes disk start.dropLast rest top) :
      Passes disk start (['.', '.'] :: rest) top
  | enter {start top : Place} {name : List Char} {rest : List (List Char)} (isName : IsEntryName name)
      (isFolder : disk.find? (start ++ [String.ofList name]) = some .folder)
      (passes : Passes disk (start ++ [String.ofList name]) rest top) :
      Passes disk start (name :: rest) top

variable {disk : Disk} {start top : Place} {front rest names : List (List Char)} {isOpen : Bool}
  {spot : Spot}

/-! ### Names that are passed -/

namespace Passes

theorem append {middle : Place} (passesFront : Passes disk start front middle)
    (passesRest : Passes disk middle rest top) : Passes disk start (front ++ rest) top := by
  induction passesFront with
  | done start => exact passesRest
  | stay _ ih => exact .stay (ih passesRest)
  | back _ ih => exact .back (ih passesRest)
  | enter isName isFolder _ ih => exact .enter isName isFolder (ih passesRest)

theorem exists_front (passes : Passes disk start (front ++ rest) top) :
    ∃ middle, Passes disk start front middle := by
  induction front generalizing start with
  | nil => exact ⟨start, .done start⟩
  | cons name front ih =>
      cases passes with
      | stay passes => exact (ih passes).imp fun _ => .stay
      | back passes => exact (ih passes).imp fun _ => .back
      | enter isName isFolder passes => exact (ih passes).imp fun _ => .enter isName isFolder

/-- On a disk with the same folders, and maybe more, the names lead to the same one. -/
theorem mono {disk' : Disk}
    (folder : ∀ place, disk.find? place = some .folder → disk'.find? place = some .folder)
    (passes : Passes disk start names top) : Passes disk' start names top := by
  induction passes with
  | done start => exact .done start
  | stay _ ih => exact .stay ih
  | back _ ih => exact .back ih
  | enter isName isFolder _ ih => exact .enter isName (folder _ isFolder) ih

theorem fits (passes : Passes disk start names top) {name : List Char} (mem : name ∈ names) :
    (String.ofList name).utf8ByteSize ≤ nameLimit := by
  induction passes with
  | done start => cases mem
  | stay _ ih | back _ ih =>
      rcases List.mem_cons.1 mem with rfl | mem
      · decide
      · exact ih mem
  | enter isName _ _ ih =>
      rcases List.mem_cons.1 mem with rfl | mem
      · exact Nat.not_lt.1 isName.fits
      · exact ih mem

/-- A walk goes on from the folder that its first names lead to. -/
theorem walkFrom_append (passes : Passes disk start front top) (more : rest ≠ []) (isOpen : Bool) :
    disk.walkFrom start isOpen (front ++ rest) = disk.walkFrom top isOpen rest := by
  induction passes with
  | done start => rfl
  | stay _ ih => exact ih
  | back _ ih => exact ih
  | @enter start top name front isName isFolder _ ih =>
      have goesOn : front ++ rest ≠ [] := fun none => more (List.append_eq_nil_iff.1 none).2
      rw [List.cons_append, walkFrom_name disk start isOpen _ isName.notDot isName.notDots,
        if_neg isName.fits, if_neg goesOn, isFolder]
      exact ih

/-- A walk by the names ends at the folder, or right in front of its name. -/
theorem walkFrom (passes : Passes disk start names top) (isOpen : Bool) :
    disk.walkFrom start isOpen names = .ok (.folder top) ∨
      ∃ folder last, folder ++ [last] = top ∧ disk.find? top = some .folder ∧
        disk.walkFrom start isOpen names = .ok (.entry folder last isOpen) := by
  induction passes with
  | done start => exact .inl rfl
  | stay _ ih => exact ih
  | back _ ih => exact ih
  | @enter start top name rest isName isFolder passes ih =>
      rw [walkFrom_name disk start isOpen _ isName.notDot isName.notDots, if_neg isName.fits]
      by_cases isLast : rest = []
      · subst isLast
        cases passes
        exact .inr ⟨start, _, rfl, isFolder, if_pos rfl⟩
      · rw [if_neg isLast, isFolder]
        exact ih

end Passes

/-! ### Walks -/

/-- A walk that goes on behind some names has come to a folder by these. -/
theorem exists_passes_of_walkFrom (more : rest ≠ [])
    (walked : disk.walkFrom start isOpen (front ++ rest) = .ok spot) :
    ∃ top, Passes disk start front top ∧ disk.walkFrom top isOpen rest = .ok spot := by
  -- On the names in front; this is the only place where the cases of a step are told apart.
  induction front generalizing start with
  | nil => exact ⟨start, .done start, walked⟩
  | cons name front ih =>
      by_cases dot : name = ['.']
      · subst dot
        exact (ih walked).imp fun _ ⟨passes, goesOn⟩ => ⟨.stay passes, goesOn⟩
      · by_cases dots : name = ['.', '.']
        · subst dots
          exact (ih walked).imp fun _ ⟨passes, goesOn⟩ => ⟨.back passes, goesOn⟩
        · have goesOn : front ++ rest ≠ [] := fun none => more (List.append_eq_nil_iff.1 none).2
          rw [List.cons_append, walkFrom_name disk start isOpen _ dot dots, if_neg goesOn] at walked
          split at walked
          · cases walked
          · rename_i fits
            split at walked
            · cases walked
            · cases walked
            · rename_i isFolder
              exact (ih walked).imp fun _ ⟨passes, goesOn⟩ =>
                ⟨.enter ⟨dot, dots, fits⟩ isFolder passes, goesOn⟩

theorem walkFrom_singleton {name : List Char} (isName : IsEntryName name) :
    disk.walkFrom start isOpen [name] = .ok (.entry start (String.ofList name) isOpen) := by
  rw [walkFrom_name disk start isOpen [] isName.notDot isName.notDots, if_neg isName.fits, if_pos rfl]

/-- One name stays, leads back or is that of an entry. -/
theorem cases_of_walkFrom_singleton {name : List Char}
    (walked : disk.walkFrom start isOpen [name] = .ok spot) :
    (name = ['.'] ∧ spot = .folder start) ∨ (name = ['.', '.'] ∧ spot = .folder start.dropLast) ∨
      (IsEntryName name ∧ spot = .entry start (String.ofList name) isOpen) := by
  by_cases dot : name = ['.']
  · subst dot
    cases walked
    exact .inl ⟨rfl, rfl⟩
  · by_cases dots : name = ['.', '.']
    · subst dots
      cases walked
      exact .inr (.inl ⟨rfl, rfl⟩)
    · rw [walkFrom_name disk start isOpen [] dot dots] at walked
      split at walked
      · cases walked
      · rename_i fits
        cases walked
        exact .inr (.inr ⟨⟨dot, dots, fits⟩, rfl⟩)

/-- A walk ends at an entry if its last name is that of one and the others lead to the folder of it. -/
theorem walkFrom_eq_entry_iff {folder : Place} {last : String} {isOpen' : Bool} :
    disk.walkFrom start isOpen names = .ok (.entry folder last isOpen') ↔
      ∃ front name, names = front ++ [name] ∧ IsEntryName name ∧ last = String.ofList name ∧
        isOpen' = isOpen ∧ Passes disk start front folder := by
  constructor
  · intro walked
    rcases List.eq_nil_or_concat names with rfl | ⟨front, name, rfl⟩
    · cases walked
    · rw [List.concat_eq_append] at walked ⊢
      obtain ⟨top, passes, walkedLast⟩ := exists_passes_of_walkFrom (List.cons_ne_nil _ _) walked
      obtain ⟨-, none⟩ | ⟨-, none⟩ | ⟨isName, some⟩ := cases_of_walkFrom_singleton walkedLast
      · cases none
      · cases none
      · cases some
        exact ⟨front, name, rfl, isName, rfl, rfl, passes⟩
  · rintro ⟨front, name, rfl, isName, rfl, rfl, passes⟩
    rw [passes.walkFrom_append (List.cons_ne_nil _ _), walkFrom_singleton isName]

/-- No name of a walk that leads somewhere is too long. -/
theorem fits_of_walkFrom (walked : disk.walkFrom start isOpen names = .ok spot) {name : List Char}
    (mem : name ∈ names) : (String.ofList name).utf8ByteSize ≤ nameLimit := by
  rcases List.eq_nil_or_concat names with rfl | ⟨front, last, rfl⟩
  · cases mem
  · rw [List.concat_eq_append] at walked mem
    obtain ⟨top, passes, walkedLast⟩ := exists_passes_of_walkFrom (List.cons_ne_nil _ _) walked
    rcases List.mem_append.1 mem with mem | mem
    · exact passes.fits mem
    · rw [List.mem_singleton] at mem
      subst mem
      obtain ⟨rfl, -⟩ | ⟨rfl, -⟩ | ⟨isName, -⟩ := cases_of_walkFrom_singleton walkedLast
      · decide
      · decide
      · exact Nat.not_lt.1 isName.fits

end LayeredFiles.Disk
