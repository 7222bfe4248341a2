import LayeredFiles.Fault
/-
Module: LayeredFiles.Proofs.Fault
Layer: Proofs
Purpose: what operations fail with and what they give, in one statement that goes through a sequence of
  operations. Among the faults are those by which something that was given is found malformed; like all
  faults of a value they are reported.
Main exports: Yields, Yields.bind, Yields.map, Fault.isAnnounced, Fault.IsMalformed,
  Fault.IsMarkup, Fault.IsUnshown
-/

namespace LayeredFiles

variable {α β : Type} {Bad Bad' : Fault → Prop} {Good Good' : α → Prop}

theorem eq_ok_of_toOption {ε α : Type} {x : Except ε α} {a : α} (isSome : x.toOption = some a) :
    x = .ok a := by
  cases x with
  | error fault => cases isSome
  | ok b =>
      cases isSome
      rfl

theorem mapM_eq_ok {f : α → Except Fault β} {g : α → β} {items : List α}
    (same : ∀ a ∈ items, f a = .ok (g a)) : items.mapM f = .ok (items.map g) := by
  induction items with
  | nil => rfl
  | cons a rest ih =>
      rw [List.mapM_cons, same a List.mem_cons_self, ih (fun a mem => same a (List.mem_cons_of_mem _ mem))]
      rfl

theorem forM_eq_ok {f : α → Except Fault Unit} {items : List α} (each : ∀ a ∈ items, f a = .ok ()) :
    items.forM f = .ok () := by
  induction items with
  | nil => rfl
  | cons a rest ih =>
      rw [List.forM, each a List.mem_cons_self]
      exact ih (fun a mem => each a (List.mem_cons_of_mem _ mem))

section Results

variable {ε : Type} {f : α → Except ε β}

theorem bind_eq_ok_iff {made : Except ε α} {b : β} : made >>= f = .ok b ↔ ∃ a, made = .ok a ∧ f a = .ok b := by
  cases made with
  | error fault => exact iff_of_false (fun same => by cases same) (by simp)
  | ok a => simp [bind, Except.bind]

theorem mapM_cons_eq_ok_iff {a : α} {items : List α} {results : List β} :
    (a :: items).mapM f = .ok results ↔
      ∃ b bs, f a = .ok b ∧ items.mapM f = .ok bs ∧ results = b :: bs := by
  rw [List.mapM_cons]
  cases f a with
  | error fault => exact iff_of_false (fun same => by cases same) (by simp)
  | ok b =>
      cases items.mapM f with
      | error fault => exact iff_of_false (fun same => by cases same) (by simp)
      | ok bs =>
          change (.ok (b :: bs) : Except ε (List β)) = .ok results ↔ _
          simp [eq_comm]

/-- One operation for each item gives results just if each of them gives one. -/
theorem exists_mapM_eq_ok_iff {items : List α} :
    (∃ results, items.mapM f = .ok results) ↔ ∀ a ∈ items, ∃ b, f a = .ok b := by
  induction items with
  | nil => exact iff_of_true ⟨[], rfl⟩ (by simp)
  | cons a rest ih =>
      rw [List.forall_mem_cons, ← ih]
      constructor
      · rintro ⟨results, made⟩
        obtain ⟨b, bs, here, behind, -⟩ := mapM_cons_eq_ok_iff.1 made
        exact ⟨⟨b, here⟩, bs, behind⟩
      · rintro ⟨⟨b, here⟩, bs, behind⟩
        exact ⟨b :: bs, mapM_cons_eq_ok_iff.2 ⟨b, bs, here, behind, rfl⟩⟩

theorem length_of_mapM_eq_ok {items : List α} {results : List β} (made : items.mapM f = .ok results) :
    results.length = items.length := by
  induction items generalizing results with
  | nil =>
      cases made
      rfl
  | cons a rest ih =>
      obtain ⟨b, bs, -, behind, rfl⟩ := mapM_cons_eq_ok_iff.1 made
      rw [List.length_cons, List.length_cons, ih behind]

end Results

/-- The operation fails with a fault of one kind, or gives a result of one kind. -/
def Yields (Bad : Fault → Prop) (Good : α → Prop) : Except Fault α → Prop
  | .error fault => Bad fault
  | .ok a => Good a

namespace Yields

theorem mono {x : Except Fault α} (yields : Yields Bad Good x) (bad : ∀ fault, Bad fault → Bad' fault)
    (good : ∀ a, Good a → Good' a) : Yields Bad' Good' x := by
  cases x with
  | error fault => exact bad fault yields
  | ok a => exact good a yields

/-- One operation after another fails like the first or ends like the second. -/
theorem bind {Good' : β → Prop} {x : Except Fault α} {next : α → Except Fault β}
    (yields : Yields Bad Good x) (continues : ∀ a, Good a → Yields Bad Good' (next a)) :
    Yields Bad Good' (x >>= next) := by
  cases x with
  | error fault => exact yields
  | ok a => exact continues a yields

theorem map {Good' : β → Prop} {x : Except Fault α} {f : α → β} (yields : Yields Bad Good x)
    (good : ∀ a, Good a → Good' (f a)) : Yields Bad Good' (x.map f) := by
  cases x with
  | error fault => exact yields
  | ok a => exact good a yields

/-- One operation for each item fails like one of them. -/
theorem mapM {f : α → Except Fault β} (items : List α)
    (yields : ∀ a, Yields Bad (fun _ => True) (f a)) : Yields Bad (fun _ => True) (items.mapM f) := by
  induction items with
  | nil => exact True.intro
  | cons a rest ih =>
      rw [List.mapM_cons]
      apply (yields a).bind
      intro b _
      apply ih.bind
      intro bs _
      exact True.intro

theorem forM {f : α → Except Fault Unit} (items : List α)
    (yields : ∀ a, Yields Bad (fun _ => True) (f a)) : Yields Bad (fun _ => True) (items.forM f) := by
  induction items with
  | nil => exact True.intro
  | cons a rest ih =>
      rw [List.forM]
      apply (yields a).bind
      intro _ _
      exact ih

/-- The fault is the one that the operation fails with. -/
theorem failing {x : Except Fault α} (yields : Yields Bad Good x) :
    Yields (fun fault => x = .error fault ∧ Bad fault) Good x := by
  cases x with
  | error fault => exact ⟨rfl, yields⟩
  | ok a => exact yields

theorem cases {x : Except Fault α} (yields : Yields Bad Good x) :
    (∃ fault, x = .error fault ∧ Bad fault) ∨ ∃ a, x = .ok a ∧ Good a := by
  cases x with
  | error fault => exact Or.inl ⟨fault, rfl, yields⟩
  | ok a => exact Or.inr ⟨a, rfl, yields⟩

end Yields

/-- The faults that the loading of a context announces: those of files and of their bytes, and those of
    malformed documents and values. -/
def Fault.isAnnounced : Fault → Bool
  | .value _ => true
  | .disk _ => true
  | .json _ => true
  | .codec (.unknownEncoding _) => false
  | .codec (.notTextEncoding _) => false
  | .codec _ => true
  | _ => false

theorem Fault.isReported_of_isAnnounced {fault : Fault} (announced : fault.isAnnounced = true) :
    fault.isReported = true := by
  cases fault with
  | value fault => rfl
  | disk fault => rfl
  | json fault => rfl
  | codec fault =>
      cases fault with
      | unknownEncoding name => cases announced
      | notTextEncoding name => cases announced
      | _ => rfl
  | _ => cases announced

/-- Something was given that is malformed: a text that is no number, or a field that fails its check. -/
inductive Fault.IsMalformed : Fault → Prop
  | value (fault : ValueFault) : Fault.IsMalformed (.value fault)
  | settings (fault : ValidationFault) : Fault.IsMalformed (.settings fault)

/-- A tag of a console text cannot be followed. -/
inductive Fault.IsMarkup : Fault → Prop
  | mk (fault : MarkupFault) : Fault.IsMarkup (.markup fault)

/-- Why a console text cannot be shown: a tag of it cannot be followed, or asks for a colour with a part that
    is no number. Only the colour is reported. -/
inductive Fault.IsUnshown : Fault → Prop
  | markup (fault : MarkupFault) : Fault.IsUnshown (.markup fault)
  | noNumber (text : String) : Fault.IsUnshown (.value (.intText 10 text))
  | longNumber (digits : Nat) : Fault.IsUnshown (.value (.intTextTooLong digits))

theorem Fault.IsUnshown.isMarkup {fault : Fault} (isUnshown : fault.IsUnshown)
    (unsaid : fault.isReported = false) : fault.IsMarkup := by
  cases isUnshown with
  | markup fault => exact .mk fault
  | noNumber text => cases unsaid
  | longNumber digits => cases unsaid

/-- What is malformed is reported. -/
theorem Fault.IsMalformed.isReported {fault : Fault} (malformed : fault.IsMalformed) :
    fault.isReported = true := by
  cases malformed with
  | value fault => rfl
  | settings fault => rfl

end LayeredFiles
