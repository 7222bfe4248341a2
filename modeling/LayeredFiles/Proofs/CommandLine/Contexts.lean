import LayeredFiles.Proofs.CommandLine.Ending
import LayeredFiles.Proofs.Text.Split
import LayeredFiles.Proofs.Value.Entries
import Mathlib.Data.List.Forall2
import Mathlib.Data.List.Induction
/-
Module: LayeredFiles.Proofs.CommandLine.Contexts
Layer: Proofs
Purpose: the contexts that command lines make up. Assignments are read one after another, and the first item
  that is none is the one that is told. Of the others each key counts once, at the place of its first item and
  with the text of its last. On top of a file they leave its keys where they are, and new keys come behind.
Main exports: Assigns, IsNoAssignment, firstKeys, lastText, grouped, Overlays, readAssignments_eq_ok_iff,
  readAssignments_eq_error_iff, CommandLine.contextFor_overlays
-/

namespace LayeredFiles

open Text

/-! ### One item -/

/-- The key and the text that an item assigns: what stands before its first equals sign, without the blanks
    around it, and everything behind that sign. -/
inductive Assigns (item : String) : String × String → Prop
  | mk {before text : List Char} (isCut : item.toList = before ++ '=' :: text) (first : '=' ∉ before)
      (hasKey : strip before ≠ []) : Assigns item (String.ofList (strip before), String.ofList text)

/-- An item that assigns nothing: it has no equals sign, or nothing but blanks before the first. -/
inductive IsNoAssignment (item : String) : Prop
  | noSign (absent : '=' ∉ item.toList) : IsNoAssignment item
  | noKey {before text : List Char} (isCut : item.toList = before ++ '=' :: text) (first : '=' ∉ before)
      (blank : ∀ c ∈ before, isBlank c = true) : IsNoAssignment item

/-- Nothing is left of a text without its outer blanks just if it has nothing but blanks. -/
theorem strip_eq_nil_iff {s : List Char} : strip s = [] ↔ ∀ c ∈ s, isBlank c = true := by
  rw [strip, stripRight, List.reverse_eq_nil_iff, List.dropWhile_eq_nil_iff, stripLeft]
  constructor
  · intro blankBehind c mem
    rw [← List.takeWhile_append_dropWhile (p := isBlank) (l := s)] at mem
    rcases List.mem_append.1 mem with front | behind
    · exact List.mem_takeWhile_imp front
    · exact blankBehind c (List.mem_reverse.2 behind)
  · intro blank c mem
    exact blank c ((List.dropWhile_sublist _).subset (List.mem_reverse.1 mem))

theorem assignmentOf_of_cut {item : String} {before text : List Char}
    (isCut : item.toList = before ++ '=' :: text) (first : '=' ∉ before) :
    assignmentOf item = if strip before = [] then .error (.value (.assignment item))
      else .ok (String.ofList (strip before), String.ofList text) := by
  rw [assignmentOf, cutAt?_singleton_eq_some_iff.2 ⟨isCut, first⟩]
  cases isKey : strip before with
  | nil => simp only [isKey, if_true]
  | cons c key => simp [isKey]

theorem assignmentOf_of_noSign {item : String} (absent : '=' ∉ item.toList) :
    assignmentOf item = .error (.value (.assignment item)) := by
  rw [assignmentOf, cutAt?_singleton_eq_none_iff.2 absent]

/-- A text is cut at its first equals sign, if it has one. -/
theorem exists_cut_or_noSign (s : List Char) :
    (∃ before text, s = before ++ '=' :: text ∧ '=' ∉ before) ∨ '=' ∉ s := by
  cases cut : cutAt? ['='] s with
  | none => exact Or.inr (cutAt?_singleton_eq_none_iff.1 cut)
  | some parts => exact Or.inl ⟨parts.1, parts.2, cutAt?_singleton_eq_some_iff.1 cut⟩

theorem assignmentOf_eq_ok_iff {item : String} {p : String × String} :
    assignmentOf item = .ok p ↔ Assigns item p := by
  constructor
  · intro assigned
    rcases exists_cut_or_noSign item.toList with ⟨before, text, isCut, first⟩ | absent
    · rw [assignmentOf_of_cut isCut first] at assigned
      split at assigned
      · cases assigned
      · rename_i hasKey
        cases assigned
        exact .mk isCut first hasKey
    · rw [assignmentOf_of_noSign absent] at assigned
      cases assigned
  · rintro ⟨isCut, first, hasKey⟩
    rw [assignmentOf_of_cut isCut first, if_neg hasKey]

theorem assignmentOf_eq_error_iff {item : String} {fault : Fault} :
    assignmentOf item = .error fault ↔ IsNoAssignment item ∧ fault = .value (.assignment item) := by
  constructor
  · intro refused
    rcases exists_cut_or_noSign item.toList with ⟨before, text, isCut, first⟩ | absent
    · rw [assignmentOf_of_cut isCut first] at refused
      split at refused
      · rename_i noKey
        cases refused
        exact ⟨.noKey isCut first (strip_eq_nil_iff.1 noKey), rfl⟩
      · cases refused
    · rw [assignmentOf_of_noSign absent] at refused
      cases refused
      exact ⟨.noSign absent, rfl⟩
  · rintro ⟨noSign | ⟨isCut, first, blank⟩, rfl⟩
    · exact assignmentOf_of_noSign noSign
    · rw [assignmentOf_of_cut isCut first, if_pos (strip_eq_nil_iff.2 blank)]

/-- An item that assigns something is not one that assigns nothing. -/
theorem Assigns.not_isNoAssignment {item : String} {p : String × String} (assigns : Assigns item p) :
    ¬IsNoAssignment item := by
  intro nothing
  have refused := assignmentOf_eq_error_iff.2 ⟨nothing, rfl⟩
  rw [assignmentOf_eq_ok_iff.2 assigns] at refused
  cases refused

/-! ### Items one after another -/

/-- Pairs of texts as entries. -/
def texts (pairs : List (String × String)) : Entries := pairs.map (fun p => (.str p.1, .str p.2))

theorem assign_of_ok {item : String} {p : String × String} (assigned : assignmentOf item = .ok p)
    (context : Entries) : assign context (.str item) = .ok (context.set (.str p.1) (.str p.2)) := by
  rw [assign, assigned]
  rfl

theorem assign_of_error {item : String} {fault : Fault} (refused : assignmentOf item = .error fault)
    (context : Entries) : assign context (.str item) = .error fault := by
  rw [assign, refused]
  rfl

/-- Items of which each assigns something bind their keys one after another. -/
theorem foldlM_assign_of_assigns {items : List String} {pairs : List (String × String)}
    (assigned : List.Forall₂ Assigns items pairs) (context : Entries) :
    (items.map Value.str).foldlM assign context = .ok (context.update (texts pairs)) := by
  induction assigned generalizing context with
  | nil => rfl
  | cons here _ ih =>
      rw [List.map_cons, List.foldlM_cons, assign_of_ok (assignmentOf_eq_ok_iff.2 here)]
      exact ih _

/-- The first item that assigns nothing ends the reading. -/
theorem foldlM_assign_of_isNoAssignment {front rest : List String} {item : String}
    {pairs : List (String × String)} (assigned : List.Forall₂ Assigns front pairs)
    (nothing : IsNoAssignment item) (context : Entries) :
    ((front ++ item :: rest).map Value.str).foldlM assign context =
      .error (.value (.assignment item)) := by
  rw [List.map_append, List.foldlM_append, foldlM_assign_of_assigns assigned]
  change (((item :: rest).map Value.str).foldlM assign _ : Except Fault Entries) = _
  rw [List.map_cons, List.foldlM_cons, assign_of_error (assignmentOf_eq_error_iff.2 ⟨nothing, rfl⟩)]
  rfl

/-- Each item assigns something, or there is a first one that does not. -/
theorem exists_assigned_or_first (items : List String) :
    (∃ pairs, List.Forall₂ Assigns items pairs) ∨
      ∃ front item rest pairs, items = front ++ item :: rest ∧ List.Forall₂ Assigns front pairs ∧
        IsNoAssignment item := by
  induction items with
  | nil => exact Or.inl ⟨[], .nil⟩
  | cons item items ih =>
      cases read : assignmentOf item with
      | error fault =>
          exact Or.inr ⟨[], item, items, [], rfl, .nil, (assignmentOf_eq_error_iff.1 read).1⟩
      | ok p =>
          have here : Assigns item p := assignmentOf_eq_ok_iff.1 read
          rcases ih with ⟨pairs, assigned⟩ | ⟨front, other, rest, pairs, rfl, assigned, nothing⟩
          · exact Or.inl ⟨p :: pairs, .cons here assigned⟩
          · exact Or.inr ⟨item :: front, other, rest, p :: pairs, rfl, .cons here assigned, nothing⟩

theorem not_isNoAssignment_of_forall₂ {items : List String} {pairs : List (String × String)}
    (assigned : List.Forall₂ Assigns items pairs) : ∀ item ∈ items, ¬IsNoAssignment item := by
  induction assigned with
  | nil => simp
  | cons here _ ih => exact List.forall_mem_cons.2 ⟨here.not_isNoAssignment, ih⟩

/-! ### Each key once -/

/-- The keys of some pairs, each once, in the order of their first pairs. -/
def firstKeys (pairs : List (String × String)) : List String := (pairs.map Prod.fst).eraseDups

/-- The text of the last of some pairs with a key. -/
def lastText (pairs : List (String × String)) (key : String) : Option String :=
  pairs.reverse.lookup key

/-- Each key of some pairs once, at the place of its first pair and with the text of its last. -/
def grouped (pairs : List (String × String)) : List (String × String) :=
  (firstKeys pairs).map (fun key => (key, (lastText pairs key).getD ""))

theorem mem_firstKeys_iff {pairs : List (String × String)} {key : String} :
    key ∈ firstKeys pairs ↔ key ∈ pairs.map Prod.fst := List.mem_eraseDups

theorem firstKeys_append_of_mem {front : List (String × String)} {p : String × String}
    (known : p.1 ∈ front.map Prod.fst) : firstKeys (front ++ [p]) = firstKeys front := by
  simp only [firstKeys, List.map_append, List.eraseDups_append, List.map_cons, List.map_nil]
  simp [List.removeAll, known]

theorem firstKeys_append_of_notMem {front : List (String × String)} {p : String × String}
    (new : p.1 ∉ front.map Prod.fst) : firstKeys (front ++ [p]) = firstKeys front ++ [p.1] := by
  simp only [firstKeys, List.map_append, List.eraseDups_append, List.map_cons, List.map_nil]
  simp [List.removeAll, new, List.eraseDups_cons]

theorem nodup_firstKeys (pairs : List (String × String)) : (firstKeys pairs).Nodup := by
  induction pairs using List.reverseRecOn with
  | nil => exact List.nodup_nil
  | append_singleton front p ih =>
      by_cases known : p.1 ∈ front.map Prod.fst
      · rwa [firstKeys_append_of_mem known]
      · rw [firstKeys_append_of_notMem known, List.nodup_append]
        refine ⟨ih, List.nodup_singleton _, ?_⟩
        intro key mem other isLast
        rw [List.mem_singleton.1 isLast]
        exact fun same => known (mem_firstKeys_iff.1 (same ▸ mem))

theorem lastText_append_self (front : List (String × String)) (p : String × String) :
    lastText (front ++ [p]) p.1 = some p.2 := by
  obtain ⟨key, text⟩ := p
  simp [lastText]

theorem lastText_append_of_ne (front : List (String × String)) {p : String × String} {key : String}
    (differs : p.1 ≠ key) : lastText (front ++ [p]) key = lastText front key := by
  obtain ⟨other, text⟩ := p
  have passed : (key == other) = false := by simpa using Ne.symm differs
  simp [lastText, List.lookup_cons, passed]

theorem eraseDups_of_nodup {names : List String} (distinct : names.Nodup) :
    names.eraseDups = names := by
  induction names using List.reverseRecOn with
  | nil => rfl
  | append_singleton front name ih =>
      rw [List.nodup_append] at distinct
      have new : name ∉ front := fun mem => distinct.2.2 name mem name (by simp) rfl
      rw [List.eraseDups_append, ih distinct.1]
      simp [List.removeAll, new, List.eraseDups_cons]

/-- Where the text depends on the key alone, a key that is there has its text. -/
theorem lookup_map_of_key (f : String → String) (keys : List String) (key : String) :
    (keys.map (fun k => (k, f k))).lookup key = if key ∈ keys then some (f key) else none := by
  induction keys with
  | nil => rfl
  | cons k rest ih =>
      rw [List.map_cons, List.lookup_cons]
      by_cases same : key = k
      · simp [same]
      · have passed : (key == k) = false := by simpa using same
        simp [passed, ih, same]

/-- A key has a last text just if it is one of the keys. -/
theorem lastText_isSome_iff {pairs : List (String × String)} {key : String} :
    (lastText pairs key).isSome = true ↔ key ∈ pairs.map Prod.fst := by
  rw [lastText, List.lookup_isSome_iff, List.mem_map]
  apply exists_congr
  intro p
  rw [List.mem_reverse, beq_iff_eq]
  exact and_congr_right' eq_comm

/-- The keys and the texts stay as they are when each key is there once. -/
theorem firstKeys_grouped (pairs : List (String × String)) :
    firstKeys (grouped pairs) = firstKeys pairs := by
  have isKeys : (grouped pairs).map Prod.fst = firstKeys pairs := by
    rw [grouped, List.map_map]
    exact List.map_id _
  rw [firstKeys, isKeys, eraseDups_of_nodup (nodup_firstKeys pairs)]

theorem lastText_grouped (pairs : List (String × String)) (key : String) :
    lastText (grouped pairs) key = lastText pairs key := by
  rw [lastText, grouped, ← List.map_reverse, lookup_map_of_key]
  simp only [List.mem_reverse, mem_firstKeys_iff, ← lastText_isSome_iff]
  cases lastText pairs key with
  | none => rfl
  | some text => rfl

/-! ### One context on top of another -/

/-- A context is what other entries become when pairs are bound on top of them. -/
structure Overlays (context bound : Entries) (pairs : List (String × String)) : Prop where
  /-- The keys that were bound stay in front, and the new ones follow in the order of their first pairs. -/
  keys : context.keys = bound.keys ++
    ((firstKeys pairs).filter (fun key => (Entries.find? bound key).isNone)).map .str
  /-- A key of the pairs has the text of its last pair. -/
  assigned : ∀ key text, lastText pairs key = some text → Entries.find? context key = some (.str text)
  /-- Every other key has the value it had. -/
  others : ∀ key, (∀ p ∈ pairs, (Value.str p.1).equals key = false) →
    context.get? key = bound.get? key

namespace Overlays

theorem nil (bound : Entries) : Overlays bound bound [] := by
  refine ⟨?_, ?_, fun _ _ => rfl⟩
  · simp [firstKeys]
  · intro key text isLast
    cases isLast

section Append

variable {context bound : Entries} {front : List (String × String)}

/-- A key is there if it was bound or is one of the keys of the pairs. -/
theorem find?_ne_none_iff (overlays : Overlays context bound front) (key : String) :
    Entries.find? context key ≠ none ↔
      Entries.find? bound key ≠ none ∨ key ∈ front.map Prod.fst := by
  by_cases known : key ∈ front.map Prod.fst
  · obtain ⟨text, isLast⟩ := Option.isSome_iff_exists.1 (lastText_isSome_iff.2 known)
    simp [overlays.assigned key text isLast, known]
  · have same : Entries.find? context key = Entries.find? bound key := by
      apply overlays.others
      intro p mem
      rw [Value.str_equals_str, beq_eq_false_iff_ne]
      exact fun same => known (same ▸ List.mem_map_of_mem mem)
    rw [same, or_iff_left known]

/-- One more pair is bound on top. -/
theorem append (overlays : Overlays context bound front) (p : String × String) :
    Overlays (context.set (.str p.1) (.str p.2)) bound (front ++ [p]) := by
  have there := overlays.find?_ne_none_iff p.1
  refine ⟨?_, ?_, ?_⟩
  · by_cases known : p.1 ∈ front.map Prod.fst
    · rw [Entries.keys_set_of_present _ (there.2 (Or.inr known)), firstKeys_append_of_mem known,
        overlays.keys]
    · rw [firstKeys_append_of_notMem known, List.filter_append, List.map_append]
      cases wasBound : Entries.find? bound p.1 with
      | some v =>
          rw [Entries.keys_set_of_present _ (there.2 (Or.inl (by simp [wasBound]))), overlays.keys]
          simp [wasBound]
      | none =>
          have absent : Entries.find? context p.1 = none := by
            by_contra present
            exact (there.1 present).elim (· wasBound) known
          rw [Entries.keys_set_of_new _ absent, overlays.keys]
          simp [wasBound]
  · intro key text isLast
    by_cases same : p.1 = key
    · subst same
      rw [lastText_append_self] at isLast
      cases isLast
      exact Entries.get?_set_self _ _ _
    · rw [lastText_append_of_ne front same] at isLast
      have kept : (context.set (.str p.1) (.str p.2)).get? (.str key) = context.get? (.str key) :=
        Entries.get?_set_of_not_equals _ _ (by simpa using same)
      exact kept.trans (overlays.assigned key text isLast)
  · intro key differs
    rw [Entries.get?_set_of_not_equals _ _ (differs p (by simp))]
    exact overlays.others key (fun other mem => differs other (by simp [mem]))

end Append

/-- It does not matter if each key of the pairs is there once. -/
theorem of_grouped {context bound : Entries} {pairs : List (String × String)}
    (overlays : Overlays context bound (grouped pairs)) : Overlays context bound pairs := by
  refine ⟨?_, ?_, ?_⟩
  · rw [overlays.keys, firstKeys_grouped]
  · intro key text isLast
    exact overlays.assigned key text ((lastText_grouped pairs key).trans isLast)
  · intro key differs
    apply overlays.others
    intro p mem
    obtain ⟨other, isKey, rfl⟩ := List.mem_map.1 mem
    obtain ⟨q, isPair, rfl⟩ := List.mem_map.1 (mem_firstKeys_iff.1 isKey)
    exact differs q isPair

end Overlays

/-- Pairs that are bound one after another count once for each key. -/
theorem overlays_update (bound : Entries) (pairs : List (String × String)) :
    Overlays (bound.update (texts pairs)) bound pairs := by
  induction pairs using List.reverseRecOn with
  | nil => exact .nil bound
  | append_singleton front p ih =>
      have last : bound.update (texts (front ++ [p])) =
          (bound.update (texts front)).set (.str p.1) (.str p.2) := by
        simp [Entries.update, texts]
      rw [last]
      exact ih.append p

/-- On top of nothing each key stands once. -/
theorem update_nil_texts (pairs : List (String × String)) :
    Entries.update [] (texts pairs) = texts (grouped pairs) := by
  have overlays := overlays_update [] pairs
  have once : texts (grouped pairs) =
      (firstKeys pairs).map (fun key => (.str key, .str ((lastText pairs key).getD ""))) := by
    rw [texts, grouped, List.map_map]
    rfl
  rw [once]
  apply Entries.eq_of_keys (fun key => .str ((lastText pairs key).getD ""))
  · simpa [Entries.keys, Entries.find?, Entries.get?] using overlays.keys
  · exact nodup_firstKeys pairs
  · intro key mem
    obtain ⟨text, isLast⟩ := Option.isSome_iff_exists.1
      (lastText_isSome_iff.2 (mem_firstKeys_iff.1 mem))
    rw [overlays.assigned key text isLast, isLast]
    rfl

/-! ### Reading assignments -/

theorem readAssignments_of_assigns {items : List String} {pairs : List (String × String)}
    (assigned : List.Forall₂ Assigns items pairs) :
    readAssignments (items.map .str) = .ok (texts (grouped pairs)) := by
  rw [readAssignments, foldlM_assign_of_assigns assigned, update_nil_texts]

theorem readAssignments_of_isNoAssignment {front : List String} {item : String}
    {pairs : List (String × String)} (assigned : List.Forall₂ Assigns front pairs)
    (nothing : IsNoAssignment item) (rest : List String) :
    readAssignments ((front ++ item :: rest).map .str) = .error (.value (.assignment item)) :=
  foldlM_assign_of_isNoAssignment assigned nothing []

/-- The items make up a context just if each of them assigns something. -/
theorem readAssignments_eq_ok_iff {items : List String} {entries : Entries} :
    readAssignments (items.map .str) = .ok entries ↔
      ∃ pairs, List.Forall₂ Assigns items pairs ∧ entries = texts (grouped pairs) := by
  constructor
  · intro isOk
    rcases exists_assigned_or_first items with ⟨pairs, assigned⟩ |
      ⟨front, item, rest, pairs, rfl, assigned, nothing⟩
    · rw [readAssignments_of_assigns assigned] at isOk
      cases isOk
      exact ⟨pairs, assigned, rfl⟩
    · rw [readAssignments_of_isNoAssignment assigned nothing rest] at isOk
      cases isOk
  · rintro ⟨pairs, assigned, rfl⟩
    exact readAssignments_of_assigns assigned

/-- The first item that assigns nothing is the one that is told. -/
theorem readAssignments_eq_error_iff {items : List String} {fault : Fault} :
    readAssignments (items.map .str) = .error fault ↔
      ∃ front item rest pairs, items = front ++ item :: rest ∧ List.Forall₂ Assigns front pairs ∧
        IsNoAssignment item ∧ fault = .value (.assignment item) := by
  constructor
  · intro failed
    rcases exists_assigned_or_first items with ⟨pairs, assigned⟩ |
      ⟨front, item, rest, pairs, rfl, assigned, nothing⟩
    · rw [readAssignments_of_assigns assigned] at failed
      cases failed
    · rw [readAssignments_of_isNoAssignment assigned nothing rest] at failed
      cases failed
      exact ⟨front, item, rest, pairs, rfl, assigned, nothing, rfl⟩
  · rintro ⟨front, item, rest, pairs, rfl, assigned, nothing, rfl⟩
    exact readAssignments_of_isNoAssignment assigned nothing rest

namespace CommandLine

/-- What the options name as the context binds these entries: without a path there are none. -/
inductive FileBinds [Host] (disk : Disk) (c : Choices) : Entries → Prop
  | none (noPath : c.context.filter (· ≠ "") = .none) : FileBinds disk c []
  | file {path : String} {bound : Entries} (isPath : c.context = some path) (given : path ≠ "")
      (loads : loadContext disk path = .ok bound) : FileBinds disk c bound

/-- The entries of the context's file are there, or the file cannot be loaded. -/
theorem fileBinds_or_fails [Host] (disk : Disk) (c : Choices) :
    (∃ bound, FileBinds disk c bound) ∨
      ∃ path fault, c.context = some path ∧ path ≠ "" ∧ loadContext disk path = .error fault := by
  cases given : c.context.filter (· ≠ "") with
  | none => exact Or.inl ⟨[], .none given⟩
  | some path =>
      obtain ⟨isPath, nonempty⟩ := Option.filter_eq_some_iff.1 given
      rw [decide_eq_true_eq] at nonempty
      cases loads : loadContext disk path with
      | error fault => exact Or.inr ⟨path, fault, isPath, nonempty, loads⟩
      | ok bound => exact Or.inl ⟨bound, .file isPath nonempty loads⟩

/-- The assignments are bound on top of what the file binds. -/
theorem contextFor_of_fileBinds [Host] {disk : Disk} {c : Choices} {bound : Entries}
    (binds : FileBinds disk c bound) :
    contextFor disk c = (readAssignments (c.assignments.map .str)).map bound.update := by
  cases binds with
  | none noPath =>
      rw [contextFor, noPath]
      rfl
  | file isPath given loads =>
      have isGiven : c.context.filter (· ≠ "") = some _ :=
        Option.filter_eq_some_iff.2 ⟨isPath, by simpa using given⟩
      rw [contextFor, isGiven]
      simp only [loads]
      rfl

theorem contextFor_of_loadContext_error [Host] {disk : Disk} {c : Choices} {path : String} {fault : Fault}
    (isPath : c.context = some path) (given : path ≠ "") (fails : loadContext disk path = .error fault) :
    contextFor disk c = .error fault := by
  have isGiven : c.context.filter (· ≠ "") = some path :=
    Option.filter_eq_some_iff.2 ⟨isPath, by simpa using given⟩
  rw [contextFor, isGiven]
  simp only [fails]
  rfl

/-- Commands that make files work with the context that the assignments make up on top of the file. -/
theorem contextFor_overlays [Host] :
    (∀ items : List String,
      ((∃ fault, readAssignments (items.map .str) = .error fault) ↔ ∃ item ∈ items, IsNoAssignment item) ∧
      (∀ fault, readAssignments (items.map .str) = .error fault →
        ∃ front item rest, items = front ++ item :: rest ∧ (∀ other ∈ front, ¬IsNoAssignment other) ∧
          IsNoAssignment item ∧ fault = .value (.assignment item) ∧
          fault.message = "Expected KEY=VALUE, got: " ++ quoted item) ∧
      ∀ entries, readAssignments (items.map .str) = .ok entries →
        ∃ pairs, List.Forall₂ Assigns items pairs ∧ entries = texts (grouped pairs)) ∧
    ∀ (c : Choices) (w : World) (bound : Entries) (pairs : List (String × String)),
      FileBinds w.disk c bound → List.Forall₂ Assigns c.assignments pairs →
      ∃ context, contextFor w.disk c = .ok context ∧ Overlays context bound pairs ∧
        ∀ (home : NormalPath) (env : Environment) (settings : Settings),
          settingsFor home env c = .ok settings →
          (∀ files, execute home env ⟨.process files, c⟩ w = processFiles settings context files w) ∧
          ∀ generator destination, execute home env ⟨.generate generator destination, c⟩ w =
            generateFile settings context generator destination w := by
  refine ⟨?_, ?_⟩
  · intro items
    refine ⟨?_, ?_, fun _ isOk => readAssignments_eq_ok_iff.1 isOk⟩
    · constructor
      · rintro ⟨fault, failed⟩
        obtain ⟨front, item, rest, -, rfl, -, nothing, -⟩ := readAssignments_eq_error_iff.1 failed
        exact ⟨item, by simp, nothing⟩
      · rintro ⟨item, mem, nothing⟩
        rcases exists_assigned_or_first items with ⟨pairs, assigned⟩ |
          ⟨front, first, rest, pairs, rfl, assigned, nothing⟩
        · exact absurd nothing (not_isNoAssignment_of_forall₂ assigned item mem)
        · exact ⟨_, readAssignments_of_isNoAssignment assigned nothing rest⟩
    · intro fault failed
      obtain ⟨front, item, rest, pairs, rfl, assigned, nothing, rfl⟩ :=
        readAssignments_eq_error_iff.1 failed
      exact ⟨front, item, rest, rfl, not_isNoAssignment_of_forall₂ assigned, nothing, rfl, rfl⟩
  · intro c w bound pairs binds assigned
    have isContext : contextFor w.disk c = .ok (bound.update (texts (grouped pairs))) := by
      rw [contextFor_of_fileBinds binds, readAssignments_of_assigns assigned]
      rfl
    refine ⟨_, isContext, (overlays_update bound (grouped pairs)).of_grouped, ?_⟩
    intro home env settings isSet
    refine ⟨?_, ?_⟩
    · intro files
      simp only [execute, executeBy, isSet, isContext, processFiles]
    · intro generator destination
      simp only [execute, executeBy, isSet, isContext]

/-- A folder with a context of two keys. -/
def titleWorld : World :=
  ⟨⟨["home"], [(["home"], .folder), (["home", "c.json"],
    .file ("\x7b\"title\": \"File\", \"lang\": \"en\"\x7d".toList.flatMap Text.utf8Bytes))]⟩, ""⟩

/-- The choice of that context, with a title and another key on top of it. -/
def titleChoices : Choices :=
  { Choices.none with context := some "c.json", assignments := [" title =a", "x=b=c ", "title=d"] }

/-- The keys and the texts of a context that has two of them. -/
def twoTexts? : Except Fault Entries → Option (List (String × String))
  | .ok [(.str a, .str b), (.str c, .str d)] => some [(a, b), (c, d)]
  | _ => none

theorem loadContext_titleWorld : loadContext titleWorld.disk "c.json" =
    .ok (texts [("title", "File"), ("lang", "en")]) := by
  have isBound : twoTexts? (loadContext titleWorld.disk "c.json") =
      some [("title", "File"), ("lang", "en")] := by
    decide +kernel
  unfold twoTexts? at isBound
  split at isBound
  · rename_i isFile
    rw [isFile, ← Option.some.inj isBound]
    rfl
  · cases isBound

theorem assigns_of_toOption {item : String} {p : String × String}
    (read : (assignmentOf item).toOption = some p) : Assigns item p :=
  assignmentOf_eq_ok_iff.1 (eq_ok_of_toOption read)

/-- The item with a blank key is told, though there is another behind it. The title of the file gives way to
    the last that was assigned, and the other key that was assigned follows those of the file. -/
theorem contextFor_overlays_of_title :
    (∃ front item rest, ["a=1", " =x", "b"] = front ++ item :: rest ∧
      (∀ other ∈ front, ¬IsNoAssignment other) ∧ IsNoAssignment item ∧
      Fault.value (.assignment " =x") = .value (.assignment item) ∧
      (Fault.value (.assignment " =x")).message = "Expected KEY=VALUE, got: " ++ quoted item) ∧
    (∃ pairs, List.Forall₂ Assigns titleChoices.assignments pairs ∧
      texts [("title", "d"), ("x", "b=c ")] = texts (grouped pairs)) ∧
    ∃ context, contextFor titleWorld.disk titleChoices = .ok context ∧
      Overlays context (texts [("title", "File"), ("lang", "en")])
        [("title", "a"), ("x", "b=c "), ("title", "d")] ∧
      ∀ files, execute (.ofString "/home") [] ⟨.process files, titleChoices⟩ titleWorld =
        processFiles (.default (.ofString "/home")) context files titleWorld := by
  have assigned : List.Forall₂ Assigns titleChoices.assignments
      [("title", "a"), ("x", "b=c "), ("title", "d")] :=
    .cons (assigns_of_toOption (by decide)) (.cons (assigns_of_toOption (by decide))
      (.cons (assigns_of_toOption (by decide)) .nil))
  have once : grouped [("title", "a"), ("x", "b=c "), ("title", "d")] =
      [("title", "d"), ("x", "b=c ")] := by decide
  have read := readAssignments_of_assigns assigned
  rw [once] at read
  have front : List.Forall₂ Assigns ["a=1"] [("a", "1")] :=
    .cons (assigns_of_toOption (by decide)) .nil
  have isCut : " =x".toList = [' '] ++ '=' :: ['x'] := by decide
  have nothing : IsNoAssignment " =x" :=
    .noKey isCut (by decide) (List.forall_mem_singleton.2 (by decide))
  have refused := readAssignments_of_isNoAssignment front nothing ["b"]
  obtain ⟨items, contexts⟩ := contextFor_overlays
  refine ⟨(items _).2.1 _ refused, (items _).2.2 _ read, ?_⟩
  obtain ⟨context, isContext, overlays, works⟩ := contexts titleChoices titleWorld _ _
    (.file rfl (by decide) loadContext_titleWorld) assigned
  have processes := (works (.ofString "/home") [] (.default (.ofString "/home")) rfl).1
  exact ⟨context, isContext, overlays, processes⟩

end CommandLine

end LayeredFiles
