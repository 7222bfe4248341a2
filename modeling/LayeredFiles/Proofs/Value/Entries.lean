import LayeredFiles.Value.Order
/-
Module: LayeredFiles.Proofs.Value.Entries
Layer: Proofs
Purpose: what binding a key that is a text does to the entries of a dictionary. The key has its new value,
  every other key has the value it had, and removing keys goes together with binding others. Entries of
  different names are the same when they are bound one after the other.
Main exports: Value.equals_str_iff, Entries.get?_set_self, Entries.get?_set_of_not_equals,
  Entries.keys, Entries.keys_set_of_present, Entries.keys_set_of_new, Entries.eq_of_keys,
  Entries.ofList_named, Entries.without, Entries.without_set_self, Entries.without_set_of_ne
-/

namespace LayeredFiles

/-- Only texts equal a text, safe or not. -/
theorem Value.equals_str_iff {v : Value} {text : String} :
    v.equals (.str text) = true ↔ v = .str text ∨ v = .safe text := by
  cases v <;> simp [Value.equals, Value.equals.numeralEquals, Value.numeral?]

/-- Values that equal one text equal the same values. -/
theorem Value.equals_of_equals_str {v w : Value} {text : String}
    (isText : v.equals (.str text) = true) : v.equals w = (Value.str text).equals w := by
  rcases Value.equals_str_iff.1 isText with rfl | rfl
  · rfl
  · cases w <;> simp [Value.equals]

@[simp] theorem Value.str_equals_str (a b : String) :
    (Value.str a).equals (.str b) = (a == b) := by
  simp [Value.equals]

namespace Entries

/-- A key that was bound has the value it was bound to. -/
@[simp] theorem get?_set_self (entries : Entries) (name : String) (v : Value) :
    (entries.set (.str name) v).get? (.str name) = some v := by
  induction entries with
  | nil => simp [set, get?]
  | cons e rest ih =>
      by_cases found : e.1.equals (.str name) = true
      · simp [set, get?, found]
      · simpa [set, get?, found] using ih

/-- Other keys keep the values they had. -/
theorem get?_set_of_not_equals (entries : Entries) {name : String} {key : Value} (v : Value)
    (differs : (Value.str name).equals key = false) :
    (entries.set (.str name) v).get? key = entries.get? key := by
  induction entries with
  | nil => simp [set, get?, differs]
  | cons e rest ih =>
      by_cases found : e.1.equals (.str name) = true
      · have passed : e.1.equals key = false := by
          rw [Value.equals_of_equals_str found, differs]
        simp [set, get?, found, passed]
      · by_cases here : e.1.equals key = true
        · simp [set, get?, found, here]
        · simpa [set, get?, found, here] using ih

/-- The first entry is found by its name, and passed by other names. -/
theorem find?_cons_self (name : String) (v : Value) (rest : Entries) :
    find? ((.str name, v) :: rest) name = some v := by
  simp [find?, get?]

theorem find?_cons_of_ne {name other : String} (differs : other ≠ name) (v : Value) (rest : Entries) :
    find? ((.str other, v) :: rest) name = find? rest name := by
  simp [find?, get?, differs]

/-- Binding a new name puts its entry last. -/
theorem set_of_find?_eq_none {entries : Entries} {name : String} (v : Value)
    (absent : find? entries name = none) :
    entries.set (.str name) v = entries ++ [(.str name, v)] := by
  induction entries with
  | nil => rfl
  | cons e rest ih =>
      by_cases here : e.1.equals (.str name) = true
      · simp [find?, get?, here] at absent
      · have absentBehind : find? rest name = none := by simpa [find?, get?, here] using absent
        simp [set, here, ih absentBehind]

/-- The keys of entries, in their order. -/
def keys (entries : Entries) : List Value := entries.map Prod.fst

/-- Binding a key that is there leaves the keys where they are. -/
theorem keys_set_of_present {entries : Entries} {name : String} (v : Value)
    (present : find? entries name ≠ none) : (entries.set (.str name) v).keys = entries.keys := by
  induction entries with
  | nil => exact absurd rfl present
  | cons e rest ih =>
      by_cases here : e.1.equals (.str name) = true
      · simp [set, keys, here]
      · have presentBehind : find? rest name ≠ none := by simpa [find?, get?, here] using present
        simpa [set, keys, here] using ih presentBehind

theorem keys_set_of_new {entries : Entries} {name : String} (v : Value)
    (absent : find? entries name = none) :
    (entries.set (.str name) v).keys = entries.keys ++ [.str name] := by
  rw [set_of_find?_eq_none v absent, keys, keys, List.map_append]
  rfl

/-- Entries are known by their keys and the values of these, if all keys are different texts. -/
theorem eq_of_keys {entries : Entries} {names : List String} (f : String → Value)
    (isKeys : entries.keys = names.map .str) (distinct : names.Nodup)
    (bound : ∀ name ∈ names, find? entries name = some (f name)) :
    entries = names.map (fun name => (.str name, f name)) := by
  induction names generalizing entries with
  | nil => exact List.map_eq_nil_iff.1 isKeys
  | cons name names ih =>
      rw [List.forall_mem_cons] at bound
      rw [List.nodup_cons] at distinct
      rw [List.map_cons] at isKeys ⊢
      obtain ⟨e, rest, rfl, isName, isRest⟩ := List.map_eq_cons_iff.1 isKeys
      obtain ⟨key, v⟩ := e
      obtain rfl : key = .str name := isName
      have isValue : v = f name := by simpa [find?_cons_self] using bound.1
      have others : rest = names.map (fun name => (.str name, f name)) := by
        apply ih isRest distinct.2
        intro other mem
        have differs : name ≠ other := fun same => distinct.1 (same ▸ mem)
        rw [← bound.2 other mem, find?_cons_of_ne differs]
      rw [isValue, ← others]

/-- Entries whose keys are texts. -/
def named (pairs : List (String × Value)) : Entries := pairs.map (fun p => (.str p.1, p.2))

theorem find?_named_eq_none {pairs : List (String × Value)} {name : String}
    (absent : name ∉ pairs.map Prod.fst) : find? (named pairs) name = none := by
  induction pairs with
  | nil => rfl
  | cons p pairs ih =>
      rw [List.map_cons, List.mem_cons, not_or] at absent
      exact (find?_cons_of_ne (Ne.symm absent.1) _ _).trans (ih absent.2)

theorem update_named {pairs more : List (String × Value)}
    (distinct : ((pairs ++ more).map Prod.fst).Nodup) :
    update (named pairs) (named more) = named (pairs ++ more) := by
  induction more generalizing pairs with
  | nil => simp [update, named]
  | cons p more ih =>
      have absent : p.1 ∉ pairs.map Prod.fst := by
        rw [List.map_append, List.nodup_append] at distinct
        exact fun mem => distinct.2.2 _ mem _ List.mem_cons_self rfl
      have bound : (named pairs).set (.str p.1) p.2 = named (pairs ++ [p]) := by
        rw [set_of_find?_eq_none _ (find?_named_eq_none absent), named, named, List.map_append]
        rfl
      have others : update (named (pairs ++ [p])) (named more) = named (pairs ++ [p] ++ more) :=
        ih (by simpa using distinct)
      change update ((named pairs).set (.str p.1) p.2) (named more) = _
      rw [bound, others, List.append_assoc]
      rfl

/-- Entries of different names stay as they are when they are bound one after the other. -/
theorem ofList_named (pairs : List (String × Value)) (distinct : (pairs.map Prod.fst).Nodup) :
    ofList (named pairs) = named pairs := by
  have bound : update (named []) (named pairs) = named ([] ++ pairs) :=
    update_named (by simpa using distinct)
  exact bound

/-- The entries apart from those of a key. -/
def without (entries : Entries) (key : Value) : Entries :=
  entries.filter (fun e => !e.1.equals key)

/-- Removing a key leaves the values of other keys. -/
theorem get?_without_of_not_equals (entries : Entries) {name : String} {key : Value}
    (differs : (Value.str name).equals key = false) :
    (entries.without (.str name)).get? key = entries.get? key := by
  induction entries with
  | nil => rfl
  | cons e rest ih =>
      by_cases removed : e.1.equals (.str name) = true
      · have passed : e.1.equals key = false := by
          rw [Value.equals_of_equals_str removed, differs]
        simpa [without, get?, removed, passed] using ih
      · by_cases here : e.1.equals key = true
        · simp [without, get?, removed, here]
        · simpa [without, get?, removed, here] using ih

/-- Binding a key leaves no trace once the key is removed. -/
@[simp] theorem without_set_self (entries : Entries) (name : String) (v : Value) :
    (entries.set (.str name) v).without (.str name) = entries.without (.str name) := by
  induction entries with
  | nil => simp [set, without]
  | cons e rest ih =>
      by_cases found : e.1.equals (.str name) = true
      · simp [set, without, found]
      · simpa [set, without, found] using ih

/-- A key may be removed before or after another one is bound. -/
theorem without_set_of_ne (entries : Entries) {name other : String} (v : Value)
    (differs : name ≠ other) :
    (entries.set (.str name) v).without (.str other) =
      (entries.without (.str other)).set (.str name) v := by
  induction entries with
  | nil => simp [set, without, differs]
  | cons e rest ih =>
      by_cases found : e.1.equals (.str name) = true
      · have kept : e.1.equals (.str other) = false := by
          rw [Value.equals_of_equals_str found]
          simpa using differs
        simp [set, without, found, kept]
      · by_cases removed : e.1.equals (.str other) = true
        · simpa [set, without, found, removed] using ih
        · simpa [set, without, found, removed] using ih

end Entries

end LayeredFiles
