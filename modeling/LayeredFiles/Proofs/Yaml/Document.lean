import LayeredFiles.Proofs.Yaml.Merging
import LayeredFiles.Proofs.Yaml.Scalar
/-
Module: LayeredFiles.Proofs.Yaml.Document
Layer: Proofs
Purpose: why a YAML document has no value. Its tokens, its nodes and the kinds of its nodes only make it
  malformed. So a fault that nobody announces stems from an escape in a text, from a part of the document
  that is made into a value by its text, or from a part that stands in itself.
Main exports: Yaml.StemsFrom, Yaml.Makes, Yaml.Stock.Sound, Yaml.makes_fillAll, Yaml.stemsFrom_of_value,
  Yaml.origin_of_readYaml
-/

namespace LayeredFiles.Yaml

/-! ### Where faults stem from -/

/-- The node at a place is made into a value by a text, and has none. -/
def BreaksAt (nodes : List Node) (place : Nat) (text : String) (fault : Fault) : Prop :=
  HasText nodes place text ∧ Breaks (tagAt nodes place) (nodeAt nodes place).isScalar text fault

/-- What breaks has the tag of a kind of scalars. -/
theorem Breaks.exists_kind {tag text : String} {isScalar : Bool} {fault : Fault}
    (breaks : Breaks tag isScalar text fault) : ∃ kind : Kind, tag = kind.tag := by
  cases breaks with
  | word isKind => exact ⟨_, isKind⟩
  | noInt isKind => exact ⟨_, isKind⟩
  | noFloat isKind => exact ⟨_, isKind⟩
  | overlong isKind => exact ⟨_, isKind⟩
  | noTime isKind => exact ⟨_, isKind⟩
  | timeOfMapping isKind => exact ⟨_, isKind⟩

/-- A node without a tag breaks only as a scalar: a number in too many groups of sixty, or a word for a truth
    value with a line end behind it. -/
theorem of_breaksAt_of_untagged {nodes : List Node} {place : Nat} {text : String} {fault : Fault}
    (breaks : BreaksAt nodes place text fault) (untagged : (nodeAt nodes place).writtenTag = none) :
    IsOverlong (unsigned (Text.lower (digitsOf text.toList))) ∨ ∃ word ∈ boolWords, text = word ++ "\n" := by
  obtain ⟨hasText, breaks⟩ := breaks
  rw [tagAt] at breaks
  cases hasText with
  | scalar isScalar =>
      rw [isScalar] at breaks untagged
      obtain rfl := untagged
      exact of_breaks_of_untagged breaks
  | entry isMapping =>
      rw [isMapping] at breaks untagged
      obtain rfl := untagged
      obtain ⟨kind, isKind⟩ := breaks.exists_kind
      have isMap : tagStart ++ "map" = kind.tag := isKind
      exfalso
      revert isMap
      cases kind <;> decide

/-- A part of the document stands in itself, and what is asked of it has no end. -/
def Circles (nodes : List Node) (fault : Fault) : Prop :=
  (fault = .arithmetic .depthTooLarge ∨ fault = .arithmetic .endless) ∧ ∃ place, Contains nodes place place

/-- The fault is announced, or it stems from a part of the document. -/
def StemsFrom (nodes : List Node) (fault : Fault) : Prop :=
  fault.isAnnounced = true ∨ (∃ place text, BreaksAt nodes place text fault) ∨ Circles nodes fault

/-- Whatever is made is good, and a fault that keeps it from being made stems from the document. -/
def Makes {α : Type} (nodes : List Node) (Good : α → Prop) : Making α → Prop
  | .error (.problem _) => True
  | .error (.fault fault) => StemsFrom nodes fault
  | .ok a => Good a

namespace Makes

variable {α β : Type} {nodes : List Node} {Good Good' : α → Prop} {made : Making α}

theorem mono (makes : Makes nodes Good made) (good : ∀ a, Good a → Good' a) : Makes nodes Good' made := by
  cases made with
  | error stop => cases stop <;> exact makes
  | ok a => exact good a makes

/-- One step after another is good if the second one is after the first. -/
theorem bind {Good' : β → Prop} {next : α → Making β} (makes : Makes nodes Good made)
    (continues : ∀ a, Good a → Makes nodes Good' (next a)) : Makes nodes Good' (made >>= next) := by
  cases made with
  | error stop => cases stop <;> exact makes
  | ok a => exact continues a makes

theorem map {Good' : β → Prop} {f : α → β} (makes : Makes nodes Good made)
    (good : ∀ a, Good a → Good' (f a)) : Makes nodes Good' (made.map f) := by
  cases made with
  | error stop => cases stop <;> exact makes
  | ok a => exact good a makes

end Makes

/-! ### Scalars -/

variable {first : List Node}

/-- The tag of a node that breaks by its text is the one it had from the start. -/
theorem Breaks.tag_ne_str {tag text : String} {isScalar : Bool} {fault : Fault}
    (breaks : Breaks tag isScalar text fault) : tag ≠ Kind.str.tag := by
  rintro rfl
  cases breaks with
  | word isKind _ => exact absurd (tag_injective isKind) (by decide)
  | noInt isKind _ => exact absurd (tag_injective isKind) (by decide)
  | noFloat isKind _ => exact absurd (tag_injective isKind) (by decide)
  | overlong isKind _ => exact absurd (tag_injective isKind) (by decide)
  | noTime isKind _ _ => exact absurd (tag_injective isKind) (by decide)
  | timeOfMapping isKind _ => exact absurd (tag_injective isKind) (by decide)

theorem ComesFrom.isScalar_eq {nodes : List Node} (comes : ComesFrom first nodes) (place : Nat) :
    (nodeAt nodes place).isScalar = (nodeAt first place).isScalar := by
  cases isNode : nodeAt nodes place with
  | scalar tag text isPlain =>
      obtain ⟨_, _, isFirst⟩ := comes.scalar isNode
      rw [isFirst]
      rfl
  | sequence tag items =>
      obtain ⟨_, isFirst⟩ := comes.sequence isNode
      rw [isFirst]
      rfl
  | mapping tag entries =>
      obtain ⟨_, _, isFirst, -⟩ := comes.mapping isNode
      rw [isFirst]
      rfl

/-- The value of a node that holds a text is made, or the fault stems from the document. -/
theorem makes_scalarValue {nodes : List Node} (comes : ComesFrom first nodes) (place : Nat) :
    Makes first (fun _ => True) (scalarValue nodes place) := by
  unfold scalarValue
  dsimp only
  split
  · have found : Makes first (fun text? => ∀ text, text? = some text → HasText first place text)
        (textOf nodes nodes.length place) := by
      cases isText : textOf nodes nodes.length place with
      | error stop =>
          obtain ⟨rfl, circles⟩ := exists_cycle_of_textOf comes isText
          exact Or.inr (Or.inr ⟨Or.inl rfl, circles⟩)
      | ok text? =>
          rintro text rfl
          exact hasText_of_textOf comes isText
    apply found.bind
    intro text? hasText
    split
    · exact True.intro
    · rename_i text
      have made : ∀ fault, valueByTag (nodeAt nodes place).tag (nodeAt nodes place).isScalar text =
          .error (.fault fault) → StemsFrom first fault := by
        intro fault fails
        by_cases announced : fault.isAnnounced = true
        · exact Or.inl announced
        · have breaks := breakOf?_valueByTag_eq_some_iff.1
            (breakOf?_eq_some_iff.2 ⟨fails, by simpa using announced⟩)
          have isTag : tagAt nodes place = tagAt first place :=
            (comes.tag place).resolve_right (fun settled => breaks.tag_ne_str settled.2)
          have sameTag : (nodeAt nodes place).tag = tagAt first place := isTag
          rw [sameTag, comes.isScalar_eq] at breaks
          exact Or.inr (Or.inl ⟨place, text, hasText text rfl, breaks⟩)
      cases isMade : valueByTag (nodeAt nodes place).tag (nodeAt nodes place).isScalar text with
      | error stop =>
          cases stop with
          | problem what => exact True.intro
          | fault fault => exact made fault isMade
      | ok v => exact True.intro
  · exact True.intro

/-! ### Filling collections -/

/-- The collections that are parts of a filled one. -/
def Filled.parts : Filled → List Ref
  | .list items => items
  | .dict entries => entries.map Prod.snd
  | .set members => members.map Prod.snd
  | .pairs entries => entries.flatMap (fun e => [e.1, e.2])

namespace Stock

/-- The nodes come from the document, what was made of a node is no other collection, and what is filled has
    only such parts as stand in its node. -/
structure Sound (first : List Node) (s : Stock) : Prop where
  nodes : ComesFrom first s.nodes
  made : ∀ e ∈ s.made, ∀ place, e.2 = .collection place → place = e.1
  filled : ∀ e ∈ s.filled, ∀ place, .collection place ∈ e.2.parts → Contains first e.1 place

variable {s : Stock} (sound : s.Sound first)
include sound

theorem makes_take (place : Nat) :
    Makes first (fun r => r.2.Sound first ∧ ∀ other, r.1 = .collection other → other = place)
      (s.take place) := by
  unfold take
  split
  · rename_i ref isMade
    obtain ⟨front, back, whole, -⟩ := List.lookup_eq_some_iff.1 isMade
    have mem : (place, ref) ∈ s.made := by
      rw [whole]
      exact List.mem_append_right _ List.mem_cons_self
    exact ⟨sound, fun other same => sound.made _ mem other same⟩
  · have cons : ∀ ref, (∀ other, ref = Ref.collection other → other = place) →
        ∀ e ∈ (place, ref) :: s.made, ∀ other, e.2 = .collection other → other = e.1 := by
      intro ref own e mem other same
      rcases List.mem_cons.1 mem with rfl | isOld
      · exact own other same
      · exact sound.made e isOld other same
    split
    · have own : ∀ other, Ref.collection place = .collection other → other = place := by
        rintro other ⟨⟩
        rfl
      exact ⟨⟨sound.nodes, cons _ own, sound.filled⟩, own⟩
    · apply (makes_scalarValue sound.nodes place).map
      intro v _
      have own : ∀ other, Ref.value v = .collection other → other = place := by
        rintro other ⟨⟩
      exact ⟨⟨sound.nodes, cons _ own, sound.filled⟩, own⟩

theorem makes_takeAll (places : List Nat) :
    Makes first (fun r => r.2.Sound first ∧ ∀ place, .collection place ∈ r.1 → place ∈ places)
      (takeAll places s) := by
  induction places generalizing s with
  | nil => exact ⟨sound, by simp⟩
  | cons place rest ih =>
      apply (makes_take sound place).bind
      rintro ⟨ref, s₁⟩ ⟨sound₁, own⟩
      apply (ih sound₁).bind
      rintro ⟨refs, s₂⟩ ⟨sound₂, others⟩
      refine ⟨sound₂, fun other mem => ?_⟩
      rcases List.mem_cons.1 mem with isFirst | isLater
      · exact own other isFirst.symm ▸ List.mem_cons_self
      · exact List.mem_cons_of_mem _ (others other isLater)

theorem makes_takeEntries (entries : List (Nat × Nat)) :
    Makes first (fun r => r.2.Sound first ∧
        ∀ place, .collection place ∈ r.1.map Prod.snd → place ∈ entries.map Prod.snd)
      (takeEntries entries s) := by
  induction entries generalizing s with
  | nil => exact ⟨sound, by simp⟩
  | cons entry rest ih =>
      obtain ⟨key, v⟩ := entry
      apply (makes_take sound key).bind
      rintro ⟨ref, s₁⟩ ⟨sound₁, -⟩
      cases ref with
      | collection place => exact True.intro
      | value key' =>
          apply (makes_take sound₁ v).bind
          rintro ⟨ref, s₂⟩ ⟨sound₂, own⟩
          apply (ih sound₂).bind
          rintro ⟨refs, s₃⟩ ⟨sound₃, others⟩
          refine ⟨sound₃, fun other mem => ?_⟩
          rw [List.map_cons] at mem ⊢
          rcases List.mem_cons.1 mem with isFirst | isLater
          · exact own other isFirst.symm ▸ List.mem_cons_self
          · exact List.mem_cons_of_mem _ (others other isLater)

/-- Keys and values of pairs stand in the mappings that are made into them. -/
theorem makes_takePairs (places : List Nat) :
    Makes first (fun r => r.2.Sound first ∧ ∀ other, .collection other ∈ (Filled.pairs r.1).parts →
        ∃ place ∈ places, Contains first place other)
      (takePairs places s) := by
  induction places generalizing s with
  | nil => exact ⟨sound, by simp [Filled.parts]⟩
  | cons place rest ih =>
      unfold takePairs
      split
      · rename_i key v isMapping
        have isIn : ContainsEntry first place (key, v) :=
          sound.nodes.containsEntry (by simp [entriesAt, isMapping])
        apply (makes_take sound key).bind
        rintro ⟨keyRef, s₁⟩ ⟨sound₁, ownKey⟩
        apply (makes_take sound₁ v).bind
        rintro ⟨ref, s₂⟩ ⟨sound₂, own⟩
        apply (ih sound₂).bind
        rintro ⟨refs, s₃⟩ ⟨sound₃, others⟩
        refine ⟨sound₃, fun other mem => ?_⟩
        simp only [Filled.parts, List.flatMap_cons, List.mem_append, List.mem_cons, List.not_mem_nil,
          or_false] at mem
        rcases mem with (isKey | isValue) | isLater
        · exact ⟨place, List.mem_cons_self, ownKey other isKey.symm ▸ isIn.1⟩
        · exact ⟨place, List.mem_cons_self, own other isValue.symm ▸ isIn.2⟩
        · obtain ⟨inner, isInner, contains⟩ := others other isLater
          exact ⟨inner, List.mem_cons_of_mem _ isInner, contains⟩
      · exact True.intro

/-- The entries of a mapping stand in it, also those that it merges. -/
theorem makes_takeMapping (place : Nat) :
    Makes first (fun r => r.2.Sound first ∧
        ∀ other, .collection other ∈ r.1.map Prod.snd → Contains first place other)
      (s.takeMapping place) := by
  unfold takeMapping
  split
  · split
    · exact True.intro
    · rename_i nodes isMerge
      have comes := comesFrom_mergeFrom _ sound.nodes (by simp) isMerge
      have merged : Sound first { s with nodes := nodes } := ⟨comes, sound.made, sound.filled⟩
      apply (makes_takeEntries merged _).mono
      rintro r ⟨sound₁, isEntry⟩
      refine ⟨sound₁, fun other mem => ?_⟩
      obtain ⟨entry, isEntry, rfl⟩ := List.mem_map.1 (isEntry other mem)
      exact (comes.containsEntry isEntry).2
  · exact True.intro

theorem makes_itemsAt (place : Nat) :
    Makes first (fun items => ∀ item ∈ items, Contains first place item) (s.itemsAt place) := by
  unfold itemsAt
  split
  · rename_i isSequence
    exact fun item mem => sound.nodes.contains_item isSequence mem
  · exact True.intro

/-- Whatever fills a collection stands in its node. -/
theorem makes_fill (place : Nat) (shape : Shape) :
    Makes first (fun r => r.2.Sound first ∧
        ∀ other, .collection other ∈ r.1.parts → Contains first place other)
      (s.fill place shape) := by
  cases shape with
  | list =>
      apply (makes_itemsAt sound place).bind
      intro items isIn
      apply (makes_takeAll sound items).bind
      rintro ⟨refs, s₁⟩ ⟨sound₁, isItem⟩
      exact ⟨sound₁, fun other mem => isIn other (isItem other mem)⟩
  | pairs =>
      apply (makes_itemsAt sound place).bind
      intro items isIn
      apply (makes_takePairs sound items).bind
      rintro ⟨refs, s₁⟩ ⟨sound₁, isPart⟩
      refine ⟨sound₁, fun other mem => ?_⟩
      obtain ⟨item, isItem, contains⟩ := isPart other mem
      exact (isIn item isItem).trans contains
  | dict =>
      apply (makes_takeMapping sound place).bind
      rintro ⟨entries, s₁⟩ made
      exact made
  | set =>
      apply (makes_takeMapping sound place).bind
      rintro ⟨entries, s₁⟩ made
      exact made

theorem makes_fillAll (fuel : Nat) :
    Makes first (fun filled => ∀ e ∈ filled, ∀ place, .collection place ∈ e.2.parts →
      Contains first e.1 place) (fillAll fuel s) := by
  induction fuel generalizing s with
  | zero =>
      unfold fillAll
      split
      · exact sound.filled
      · exact True.intro
  | succ fuel ih =>
      unfold fillAll
      split
      · exact sound.filled
      · rename_i place shape rest _
        have others : Sound first { s with waiting := rest } := ⟨sound.nodes, sound.made, sound.filled⟩
        apply (makes_fill others place shape).bind
        rintro ⟨filled, s₁⟩ ⟨sound₁, isIn⟩
        apply ih
        refine ⟨sound₁.nodes, sound₁.made, fun e mem => ?_⟩
        rcases List.mem_cons.1 mem with rfl | isOld
        · exact isIn
        · exact sound₁.filled e isOld

end Stock

/-! ### Values -/

section Values

variable {filled : List (Nat × Filled)}

/-- If one of several parts has no value, that is why they have none. -/
theorem exists_of_mapM_error {α β : Type} {f : α → Making β} {items : List α} {stop : YamlStop}
    (fails : items.mapM f = .error stop) : ∃ a ∈ items, f a = .error stop := by
  induction items with
  | nil => cases fails
  | cons a rest ih =>
      rw [List.mapM_cons] at fails
      cases made : f a with
      | error stop' =>
          rw [made] at fails
          cases fails
          exact ⟨a, List.mem_cons_self, made⟩
      | ok b =>
          rw [made] at fails
          cases others : rest.mapM f with
          | error stop' =>
              rw [others] at fails
              cases fails
              obtain ⟨a', mem, made'⟩ := ih others
              exact ⟨a', List.mem_cons_of_mem _ mem, made'⟩
          | ok bs =>
              rw [others] at fails
              cases fails

theorem error_of_map {α β : Type} {f : α → β} {made : Making α} {stop : YamlStop}
    (fails : made.map f = .error stop) : made = .error stop := by
  cases made with
  | error stop' =>
      cases fails
      rfl
  | ok a => cases fails

theorem error_of_bind_pure {α β : Type} {f : α → β} {made : Making α} {stop : YamlStop}
    (fails : (made >>= fun a => pure (f a)) = .error stop) : made = .error stop :=
  error_of_map fails

/-- Of entries only those with the last value of their key are looked at, and null for the others. -/
theorem of_mem_latest {entries : List (Value × Ref)} {e : Value × Ref} (mem : e ∈ latest entries) {place : Nat}
    (isCollection : e.2 = .collection place) : .collection place ∈ entries.map Prod.snd := by
  induction entries with
  | nil => cases mem
  | cons entry rest ih =>
      rw [latest] at mem
      rcases List.mem_cons.1 mem with rfl | isLater
      · dsimp only at isCollection
        split at isCollection
        · cases isCollection
        · rw [← isCollection]
          exact List.mem_cons_self
      · exact List.mem_cons_of_mem _ (ih isLater)

/-- What has no value is a collection. -/
theorem exists_collection {fuel : Nat} {ref : Ref} {stop : YamlStop}
    (fails : ref.assemble filled fuel = .error stop) : ∃ place, ref = .collection place := by
  cases ref with
  | value v => cases fuel <;> cases fails
  | collection place => exact ⟨place, rfl⟩

/-- A collection that is filled and has no value has a part that has none. -/
theorem exists_part_of_assemble {fuel place : Nat} {stop : YamlStop}
    (fails : Ref.assemble filled (fuel + 1) (.collection place) = .error stop) :
    ∃ parts part, filled.lookup place = some parts ∧ part ∈ parts.parts ∧
      part.assemble filled fuel = .error stop := by
  rw [Ref.assemble] at fails
  split at fails
  · cases fails
  · rename_i items found
    obtain ⟨part, mem, fails⟩ := exists_of_mapM_error (error_of_map fails)
    exact ⟨_, part, found, mem, fails⟩
  · rename_i entries found
    obtain ⟨e, mem, fails⟩ := exists_of_mapM_error (error_of_bind_pure fails)
    have fails := error_of_map fails
    obtain ⟨next, isCollection⟩ := exists_collection fails
    exact ⟨_, e.2, found, isCollection ▸ of_mem_latest mem isCollection, fails⟩
  · cases fails
  · rename_i entries found
    obtain ⟨e, mem, fails⟩ := exists_of_mapM_error (error_of_bind_pure fails)
    have isPart : ∀ part ∈ [e.1, e.2], part ∈ (Filled.pairs entries).parts :=
      fun part isOne => List.mem_flatMap.2 ⟨e, mem, isOne⟩
    cases isFirst : Ref.assemble filled fuel e.1 with
    | error stop' =>
        rw [isFirst] at fails
        cases fails
        exact ⟨_, e.1, found, isPart _ (by simp), isFirst⟩
    | ok v =>
        rw [isFirst] at fails
        exact ⟨_, e.2, found, isPart _ (by simp), error_of_bind_pure fails⟩

/-- What has no value is a collection from which one comes to others, as far as is looked. -/
theorem leads_of_assemble
    (isIn : ∀ e ∈ filled, ∀ place, .collection place ∈ e.2.parts → Contains first e.1 place)
    (fuel : Nat) {ref : Ref} {stop : YamlStop} (fails : ref.assemble filled fuel = .error stop) :
    stop = .fault (.arithmetic .endless) ∧ ∃ place, ref = .collection place ∧
      Leads (Contains first) (filled.map Prod.fst) fuel place := by
  induction fuel generalizing ref with
  | zero =>
      obtain ⟨place, rfl⟩ := exists_collection fails
      cases fails
      exact ⟨rfl, place, rfl, .stop place⟩
  | succ fuel ih =>
      obtain ⟨place, rfl⟩ := exists_collection fails
      obtain ⟨parts, part, found, isPart, partFails⟩ := exists_part_of_assemble fails
      obtain ⟨isStop, next, rfl, leads⟩ := ih partFails
      obtain ⟨front, back, whole, -⟩ := List.lookup_eq_some_iff.1 found
      have isFilled : (place, parts) ∈ filled := by
        rw [whole]
        exact List.mem_append_right _ List.mem_cons_self
      exact ⟨isStop, place, rfl,
        .step (List.mem_map_of_mem isFilled) (isIn _ isFilled next isPart) leads⟩

end Values

theorem stemsFrom_of_value {document : Document} {fault : Fault}
    (fails : document.value = .error (.fault fault)) : StemsFrom document.nodes fault := by
  have makes : Makes document.nodes (fun _ => True) document.value := by
    have start : Stock.Sound document.nodes ⟨document.nodes, [], [], []⟩ :=
      ⟨.refl _, by simp, by simp⟩
    apply (Stock.makes_take start document.root).bind
    rintro ⟨ref, s⟩ ⟨sound, -⟩
    apply (Stock.makes_fillAll sound _).bind
    intro filled isIn
    cases assembled : ref.assemble filled (filled.length + 1) with
    | error stop =>
        obtain ⟨rfl, place, -, leads⟩ := leads_of_assemble isIn _ assembled
        have circles := exists_cycle (fun _ _ _ => Relation.TransGen.trans) leads (by simp)
        exact Or.inr (Or.inr ⟨Or.inr rfl, circles⟩)
    | ok v => exact True.intro
  rw [fails] at makes
  exact makes

/-- A fault of a text that is no YAML document with a value is announced, it is that of an escape for a number
    that is too large, or it stems from a part of the document. -/
theorem origin_of_readYaml {s : List Char} {fault : Fault} (fails : readYaml s = .error (.fault fault)) :
    fault.isAnnounced = true ∨
      (readDocument (scanTokens s) = .error .numberTooLarge ∧ fault = .arithmetic .numberTooLarge) ∨
      ∃ document, readDocument (scanTokens s) = .ok (some document) ∧
        ((∃ place text, BreaksAt document.nodes place text fault) ∨ Circles document.nodes fault) := by
  unfold readYaml at fails
  split at fails
  · cases fails
  · cases fails
    exact Or.inl rfl
  · rename_i isRead
    cases fails
    exact Or.inr (Or.inl ⟨isRead, rfl⟩)
  · cases fails
    exact Or.inl rfl
  · cases fails
  · rename_i document isDocument
    exact (stemsFrom_of_value fails).imp_right (fun origin => Or.inr ⟨document, isDocument, origin⟩)

end LayeredFiles.Yaml
