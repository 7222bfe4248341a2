import LayeredFiles.Proofs.Fault
import LayeredFiles.Yaml.Document
import Mathlib.Logic.Relation
/-
Module: LayeredFiles.Proofs.Yaml.Merging
Layer: Proofs
Purpose: what merging does to the nodes of a YAML document. The text of a node stays as it is, and so does its
  tag, unless it is an equals sign that becomes a text; a mapping takes in only what stands somewhere in it
  already. So what is found in the nodes at any time was in the document from the start. A way through more
  nodes than there are comes back to one of them.
Main exports: Yaml.Holds, Yaml.Contains, Yaml.HasText, Yaml.ComesFrom, Yaml.comesFrom_mergeFrom,
  Yaml.exists_cycle, Yaml.hasText_of_textOf, Yaml.exists_cycle_of_textOf
-/

namespace LayeredFiles.Yaml

/-! ### Parts of a document -/

/-- The node at a place has another as an item, a key or a value. -/
inductive Holds (nodes : List Node) (place : Nat) : Nat → Prop
  | item {tag : Option String} {items : List Nat} {part : Nat}
      (isSequence : nodeAt nodes place = .sequence tag items) (mem : part ∈ items) : Holds nodes place part
  | key {tag : Option String} {entries : List (Nat × Nat)} {entry : Nat × Nat}
      (isMapping : nodeAt nodes place = .mapping tag entries) (mem : entry ∈ entries) :
      Holds nodes place entry.1
  | value {tag : Option String} {entries : List (Nat × Nat)} {entry : Nat × Nat}
      (isMapping : nodeAt nodes place = .mapping tag entries) (mem : entry ∈ entries) :
      Holds nodes place entry.2

/-- The node at a place has another in it, however deep. -/
abbrev Contains (nodes : List Node) : Nat → Nat → Prop := Relation.TransGen (Holds nodes)

/-- The node at a place stands for a text: its own, or that of an entry whose key is an equals sign. -/
inductive HasText (nodes : List Node) : Nat → String → Prop
  | scalar {place : Nat} {tag : Option String} {text : String} {isPlain : Bool}
      (isScalar : nodeAt nodes place = .scalar tag text isPlain) : HasText nodes place text
  | entry {place : Nat} {tag : Option String} {entries : List (Nat × Nat)} {entry : Nat × Nat} {text : String}
      (isMapping : nodeAt nodes place = .mapping tag entries) (mem : entry ∈ entries)
      (isValue : tagAt nodes entry.1 = Kind.value.tag) (isText : HasText nodes entry.2 text) :
      HasText nodes place text

/-- Key and value of an entry stand in the node at a place. -/
def ContainsEntry (nodes : List Node) (place : Nat) (entry : Nat × Nat) : Prop :=
  Contains nodes place entry.1 ∧ Contains nodes place entry.2

theorem ContainsEntry.of_contains {nodes : List Node} {place inner : Nat} {entry : Nat × Nat}
    (contains : Contains nodes place inner) (isIn : ContainsEntry nodes inner entry) :
    ContainsEntry nodes place entry :=
  ⟨contains.trans isIn.1, contains.trans isIn.2⟩

/-! ### Nodes at places -/

theorem place_lt_of_nodeAt {nodes : List Node} {place : Nat} {node : Node} (isNode : nodeAt nodes place = node)
    (other : node ≠ .empty) : place < nodes.length := by
  rcases Nat.lt_or_ge place nodes.length with inRange | outside
  · exact inRange
  · rw [nodeAt, List.getElem?_eq_none outside] at isNode
    exact absurd isNode.symm other

theorem place_lt_of_holds {nodes : List Node} {place part : Nat} (holds : Holds nodes place part) :
    place < nodes.length := by
  cases holds with
  | item isSequence mem => exact place_lt_of_nodeAt isSequence (by simp [Node.empty])
  | key isMapping mem => exact place_lt_of_nodeAt isMapping (by simp [Node.empty])
  | value isMapping mem => exact place_lt_of_nodeAt isMapping (by simp [Node.empty])

theorem nodeAt_set {nodes : List Node} {place : Nat} (inRange : place < nodes.length) (node : Node)
    (other : Nat) :
    nodeAt (nodes.set place node) other = if other = place then node else nodeAt nodes other := by
  unfold nodeAt
  by_cases same : other = place
  · rw [if_pos same, same, List.getElem?_set_self inRange, Option.getD_some]
  · rw [if_neg same, List.getElem?_set_ne (Ne.symm same)]

theorem tag_withTag (tag : String) (node : Node) : (node.withTag tag).tag = tag := by
  cases node <;> rfl

/-- Keys that are equals signs become texts, and all other nodes stay. -/
theorem nodeAt_settleKeys (entries : List (Nat × Nat)) (nodes : List Node) (place : Nat) :
    nodeAt (settleKeys entries nodes) place =
      if tagAt nodes place = Kind.value.tag ∧ ∃ e ∈ entries, e.1 = place then
        (nodeAt nodes place).withTag Kind.str.tag
      else nodeAt nodes place := by
  unfold tagAt nodeAt settleKeys
  rw [List.getElem?_mapIdx]
  cases nodes[place]? with
  | none =>
      rw [if_neg (fun isValue => absurd isValue.1 (by decide))]
      rfl
  | some node =>
      simp only [Option.map_some, Option.getD_some, Bool.and_eq_true, decide_eq_true_eq, List.any_eq_true]

theorem tagAt_settleKeys (entries : List (Nat × Nat)) (nodes : List Node) (place : Nat) :
    tagAt (settleKeys entries nodes) place =
      if tagAt nodes place = Kind.value.tag ∧ ∃ e ∈ entries, e.1 = place then Kind.str.tag
      else tagAt nodes place := by
  rw [tagAt, nodeAt_settleKeys]
  split
  · exact tag_withTag _ _
  · rfl

section Settling

variable {entries : List (Nat × Nat)} {nodes : List Node} {place : Nat} {tag : Option String}

theorem scalar_of_settleKeys {text : String} {isPlain : Bool}
    (isScalar : nodeAt (settleKeys entries nodes) place = .scalar tag text isPlain) :
    ∃ tag' isPlain', nodeAt nodes place = .scalar tag' text isPlain' := by
  rw [nodeAt_settleKeys] at isScalar
  split at isScalar
  · cases isNode : nodeAt nodes place <;> rw [isNode] at isScalar <;> cases isScalar
    exact ⟨_, _, rfl⟩
  · exact ⟨_, _, isScalar⟩

theorem sequence_of_settleKeys {items : List Nat}
    (isSequence : nodeAt (settleKeys entries nodes) place = .sequence tag items) :
    ∃ tag', nodeAt nodes place = .sequence tag' items := by
  rw [nodeAt_settleKeys] at isSequence
  split at isSequence
  · cases isNode : nodeAt nodes place <;> rw [isNode] at isSequence <;> cases isSequence
    exact ⟨_, rfl⟩
  · exact ⟨_, isSequence⟩

theorem mapping_of_settleKeys {parts : List (Nat × Nat)}
    (isMapping : nodeAt (settleKeys entries nodes) place = .mapping tag parts) :
    ∃ tag', nodeAt nodes place = .mapping tag' parts := by
  rw [nodeAt_settleKeys] at isMapping
  split at isMapping
  · cases isNode : nodeAt nodes place <;> rw [isNode] at isMapping <;> cases isMapping
    exact ⟨_, rfl⟩
  · exact ⟨_, isMapping⟩

/-- Other entries leave all tags as they are. -/
theorem tagAt_set (isMapping : nodeAt nodes place = .mapping tag entries) (others : List (Nat × Nat))
    (other : Nat) : tagAt (nodes.set place (.mapping tag others)) other = tagAt nodes other := by
  have inRange := place_lt_of_nodeAt isMapping (by simp [Node.empty])
  rw [tagAt, nodeAt_set inRange, tagAt]
  split
  · rename_i same
    rw [same, isMapping]
    rfl
  · rfl

end Settling

/-! ### What merging keeps -/

/-- The nodes have come from those of a document by merges. -/
structure ComesFrom (first nodes : List Node) : Prop where
  length : nodes.length = first.length
  tag : ∀ place, tagAt nodes place = tagAt first place ∨
    (tagAt first place = Kind.value.tag ∧ tagAt nodes place = Kind.str.tag)
  scalar : ∀ {place tag text isPlain}, nodeAt nodes place = .scalar tag text isPlain →
    ∃ tag' isPlain', nodeAt first place = .scalar tag' text isPlain'
  sequence : ∀ {place tag items}, nodeAt nodes place = .sequence tag items →
    ∃ tag', nodeAt first place = .sequence tag' items
  mapping : ∀ {place tag entries}, nodeAt nodes place = .mapping tag entries →
    ∃ tag' entries', nodeAt first place = .mapping tag' entries' ∧ ∀ entry ∈ entries,
      ContainsEntry first place entry ∧ (tagAt nodes entry.1 = Kind.value.tag → entry ∈ entries')

namespace ComesFrom

theorem refl (nodes : List Node) : ComesFrom nodes nodes where
  length := rfl
  tag _ := Or.inl rfl
  scalar isScalar := ⟨_, _, isScalar⟩
  sequence isSequence := ⟨_, isSequence⟩
  mapping isMapping := ⟨_, _, isMapping, fun _ mem =>
    ⟨⟨.single (.key isMapping mem), .single (.value isMapping mem)⟩, fun _ => mem⟩⟩

variable {first nodes : List Node} (comes : ComesFrom first nodes)
include comes

theorem tagAt_first {place : Nat} (isValue : tagAt nodes place = Kind.value.tag) :
    tagAt first place = Kind.value.tag := by
  rcases comes.tag place with same | ⟨isValue', -⟩
  · rw [← same, isValue]
  · exact isValue'

theorem containsEntry {place : Nat} {entry : Nat × Nat} (mem : entry ∈ entriesAt nodes place) :
    ContainsEntry first place entry := by
  unfold entriesAt at mem
  split at mem
  · rename_i isMapping
    obtain ⟨tag, entries, -, each⟩ := comes.mapping isMapping
    exact (each entry mem).1
  · cases mem

theorem contains_item {place item : Nat} {tag : Option String} {items : List Nat}
    (isSequence : nodeAt nodes place = .sequence tag items) (mem : item ∈ items) :
    Contains first place item := by
  obtain ⟨tag', isFirst⟩ := comes.sequence isSequence
  exact .single (.item isFirst mem)

section Mapping

variable {place : Nat} {tag : Option String} {entries : List (Nat × Nat)}
  (isMapping : nodeAt nodes place = .mapping tag entries)
include isMapping

/-- A mapping of which entries are removed. -/
theorem set_of_sublist {fewer : List (Nat × Nat)} (isLeft : fewer.Sublist entries) :
    ComesFrom first (nodes.set place (.mapping tag fewer)) := by
  have inRange := place_lt_of_nodeAt isMapping (by simp [Node.empty])
  have nodeAt_eq := nodeAt_set inRange (.mapping tag fewer)
  have tagAt_eq := tagAt_set isMapping fewer
  refine ⟨(List.length_set ..).trans comes.length, fun other => ?_, fun isScalar => ?_, fun isSequence => ?_,
    fun isMapping' => ?_⟩
  · rw [tagAt_eq]
    exact comes.tag other
  · rw [nodeAt_eq] at isScalar
    split at isScalar
    · cases isScalar
    · exact comes.scalar isScalar
  · rw [nodeAt_eq] at isSequence
    split at isSequence
    · cases isSequence
    · exact comes.sequence isSequence
  · simp only [tagAt_eq]
    rw [nodeAt_eq] at isMapping'
    split at isMapping'
    · rename_i same
      cases isMapping'
      obtain ⟨tag', entries', isFirst, each⟩ := comes.mapping isMapping
      exact ⟨tag', entries', same ▸ isFirst, fun entry mem => same ▸ each entry (isLeft.subset mem)⟩
    · exact comes.mapping isMapping'

/-- A mapping that has taken in entries which stand in it already. Its equals signs are texts then. -/
theorem settle {more : List (Nat × Nat)} (isIn : ∀ entry ∈ more, ContainsEntry first place entry) :
    ComesFrom first (settleKeys more (nodes.set place (.mapping tag more))) := by
  have inRange := place_lt_of_nodeAt isMapping (by simp [Node.empty])
  have nodeAt_eq := nodeAt_set inRange (.mapping tag more)
  have tagAt_eq := tagAt_set isMapping more
  refine ⟨?_, fun other => ?_, fun isScalar => ?_, fun isSequence => ?_, fun isMapping' => ?_⟩
  · rw [settleKeys, List.length_mapIdx, List.length_set, comes.length]
  · rw [tagAt_settleKeys, tagAt_eq]
    split
    · rename_i settled
      exact Or.inr ⟨comes.tagAt_first settled.1, rfl⟩
    · exact comes.tag other
  · obtain ⟨tag', isPlain', isNode⟩ := scalar_of_settleKeys isScalar
    rw [nodeAt_eq] at isNode
    split at isNode
    · cases isNode
    · exact comes.scalar isNode
  · obtain ⟨tag', isNode⟩ := sequence_of_settleKeys isSequence
    rw [nodeAt_eq] at isNode
    split at isNode
    · cases isNode
    · exact comes.sequence isNode
  · obtain ⟨tag', isNode⟩ := mapping_of_settleKeys isMapping'
    rw [nodeAt_eq] at isNode
    split at isNode
    · rename_i same
      cases isNode
      obtain ⟨tag₀, entries₀, isFirst, -⟩ := comes.mapping isMapping
      refine ⟨tag₀, entries₀, same ▸ isFirst, fun entry mem => ⟨same ▸ isIn entry mem, fun isValue => ?_⟩⟩
      rw [tagAt_settleKeys] at isValue
      split at isValue
      · exact absurd isValue (by decide)
      · rename_i notSettled
        exact absurd ⟨isValue, entry, mem, rfl⟩ notSettled
    · obtain ⟨tag₀, entries₀, isFirst, each⟩ := comes.mapping isNode
      refine ⟨tag₀, entries₀, isFirst, fun entry mem => ⟨(each entry mem).1, fun isValue => ?_⟩⟩
      rw [tagAt_settleKeys] at isValue
      split at isValue
      · exact absurd isValue (by decide)
      · rw [tagAt_eq] at isValue
        exact (each entry mem).2 isValue

end Mapping

end ComesFrom

/-! ### Merges -/

section Merges

variable {first : List Node}

/-- Whatever is merged into a mapping, the nodes come from the document. -/
def KeepsNodes (first : List Node) (merge : Nat → List Node → Except YamlProblem (List Node)) : Prop :=
  ∀ {place nodes nodes'}, ComesFrom first nodes → merge place nodes = .ok nodes' → ComesFrom first nodes'

variable {merge : Nat → List Node → Except YamlProblem (List Node)} (keeps : KeepsNodes first merge)
  {place : Nat} {nodes : List Node} {found : List (Nat × Nat) × List Node}
include keeps

theorem of_mergedFrom_ofMapping (comes : ComesFrom first nodes)
    (merged : mergedFrom.ofMapping merge place nodes = .ok found) :
    ComesFrom first found.2 ∧ ∀ entry ∈ found.1, ContainsEntry first place entry := by
  unfold mergedFrom.ofMapping at merged
  split at merged
  · cases isMerge : merge place nodes with
    | error what =>
        rw [isMerge] at merged
        cases merged
    | ok nodes' =>
        rw [isMerge] at merged
        cases merged
        have comes' := keeps comes isMerge
        exact ⟨comes', fun entry mem => comes'.containsEntry mem⟩
  · cases merged

theorem of_mergedFrom_ofItems {items : List Nat} (isIn : ∀ item ∈ items, Contains first place item)
    (comes : ComesFrom first nodes) (merged : mergedFrom.ofItems merge items nodes = .ok found) :
    ComesFrom first found.2 ∧ ∀ entry ∈ found.1, ContainsEntry first place entry := by
  induction items generalizing nodes found with
  | nil =>
      cases merged
      exact ⟨comes, by simp⟩
  | cons item rest ih =>
      rw [mergedFrom.ofItems, bind_eq_ok_iff] at merged
      obtain ⟨⟨here, nodes₁⟩, isHere, merged⟩ := merged
      obtain ⟨⟨later, nodes₂⟩, isLater, merged⟩ := bind_eq_ok_iff.1 merged
      cases merged
      obtain ⟨comes₁, fromHere⟩ := of_mergedFrom_ofMapping keeps comes isHere
      obtain ⟨comes₂, fromLater⟩ := ih (fun item mem => isIn item (List.mem_cons_of_mem _ mem)) comes₁ isLater
      refine ⟨comes₂, fun entry mem => ?_⟩
      rcases List.mem_append.1 mem with isLate | isEarly
      · exact fromLater entry isLate
      · exact (fromHere entry isEarly).of_contains (isIn item List.mem_cons_self)

/-- What a node gives to a merge stands in it. -/
theorem of_mergedFrom (comes : ComesFrom first nodes) (merged : mergedFrom merge place nodes = .ok found) :
    ComesFrom first found.2 ∧ ∀ entry ∈ found.1, ContainsEntry first place entry := by
  unfold mergedFrom at merged
  split at merged
  · exact of_mergedFrom_ofMapping keeps comes merged
  · rename_i isSequence
    exact of_mergedFrom_ofItems keeps (fun item mem => comes.contains_item isSequence mem) comes merged
  · cases merged

end Merges

/-- A merge keeps the nodes, whatever entries that stand in the mapping it has taken in already. -/
theorem comesFrom_mergeFrom {first : List Node} (fuel : Nat) {merged : List (Nat × Nat)} {place : Nat}
    {nodes nodes' : List Node} (comes : ComesFrom first nodes)
    (isIn : ∀ entry ∈ merged, ContainsEntry first place entry)
    (isMerge : mergeFrom fuel merged place nodes = .ok nodes') : ComesFrom first nodes' := by
  induction fuel generalizing merged place nodes nodes' with
  | zero =>
      unfold mergeFrom at isMerge
      split at isMerge
      · rename_i isMapping
        split at isMerge
        · cases isMerge
          apply comes.settle isMapping
          intro entry mem
          rcases List.mem_append.1 mem with isMerged | isOwn
          · exact isIn entry isMerged
          · exact comes.containsEntry (by simpa [entriesAt, isMapping] using isOwn)
        · cases isMerge
      · cases isMerge
  | succ fuel ih =>
      unfold mergeFrom at isMerge
      split at isMerge
      · rename_i isMapping
        have own : ∀ {entry}, entry ∈ _ → ContainsEntry first place entry := fun mem =>
          comes.containsEntry (by simpa [entriesAt, isMapping] using mem)
        split at isMerge
        · cases isMerge
          apply comes.settle isMapping
          intro entry mem
          rcases List.mem_append.1 mem with isMerged | isOwn
          · exact isIn entry isMerged
          · exact own isOwn
        · rename_i entry isEntry
          obtain ⟨⟨more, nodes₁⟩, isMore, isMerge⟩ := bind_eq_ok_iff.1 isMerge
          have keeps : KeepsNodes first (mergeFrom fuel []) := fun comes isMerge => ih comes (by simp) isMerge
          obtain ⟨comes₁, fromEntry⟩ := of_mergedFrom keeps
            (comes.set_of_sublist isMapping List.eraseP_sublist) isMore
          apply ih comes₁ _ isMerge
          intro entry' mem
          rcases List.mem_append.1 mem with isMerged | isMore
          · exact isIn entry' isMerged
          · exact (fromEntry entry' isMore).of_contains (own (List.mem_of_find?_eq_some isEntry)).2
      · cases isMerge

/-! ### Circles -/

/-- A way of so many steps from a place, where every step begins at one of some places. -/
inductive Leads (related : Nat → Nat → Prop) (places : List Nat) : Nat → Nat → Prop
  | stop (place : Nat) : Leads related places 0 place
  | step {count place next : Nat} (mem : place ∈ places) (steps : related place next)
      (rest : Leads related places count next) : Leads related places (count + 1) place

section Leads

variable {related : Nat → Nat → Prop} {places : List Nat} {count place : Nat}

/-- A way that never comes back to a place does without it from there on. -/
theorem Leads.erase (trans : ∀ a b c, related a b → related b c → related a c)
    (noCycle : ∀ a, ¬related a a) {start : Nat} (isNext : related start place)
    (leads : Leads related places count place) : Leads related (places.erase start) count place := by
  induction leads with
  | stop place => exact .stop place
  | @step count place next mem steps rest ih =>
      have other : place ≠ start := by
        rintro rfl
        exact noCycle place isNext
      exact .step ((List.mem_erase_of_ne other).2 mem) steps (ih (trans _ _ _ isNext steps))

/-- A way of more steps than there are places comes back to one of them. -/
theorem exists_cycle (trans : ∀ a b c, related a b → related b c → related a c)
    (leads : Leads related places count place) (long : places.length < count) : ∃ a, related a a := by
  by_cases noCycle : ∀ a, ¬related a a
  · exfalso
    induction count generalizing places place with
    | zero => cases long
    | succ count ih =>
        cases leads with
        | step mem steps rest =>
            have nonempty := List.length_pos_of_mem mem
            apply ih (rest.erase trans noCycle steps)
            rw [List.length_erase_of_mem mem]
            omega
  · simpa using noCycle

end Leads

/-! ### Texts of nodes -/

section Texts

variable {first nodes : List Node} (comes : ComesFrom first nodes)
include comes

/-- The entry of an equals sign was in the mapping from the start. -/
theorem ComesFrom.exists_mapping {place : Nat} {tag : Option String} {entries : List (Nat × Nat)}
    {entry : Nat × Nat} (isMapping : nodeAt nodes place = .mapping tag entries)
    (found : entries.find? (isKeyed nodes .value) = some entry) :
    ∃ tag' entries', nodeAt first place = .mapping tag' entries' ∧ entry ∈ entries' ∧
      tagAt first entry.1 = Kind.value.tag := by
  obtain ⟨tag', entries', isFirst, each⟩ := comes.mapping isMapping
  have isValue : tagAt nodes entry.1 = Kind.value.tag := by simpa [isKeyed] using List.find?_some found
  exact ⟨tag', entries', isFirst, (each entry (List.mem_of_find?_eq_some found)).2 isValue,
    comes.tagAt_first isValue⟩

/-- A text that is found was in the document from the start. -/
theorem hasText_of_textOf {fuel place : Nat} {text : String}
    (isText : textOf nodes fuel place = .ok (some text)) : HasText first place text := by
  induction fuel generalizing place with
  | zero =>
      unfold textOf at isText
      split at isText
      · rename_i isScalar
        cases isText
        obtain ⟨tag, isPlain, isFirst⟩ := comes.scalar isScalar
        exact .scalar isFirst
      · cases isText
      · split at isText
        · cases isText
        · cases isText
  | succ fuel ih =>
      unfold textOf at isText
      split at isText
      · rename_i isScalar
        cases isText
        obtain ⟨tag, isPlain, isFirst⟩ := comes.scalar isScalar
        exact .scalar isFirst
      · cases isText
      · rename_i isMapping
        split at isText
        · cases isText
        · rename_i entry found
          obtain ⟨tag, entries, isFirst, mem, isValue⟩ := comes.exists_mapping isMapping found
          exact .entry isFirst mem isValue (ih isText)

/-- Where no text is found, equals signs lead on as far as is looked. -/
theorem leads_of_textOf {fuel place : Nat} {stop : YamlStop} (fails : textOf nodes fuel place = .error stop) :
    stop = .fault (.arithmetic .depthTooLarge) ∧
      Leads (Contains first) (List.range first.length) (fuel + 1) place := by
  have next : ∀ {place tag entries entry}, nodeAt nodes place = .mapping tag entries →
      entries.find? (isKeyed nodes .value) = some entry →
      place ∈ List.range first.length ∧ Contains first place entry.2 := by
    intro place tag entries entry isMapping found
    obtain ⟨tag', entries', isFirst, mem, -⟩ := comes.exists_mapping isMapping found
    have holds : Holds first place entry.2 := .value isFirst mem
    exact ⟨List.mem_range.2 (place_lt_of_holds holds), .single holds⟩
  induction fuel generalizing place with
  | zero =>
      unfold textOf at fails
      split at fails
      · cases fails
      · cases fails
      · rename_i isMapping
        split at fails
        · cases fails
        · rename_i entry found
          cases fails
          obtain ⟨inRange, contains⟩ := next isMapping found
          exact ⟨rfl, .step inRange contains (.stop _)⟩
  | succ fuel ih =>
      unfold textOf at fails
      split at fails
      · cases fails
      · cases fails
      · rename_i isMapping
        split at fails
        · cases fails
        · rename_i entry found
          obtain ⟨isStop, leads⟩ := ih fails
          obtain ⟨inRange, contains⟩ := next isMapping found
          exact ⟨isStop, .step inRange contains leads⟩

/-- Where no text is found, a node of the document stands in itself. -/
theorem exists_cycle_of_textOf {place : Nat} {stop : YamlStop}
    (fails : textOf nodes nodes.length place = .error stop) :
    stop = .fault (.arithmetic .depthTooLarge) ∧ ∃ node, Contains first node node := by
  obtain ⟨isStop, leads⟩ := leads_of_textOf comes fails
  refine ⟨isStop, exists_cycle (fun _ _ _ => Relation.TransGen.trans) leads ?_⟩
  rw [List.length_range, comes.length]
  exact Nat.lt_succ_self _

end Texts

end LayeredFiles.Yaml
