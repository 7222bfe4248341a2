import LayeredFiles.Yaml.Value
/-
Module: LayeredFiles.Yaml.Document
Layer: Yaml
Purpose: the values of YAML documents. Every node is made into a value once, whatever repeats it. A mapping
  takes in the entries of those it merges, which its own entries replace, and then its equals signs are
  texts wherever else they stand. Collections are filled in the order in which they come up, after the
  values of the collection they come up in, so the first fault is that of the collection that came up first.
  A value is a tree, so a collection that is a part of itself has none.
Main exports: mergeFrom, Stock, Stock.take, Stock.fill, Stock.fillAll, Ref.assemble, Document.value, readYaml
-/

namespace LayeredFiles.Yaml

/-! ### Merged mappings -/

/-- The entries of the mapping at a place. -/
def entriesAt (nodes : List Node) (place : Nat) : List (Nat × Nat) :=
  match nodeAt nodes place with
  | .mapping _ entries => entries
  | _ => []

/-- The nodes with the keys of some entries as texts where they are equals signs. -/
def settleKeys (entries : List (Nat × Nat)) (nodes : List Node) : List Node :=
  nodes.mapIdx (fun place node =>
    if node.tag = Kind.value.tag && entries.any (fun e => e.1 = place) then
      node.withTag Kind.str.tag
    else node)

/-- The entries of the mappings that a node to be merged stands for, and the nodes when these have taken in
    what they merge: the node itself, or the items of a sequence, the first of which counts most. -/
def mergedFrom (merge : Nat → List Node → Except YamlProblem (List Node)) (place : Nat)
    (nodes : List Node) : Except YamlProblem (List (Nat × Nat) × List Node) :=
  match nodeAt nodes place with
  | .mapping _ _ => ofMapping place nodes
  | .sequence _ items => ofItems items nodes
  | .scalar _ _ _ => .error .merge
where
  /-- The entries of a mapping. -/
  ofMapping (place : Nat) (nodes : List Node) : Except YamlProblem (List (Nat × Nat) × List Node) :=
    match nodeAt nodes place with
    | .mapping _ _ => (merge place nodes).map (fun nodes => (entriesAt nodes place, nodes))
    | _ => .error .merge
  /-- The entries of some mappings, those of the last one first. -/
  ofItems : List Nat → List Node → Except YamlProblem (List (Nat × Nat) × List Node)
    | [], nodes => .ok ([], nodes)
    | item :: rest, nodes => do
      let (here, nodes) ← ofMapping item nodes
      let (later, nodes) ← ofItems rest nodes
      pure (later ++ here, nodes)

/-- The nodes when the mapping at a place has taken in what it merges; `merged` are the entries it has taken
    in already. An entry that asks for a merge is removed before the merge, so `fuel` bounds their number. -/
def mergeFrom : Nat → List (Nat × Nat) → Nat → List Node → Except YamlProblem (List Node)
  | fuel, merged, place, nodes =>
    match nodeAt nodes place with
    | .mapping tag entries =>
      match entries.find? (isKeyed nodes .merge) with
      | none =>
        .ok (settleKeys (merged ++ entries) (nodes.set place (.mapping tag (merged ++ entries))))
      | some entry =>
        match fuel with
        | 0 => .error .merge
        | fuel + 1 => do
          let nodes := nodes.set place (.mapping tag (entries.eraseP (isKeyed nodes .merge)))
          let (more, nodes) ← mergedFrom (mergeFrom fuel []) entry.2 nodes
          mergeFrom fuel (merged ++ more) place nodes
    | _ => .error .merge

/-- The number of the entries that ask for a merge. -/
def mergeCount (nodes : List Node) : Nat :=
  ((List.range nodes.length).flatMap (entriesAt nodes)).countP (isKeyed nodes .merge)

/-! ### Collections -/

/-- What a collection may be. -/
inductive Shape where
  | list | dict | set | pairs
deriving DecidableEq, Repr

/-- The shape of the collections of a tag. -/
def shapeOf? (tag : String) : Option Shape :=
  [(tagStart ++ "seq", Shape.list), (tagStart ++ "map", .dict), (tagStart ++ "set", .set),
    (tagStart ++ "omap", .pairs), (tagStart ++ "pairs", .pairs)].lookup tag

/-- A part of a collection: a value, or the collection that is made of the node at a place. -/
inductive Ref where
  | value (v : Value)
  | collection (place : Nat)
deriving Repr

/-- A collection of which the parts are known. -/
inductive Filled where
  | list (items : List Ref)
  | dict (entries : List (Value × Ref))
  | set (members : List (Value × Ref))
  | pairs (entries : List (Ref × Ref))
deriving Repr

/-- The state of making values: the nodes, what was made of the nodes at some places, the collections that
    are still to be filled, and those that are filled. -/
structure Stock where
  nodes : List Node
  made : List (Nat × Ref)
  waiting : List (Nat × Shape)
  filled : List (Nat × Filled)

namespace Stock

/-- What is made of the node at a place. A collection is filled later. -/
def take (place : Nat) (s : Stock) : Making (Ref × Stock) :=
  match s.made.lookup place with
  | some ref => .ok (ref, s)
  | none =>
    match shapeOf? (tagAt s.nodes place) with
    | some shape =>
      .ok (.collection place, { s with
        made := (place, .collection place) :: s.made
        waiting := s.waiting ++ [(place, shape)] })
    | none =>
      (scalarValue s.nodes place).map (fun v =>
        (.value v, { s with made := (place, .value v) :: s.made }))

/-- What is made of the nodes at some places, one after another. -/
def takeAll : List Nat → Stock → Making (List Ref × Stock)
  | [], s => .ok ([], s)
  | place :: rest, s => do
    let (ref, s) ← s.take place
    let (refs, s) ← takeAll rest s
    pure (ref :: refs, s)

/-- The keys of some entries, which are no collections, and what is made of their values. -/
def takeEntries : List (Nat × Nat) → Stock → Making (List (Value × Ref) × Stock)
  | [], s => .ok ([], s)
  | (key, v) :: rest, s => do
    match ← s.take key with
    | (.collection _, _) => malformed .unhashableKey
    | (.value key, s) =>
      let (ref, s) ← s.take v
      let (entries, s) ← takeEntries rest s
      pure ((key, ref) :: entries, s)

/-- What is made of some mappings, each of one entry. -/
def takePairs : List Nat → Stock → Making (List (Ref × Ref) × Stock)
  | [], s => .ok ([], s)
  | place :: rest, s =>
    match nodeAt s.nodes place with
    | .mapping _ [(key, v)] => do
      let (key, s) ← s.take key
      let (v, s) ← s.take v
      let (entries, s) ← takePairs rest s
      pure ((key, v) :: entries, s)
    | node => malformed (.kind node.tag)

/-- The entries of the mapping at a place with those that it merges. -/
def takeMapping (place : Nat) (s : Stock) : Making (List (Value × Ref) × Stock) :=
  match nodeAt s.nodes place with
  | .mapping _ _ =>
    match mergeFrom (mergeCount s.nodes) [] place s.nodes with
    | .error what => malformed what
    | .ok nodes => takeEntries (entriesAt nodes place) { s with nodes := nodes }
  | node => malformed (.kind node.tag)

/-- The items of the sequence at a place. -/
def itemsAt (place : Nat) (s : Stock) : Making (List Nat) :=
  match nodeAt s.nodes place with
  | .sequence _ items => .ok items
  | node => malformed (.kind node.tag)

/-- The parts of the collection at a place. -/
def fill (place : Nat) (shape : Shape) (s : Stock) : Making (Filled × Stock) :=
  match shape with
  | .list => do
    let (refs, s) ← takeAll (← s.itemsAt place) s
    pure (.list refs, s)
  | .pairs => do
    let (refs, s) ← takePairs (← s.itemsAt place) s
    pure (.pairs refs, s)
  | .dict => do
    let (entries, s) ← s.takeMapping place
    pure (.dict entries, s)
  | .set => do
    let (entries, s) ← s.takeMapping place
    pure (.set entries, s)

/-- Fills the collections that wait, the first one first. Each waits once, so `fuel` bounds their number. -/
def fillAll : Nat → Stock → Making (List (Nat × Filled))
  | fuel, s =>
    match s.waiting with
    | [] => .ok s.filled
    | (place, shape) :: rest =>
      match fuel with
      | 0 => malformed (.kind (tagAt s.nodes place))
      | fuel + 1 => do
        let (filled, s) ← { s with waiting := rest }.fill place shape
        fillAll fuel { s with filled := (place, filled) :: s.filled }

end Stock

/-! ### Values -/

/-- Some entries, where of those of one key only the last one counts. -/
def latest : List (Value × Ref) → List (Value × Ref)
  | [] => []
  | (key, ref) :: rest =>
    (key, if rest.any (fun e => key.equals e.1) then .value .null else ref) :: latest rest

/-- The value of a part. A set is the list of its members. `fuel` bounds the collections that stand in each
    other, so where there is none left a collection is a part of itself. -/
def Ref.assemble (filled : List (Nat × Filled)) : Nat → Ref → Making Value
  | _, .value v => .ok v
  | 0, .collection _ => faulty (.arithmetic .endless)
  | fuel + 1, .collection place =>
    match filled.lookup place with
    | none => .ok .null
    | some (.list items) => (items.mapM (Ref.assemble filled fuel)).map .list
    | some (.dict entries) => do
      let values ← (latest entries).mapM (fun e => (Ref.assemble filled fuel e.2).map (fun v => (e.1, v)))
      pure (.dict (Entries.ofList values))
    | some (.set members) =>
      .ok (.list ((Entries.ofList (members.map (fun e => (e.1, .null)))).map Prod.fst))
    | some (.pairs entries) => do
      let values ← entries.mapM (fun e => do
        pure (Value.tuple [← Ref.assemble filled fuel e.1, ← Ref.assemble filled fuel e.2]))
      pure (.list values)

/-- The value of a document. -/
def Document.value (document : Document) : Making Value := do
  let (ref, s) ← Stock.take document.root ⟨document.nodes, [], [], []⟩
  let filled ← s.fillAll document.nodes.length
  ref.assemble filled (filled.length + 1)

/-- The value of a text, nothing if the text is empty. -/
def readYaml (s : List Char) : Making Value :=
  match readDocument (scanTokens s) with
  | .error (.problem what) => malformed what
  | .error .noCharacter => faulty (.value (.reported "chr() arg not in range(0x110000)"))
  | .error .numberTooLarge => faulty (.arithmetic .numberTooLarge)
  | .error (.tooManyDigits digits) => faulty (.value (.intTextTooLong digits))
  | .ok none => .ok .null
  | .ok (some document) => document.value

end LayeredFiles.Yaml
