import LayeredFiles.Yaml.Token
/-
Module: LayeredFiles.Yaml.Node
Layer: Yaml
Purpose: the nodes of a YAML document, read from its tokens. A node may have a tag, and a name by which
  later parts of the document repeat it. The name is known as soon as the node begins, so a collection can
  be a part of itself; that is why the parts of a collection are told by their places among the nodes. A
  text holds one document.
Main exports: Node, Document, readNode, readDocument
-/

namespace LayeredFiles.Yaml

/-- A node of a document. The items and the entries of a collection are places of nodes. -/
inductive Node where
  /-- A text; `isPlain` says that its kind is still to be found from the text. -/
  | scalar (tag : Option String) (text : String) (isPlain : Bool)
  | sequence (tag : Option String) (items : List Nat)
  | mapping (tag : Option String) (entries : List (Nat × Nat))
deriving DecidableEq, Repr

/-- The empty plain scalar that stands where nothing is written. -/
def Node.empty : Node := .scalar none "" true

/-- The nodes of a document and the place of the one that all others stand in. -/
structure Document where
  nodes : List Node
  root : Nat
deriving DecidableEq, Repr

/-- What has been read so far: the nodes, the places of the named ones, and the handles of tags; and why there
    are no tokens behind the last one. A collection that is being read is empty. -/
structure Draft where
  nodes : List Node
  anchors : List (String × Nat)
  handles : List (String × String)
  stop : Option ScanStop

/-- The handles that need no directive. -/
def defaultHandles : List (String × String) := [("!", "!"), ("!!", "tag:yaml.org,2002:")]

/-- A reader of nodes takes tokens from the front of a list. -/
abbrev NodeReader := StateT (List Token × Draft) (Except ScanStop)

namespace NodeReader

/-- The token at the front. Scanning may have stopped there. -/
def current : NodeReader Token := fun s =>
  match s.1, s.2.stop with
  | t :: _, _ => .ok (t, s)
  | [], some stop => .error stop
  | [], none => .ok (.streamEnd, s)

/-- Passes the token at the front. -/
def advance : NodeReader Unit := fun s => .ok ((), (s.1.drop 1, s.2))

/-- Gives up. -/
def fail {α : Type} (what : YamlProblem) : NodeReader α := fun _ => .error (.problem what)

/-- Gives up because of the token at the front. -/
def unexpected {α : Type} : NodeReader α := do fail (.content (← current).describe)

/-- Whether the token at the front is one of some. -/
def isAt (tokens : List Token) : NodeReader Bool := do pure (tokens.contains (← current))

/-- What has been read so far. -/
def draft : NodeReader Draft := fun s => .ok (s.2, s)

/-- Puts a node behind all others and gives its place. -/
def add (node : Node) : NodeReader Nat := fun s =>
  .ok (s.2.nodes.length, (s.1, { s.2 with nodes := s.2.nodes ++ [node] }))

/-- Puts a node at a place, where its name is known from now on. -/
def addNamed (name : Option String) (node : Node) : NodeReader Nat := do
  let place ← add node
  fun s => match name with
    | none => .ok (place, s)
    | some name => .ok (place, (s.1, { s.2 with anchors := (name, place) :: s.2.anchors }))

/-- Puts a node in the place of one that was begun. -/
def complete (place : Nat) (node : Node) : NodeReader Nat := fun s =>
  .ok (place, (s.1, { s.2 with nodes := s.2.nodes.set place node }))

end NodeReader

open NodeReader

/-- The tag at the front, if there is one: its handle and the rest. -/
def takeTag : NodeReader (Option (Option String × String)) := do
  match ← current with
  | .tag handle rest => advance; pure (some (handle, rest))
  | _ => pure none

/-- The name at the front, if there is one. -/
def takeName : NodeReader (Option String) := do
  match ← current with
  | .anchor name => advance; pure (some name)
  | _ => pure none

/-- The full text of a tag. -/
def fullTag : Option (Option String × String) → NodeReader (Option String)
  | none => pure none
  | some (none, rest) => pure (some rest)
  | some (some handle, rest) => do
    match (← draft).handles.lookup handle with
    | some start => pure (some (start ++ rest))
    | none => fail (.undefinedHandle handle)

/-- The name and the tag in front of a node, in either order. The handle is looked up behind both. -/
def readProperties : NodeReader (Option String × Option String) := do
  match ← takeName with
  | some name => pure (some name, ← fullTag (← takeTag))
  | none =>
    match ← takeTag with
    | none => pure (none, none)
    | some tag =>
      let name ← takeName
      pure (name, ← fullTag (some tag))

/-- A name is that of one node. The content of the node begins before the name is looked up. -/
def checkName : Option String → NodeReader Unit
  | none => pure ()
  | some name => do
    let _ ← current
    if ((← draft).anchors.lookup name).isSome then fail (.repeatedAnchor name)

/-- A scalar out of its token and tag. The tag of one exclamation mark makes the text decide. -/
def scalarOf (tag : Option String) (text : String) (isPlain : Bool) : Node :=
  match tag with
  | none => .scalar none text isPlain
  | some "!" => .scalar none text true
  | some tag => .scalar (some tag) text false

/-- The tag of a collection. -/
def collectionTag (tag : Option String) : Option String := if tag = some "!" then none else tag

/-- Where a node stands, which decides what it may be. -/
inductive Place where
  | block
  /-- The key or value of a block mapping, which may be a sequence that is not moved in. -/
  | entry
  | flow
deriving DecidableEq, Repr

/-- A text where a node is left out. It may be if there is a name or a tag for it. -/
def readNothing (name tag : Option String) : NodeReader Nat :=
  if name.isSome || tag.isSome then addNamed name (scalarOf tag "" (tag = none)) else unexpected

/-- A sequence whose items are read behind its beginning. -/
def sequenceOf (name tag : Option String) (readItems : NodeReader (List Nat)) : NodeReader Nat := do
  let place ← addNamed name (.sequence (collectionTag tag) [])
  complete place (.sequence (collectionTag tag) (← readItems))

/-- A mapping whose entries are read behind its beginning. -/
def mappingOf (name tag : Option String) (readEntries : NodeReader (List (Nat × Nat))) :
    NodeReader Nat := do
  let place ← addNamed name (.mapping (collectionTag tag) [])
  complete place (.mapping (collectionTag tag) (← readEntries))

mutual

/-- The place of the node at the front; `fuel` bounds the number of its parts. -/
def readNode : Nat → Place → NodeReader Nat
  | 0, _ => unexpected
  | fuel + 1, place => do
    match ← current with
    | .alias name =>
      advance
      match (← draft).anchors.lookup name with
      | some place => pure place
      | none => fail (.unknownAnchor name)
    | _ =>
      let (name, tag) ← readProperties
      checkName name
      readContent fuel place name tag

/-- The content of a node behind its name and tag. -/
def readContent : Nat → Place → Option String → Option String → NodeReader Nat
  | 0, _, _, _ => unexpected
  | fuel + 1, place, name, tag => do
    match ← current with
    | .scalar text isPlain => advance; addNamed name (scalarOf tag text isPlain)
    | .flowSequenceStart => advance; sequenceOf name tag (readFlowItems fuel true)
    | .flowMappingStart => advance; mappingOf name tag (readFlowEntries fuel true)
    | .blockEntry =>
      if place = .entry then sequenceOf name tag (readPlainItems fuel) else readNothing name tag
    | .blockSequenceStart =>
      if place = .flow then readNothing name tag
      else
        advance
        sequenceOf name tag (readBlockItems fuel)
    | .blockMappingStart =>
      if place = .flow then readNothing name tag
      else
        advance
        mappingOf name tag (readBlockEntries fuel)
    | _ => readNothing name tag

/-- The items of a sequence in a block. -/
def readBlockItems : Nat → NodeReader (List Nat)
  | 0 => unexpected
  | fuel + 1 => do
    match ← current with
    | .blockEntry =>
      advance
      let item ←
        if ← isAt [.blockEntry, .blockEnd] then add .empty else readNode fuel .block
      pure (item :: (← readBlockItems fuel))
    | .blockEnd => advance; pure []
    | _ => unexpected

/-- The items of a sequence that is not moved in. -/
def readPlainItems : Nat → NodeReader (List Nat)
  | 0 => unexpected
  | fuel + 1 => do
    match ← current with
    | .blockEntry =>
      advance
      let item ←
        if ← isAt [.blockEntry, .key, .value, .blockEnd] then add .empty
        else readNode fuel .block
      pure (item :: (← readPlainItems fuel))
    | _ => pure []

/-- The entries of a mapping in a block. -/
def readBlockEntries : Nat → NodeReader (List (Nat × Nat))
  | 0 => unexpected
  | fuel + 1 => do
    match ← current with
    | .key =>
      advance
      let key ← readEntryPart fuel
      let value ← readEntryValue fuel
      pure ((key, value) :: (← readBlockEntries fuel))
    | .blockEnd => advance; pure []
    | _ => unexpected

/-- The value of an entry of a block, empty if its mark is missing. -/
def readEntryValue : Nat → NodeReader Nat
  | 0 => unexpected
  | fuel + 1 => do
    match ← current with
    | .value => advance; readEntryPart fuel
    | _ => add .empty

/-- The key or the value of an entry of a block. -/
def readEntryPart : Nat → NodeReader Nat
  | 0 => unexpected
  | fuel + 1 => do
    if ← isAt [.key, .value, .blockEnd] then add .empty else readNode fuel .entry

/-- The items of a sequence in brackets. An entry alone is a mapping of its own. -/
def readFlowItems : Nat → Bool → NodeReader (List Nat)
  | 0, _ => unexpected
  | fuel + 1, isFirst => do
    if ← isAt [.flowSequenceEnd] then advance; pure []
    else
      if !isFirst then
        if ← isAt [.flowEntry] then advance else unexpected
      match ← current with
      | .key =>
        advance
        let key ← readFlowPart fuel [.value, .flowEntry, .flowSequenceEnd]
        let value ← readFlowValue fuel .flowSequenceEnd
        let item ← add (.mapping none [(key, value)])
        pure (item :: (← readFlowItems fuel false))
      | .flowSequenceEnd => advance; pure []
      | _ =>
        let item ← readNode fuel .flow
        pure (item :: (← readFlowItems fuel false))

/-- The entries of a mapping in braces. A key alone has no value. -/
def readFlowEntries : Nat → Bool → NodeReader (List (Nat × Nat))
  | 0, _ => unexpected
  | fuel + 1, isFirst => do
    if ← isAt [.flowMappingEnd] then advance; pure []
    else
      if !isFirst then
        if ← isAt [.flowEntry] then advance else unexpected
      match ← current with
      | .key =>
        advance
        let key ← readFlowPart fuel [.value, .flowEntry, .flowMappingEnd]
        let value ← readFlowValue fuel .flowMappingEnd
        pure ((key, value) :: (← readFlowEntries fuel false))
      | .flowMappingEnd => advance; pure []
      | _ =>
        let key ← readNode fuel .flow
        let value ← add .empty
        pure ((key, value) :: (← readFlowEntries fuel false))

/-- A key or value in brackets, empty in front of some tokens. -/
def readFlowPart : Nat → List Token → NodeReader Nat
  | 0, _ => unexpected
  | fuel + 1, ends => do
    if ← isAt ends then add .empty else readNode fuel .flow

/-- The value of an entry in brackets, empty if its mark is missing. -/
def readFlowValue : Nat → Token → NodeReader Nat
  | 0, _ => unexpected
  | fuel + 1, closing => do
    match ← current with
    | .value => advance; readFlowPart fuel [.flowEntry, closing]
    | _ => add .empty

end

/-! ### Documents -/

section Documents

variable (stop : Option ScanStop)

/-- There are tokens left, unless scanning has stopped here. -/
def checkLeft (tokens : List Token) : Except ScanStop Unit :=
  match tokens, stop with
  | [], some stop => .error stop
  | _, _ => .ok ()

/-- Takes in the directives in front of a document. -/
def readDirectives (hasVersion : Bool) (handles : List (String × String)) :
    List Token → Except ScanStop (List (String × String) × List Token)
  | .versionDirective major _ :: rest =>
    if hasVersion || major ≠ 1 then .error (.problem .directive) else readDirectives true handles rest
  | .tagDirective handle start :: rest =>
    if (handles.lookup handle).isSome then .error (.problem .directive)
    else readDirectives hasVersion ((handle, start) :: handles) rest
  | .otherDirective :: rest => readDirectives hasVersion handles rest
  | rest => do
    checkLeft stop rest
    pure (handles, rest)

/-- A document and the tokens behind it. -/
def readRoot (handles : List (String × String)) (tokens : List Token) :
    Except ScanStop (Document × List Token) :=
  (readNode (3 * tokens.length + 3) .block (tokens, ⟨[], [], handles, stop⟩)).map
    (fun r => (⟨r.2.2.nodes, r.1⟩, r.2.1))

/-- The document of nothing. -/
def Document.empty : Document := ⟨[.empty], 0⟩

/-- The document that starts with a mark, behind its directives. -/
def readMarked (tokens : List Token) : Except ScanStop (Option Document × List Token) := do
  let tokens := tokens.dropWhile (· = .documentEnd)
  if tokens.head? = some .streamEnd then pure (none, tokens)
  else
    let (handles, tokens) ← readDirectives stop false [] tokens
    let handles := handles ++ defaultHandles
    match tokens with
    | .documentStart :: rest =>
      let isEmpty := match rest.head? with
        | some (.versionDirective _ _) => true
        | some (.tagDirective _ _) => true
        | some .otherDirective => true
        | some .documentStart => true
        | some .documentEnd => true
        | some .streamEnd => true
        | _ => false
      if isEmpty then pure (some .empty, rest)
      else
        let (document, rest) ← readRoot stop handles rest
        pure (some document, rest)
    | t :: _ => .error (.problem (.content t.describe))
    | [] => pure (none, [])

/-- What stands behind a document and its end marks is no other document. -/
def checkEnd (tokens : List Token) : Except ScanStop Unit := do
  checkLeft stop tokens
  match tokens with
  | [] => pure ()
  | [.streamEnd] => pure ()
  | tokens =>
    let _ ← readDirectives stop false [] tokens
    .error (.problem .secondDocument)

end Documents

/-- The only document of a text, none if the text is empty. -/
def readDocument (s : Scanned) : Except ScanStop (Option Document) := do
  let startsMarked := match s.tokens.head? with
    | some (.versionDirective _ _) => true
    | some (.tagDirective _ _) => true
    | some .otherDirective => true
    | some .documentStart => true
    | some .streamEnd => true
    | _ => false
  let (document, rest) ←
    if startsMarked then readMarked s.stop s.tokens
    else do
      let (document, rest) ← readRoot s.stop defaultHandles s.tokens
      pure (some document, rest)
  checkEnd s.stop (rest.dropWhile (· = .documentEnd))
  pure document

end LayeredFiles.Yaml
