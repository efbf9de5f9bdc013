import LayeredSchema.Yaml.Token.Scan

/-!
# From tokens to a tree of nodes

A document is a tree of scalars, sequences and mappings, in which an alias stands for a node that
an anchor has named. Nodes without content are empty plain scalars. Anchors are numbered by the
names known when they are read, and an alias refers to the number that its name has at that point.
-/

namespace LayeredSchema.Yaml

/-- What may be written in front of a node. -/
structure NodeProperties where
  anchor : Option Nat := none
  tag : Option Tag := none
  deriving DecidableEq

/-- The nodes of a document. -/
inductive Node where
  | alias (anchor : Nat)
  | scalar (properties : NodeProperties) (style : ScalarStyle) (text : String)
  | sequence (properties : NodeProperties) (items : List Node)
  | mapping (properties : NodeProperties) (entries : List (Node × Node))
  deriving Inhabited

namespace Node

/-- The node of a place without content. -/
def empty : Node := .scalar {} .plain ""

mutual

/-- The number of scalars, aliases, and starts and ends of collections. -/
def weight : Node → Nat
  | .alias _ => 1
  | .scalar .. => 1
  | .sequence _ items => itemsWeight items + 2
  | .mapping _ entries => entriesWeight entries + 2

/-- The weight of the items of a sequence. -/
def itemsWeight : List Node → Nat
  | [] => 0
  | item :: items => item.weight + itemsWeight items

/-- The weight of the entries of a mapping. -/
def entriesWeight : List (Node × Node) → Nat
  | [] => 0
  | (key, value) :: entries => key.weight + value.weight + entriesWeight entries

end

/-- A node with its anchor, if it has one. -/
def anchoredAs (node : Node) : Option Nat → List (Nat × Node)
  | some anchor => [(anchor, node)]
  | none => []

mutual

/-- The anchored nodes of a tree in the order in which they start. -/
def anchored : Node → List (Nat × Node)
  | .alias _ => []
  | .scalar properties style text =>
    anchoredAs (.scalar properties style text) properties.anchor
  | .sequence properties items =>
    anchoredAs (.sequence properties items) properties.anchor ++ itemsAnchored items
  | .mapping properties entries =>
    anchoredAs (.mapping properties entries) properties.anchor ++ entriesAnchored entries

/-- The anchored nodes among the items of a sequence. -/
def itemsAnchored : List Node → List (Nat × Node)
  | [] => []
  | item :: items => item.anchored ++ itemsAnchored items

/-- The anchored nodes among the entries of a mapping. -/
def entriesAnchored : List (Node × Node) → List (Nat × Node)
  | [] => []
  | (key, value) :: entries => key.anchored ++ value.anchored ++ entriesAnchored entries

end

end Node

/-! ## Reading tokens -/

/-- What is left to be read, and the anchors known so far. -/
structure TokenState where
  tokens : List Token
  anchors : List (String × Nat) := []
  /-- The prefixes of tag handles. -/
  handles : List (String × Tag) := []

/-- A reader of tokens, which may refuse them. -/
abbrev TokenReader := StateT TokenState Option

namespace TokenReader

/-- The next token, which stays. -/
def peek : TokenReader (Option Token) := do
  return (← get).tokens.head?

/-- Drops the next token. -/
def skip : TokenReader Unit :=
  modify fun s => { s with tokens := s.tokens.drop 1 }

/-- Refuses the tokens. -/
def fail {α : Type} : TokenReader α :=
  fun _ => none

/-- Gives the number of a new anchor to a name: the number of names known. -/
def bindAnchor (name : String) : TokenReader Nat := do
  let s ← get
  let number := s.anchors.length
  let known := s.anchors.any fun entry => entry.1 = name
  let anchors :=
    if known then s.anchors.map fun entry => if entry.1 = name then (name, number) else entry
    else s.anchors ++ [(name, number)]
  set { s with anchors }
  return number

/-- Expands a tag by the prefix of its handle. -/
def expandTag (handle : String) (suffix : Tag) : TokenReader Tag := do
  if handle = "" then return suffix
  else
    match (← get).handles.lookup handle with
    | some uri => return uri ++ suffix
    | none => fail

/-- Reads an anchor, if one stands here. -/
def takeAnchor? : TokenReader (Option Nat) := do
  match ← peek with
  | some (.anchor name) =>
    skip
    return some (← bindAnchor name)
  | _ => return none

/-- Reads a tag, if one stands here. -/
def takeTag? : TokenReader (Option (String × Tag)) := do
  match ← peek with
  | some (.tag handle suffix) =>
    skip
    return some (handle, suffix)
  | _ => return none

/-- Reads an anchor and a tag in either order, where they stand. -/
def takeProperties : TokenReader NodeProperties := do
  let before ← takeAnchor?
  let written ← takeTag?
  let anchor ← if before.isNone && written.isSome then takeAnchor? else pure before
  let tag ← match written with
    | some (handle, suffix) => some <$> expandTag handle suffix
    | none => pure none
  return { anchor, tag }

/-- Reads a node unless one of the given tokens stands here, which leave its place empty. -/
def nodeUnless (stops : Option Token → Bool) (node : TokenReader Node) : TokenReader Node := do
  if stops (← peek) then return .empty else node

/-! ## Block collections -/

/-- Whether a block node ends in front of a token that belongs to the mapping around it. -/
def endsBlockEntry : Option Token → Bool
  | some .key | some .value | some .blockEnd => true
  | _ => false

/-- Reads the entries of a block sequence up to and including its end. -/
def blockItems (node : TokenReader Node) : Nat → TokenReader (List Node)
  | 0 => fail
  | fuel + 1 => do
    match ← peek with
    | some .blockEntry =>
      skip
      let stops := fun token => token = some Token.blockEntry || token = some .blockEnd
      let item ← nodeUnless stops node
      return item :: (← blockItems node fuel)
    | some .blockEnd =>
      skip
      return []
    | _ => fail

/-- Reads the entries of a sequence that is not indented against the mapping around it. -/
def indentlessItems (node : TokenReader Node) : Nat → TokenReader (List Node)
  | 0 => fail
  | fuel + 1 => do
    match ← peek with
    | some .blockEntry =>
      skip
      let stops := fun token => token = some Token.blockEntry || endsBlockEntry token
      let item ← nodeUnless stops node
      return item :: (← indentlessItems node fuel)
    | _ => return []

/-- Reads the entries of a block mapping up to and including its end. -/
def blockEntries (node : TokenReader Node) : Nat → TokenReader (List (Node × Node))
  | 0 => fail
  | fuel + 1 => do
    match ← peek with
    | some .key =>
      skip
      let key ← nodeUnless endsBlockEntry node
      let value ← match ← peek with
        | some .value =>
          skip
          nodeUnless endsBlockEntry node
        | _ => pure .empty
      return (key, value) :: (← blockEntries node fuel)
    | some .blockEnd =>
      skip
      return []
    | _ => fail

/-! ## Flow collections -/

/-- Reads the value of a pair in a flow collection, which may be missing. -/
def flowValue (close : Token) (node : TokenReader Node) : TokenReader Node := do
  match ← peek with
  | some .value =>
    skip
    nodeUnless (fun token => token = some .flowEntry || token = some close) node
  | _ => return .empty

/-- Reads a comma between the items of a flow collection; in front of the first item there is
none. -/
def separator (first : Bool) : TokenReader Unit := do
  if first then return ()
  else
    match ← peek with
    | some .flowEntry => skip
    | _ => fail

/-- Reads the key of a single pair in a flow sequence. When the key is empty, the token behind its
mark is dropped whatever it is. -/
def pairKey (node : TokenReader Node) : TokenReader Node := do
  match ← peek with
  | some .value | some .flowEntry | some .flowSequenceEnd =>
    skip
    return .empty
  | _ => node

/-- Reads the items of a flow sequence up to and including its end. -/
def flowItems (node : TokenReader Node) : Nat → Bool → TokenReader (List Node)
  | 0, _ => fail
  | fuel + 1, first => do
    if (← peek) = some .flowSequenceEnd then
      skip
      return []
    else
      separator first
      match ← peek with
      | some .key =>
        skip
        let key ← pairKey node
        let value ← flowValue .flowSequenceEnd node
        return .mapping {} [(key, value)] :: (← flowItems node fuel false)
      | some .flowSequenceEnd =>
        skip
        return []
      | _ =>
        let item ← node
        return item :: (← flowItems node fuel false)

/-- Reads the entries of a flow mapping up to and including its end. -/
def flowEntries (node : TokenReader Node) : Nat → Bool → TokenReader (List (Node × Node))
  | 0, _ => fail
  | fuel + 1, first => do
    if (← peek) = some .flowMappingEnd then
      skip
      return []
    else
      separator first
      match ← peek with
      | some .key =>
        skip
        let stops := fun token =>
          token = some Token.value || token = some .flowEntry || token = some .flowMappingEnd
        let key ← nodeUnless stops node
        let value ← flowValue .flowMappingEnd node
        return (key, value) :: (← flowEntries node fuel false)
      | some .flowMappingEnd =>
        skip
        return []
      | _ =>
        let key ← node
        return (key, .empty) :: (← flowEntries node fuel false)

/-! ## Nodes and documents -/

/-- Where a node stands, which decides how it may be written. -/
structure NodePlace where
  /-- Block collections are allowed. -/
  block : Bool
  /-- A sequence need not be indented. -/
  indentless : Bool

/-- Reads a node in a place, with at most `depth` nodes inside one another. -/
def node : Nat → NodePlace → TokenReader Node
  | 0, _ => fail
  | depth + 1, place => do
    let fuel := (← get).tokens.length + 1
    match ← peek with
    | some (.alias name) =>
      match (← get).anchors.lookup name with
      | some anchor =>
        skip
        return .alias anchor
      | none => fail
    | _ =>
      let properties ← takeProperties
      let inBlock := node depth ⟨true, false⟩
      let inMapping := node depth ⟨true, true⟩
      let inFlow := node depth ⟨false, false⟩
      match ← peek, place.block, place.indentless with
      | some .blockEntry, _, true =>
        return .sequence properties (← indentlessItems inBlock fuel)
      | some (.scalar style text), _, _ =>
        skip
        return .scalar properties style text
      | some .flowSequenceStart, _, _ =>
        skip
        return .sequence properties (← flowItems inFlow fuel true)
      | some .flowMappingStart, _, _ =>
        skip
        return .mapping properties (← flowEntries inFlow fuel true)
      | some .blockSequenceStart, true, _ =>
        skip
        return .sequence properties (← blockItems inBlock fuel)
      | some .blockMappingStart, true, _ =>
        skip
        return .mapping properties (← blockEntries inMapping fuel)
      | _, _, _ =>
        if properties = {} then fail else return .scalar properties .plain ""

/-- Whether a token stands in front of a document or behind it. -/
def isDocumentBoundary : Option Token → Bool
  | none | some .documentStart | some .documentEnd | some (.versionDirective ..)
  | some (.tagDirective ..) => true
  | _ => false

/-- The handles that need no directive. -/
def defaultHandles : List (String × Tag) :=
  [("!", Tag.loneMark), ("!!", Tag.standardPrefix)]

/-- Reads the directives of a document: at most one version, of which two are known, and no handle
twice. Behind them the handles of the document are known. -/
def directives : Nat → Bool → List (String × Tag) → TokenReader Unit
  | 0, _, _ => fail
  | fuel + 1, versionSeen, handles => do
    match ← peek with
    | some (.versionDirective major minor) =>
      if versionSeen || major ≠ 1 || (minor ≠ 1 && minor ≠ 2) then fail
      else
        skip
        directives fuel true handles
    | some (.tagDirective handle uri) =>
      if (handles.lookup handle).isSome then fail
      else
        skip
        directives fuel versionSeen (handles ++ [(handle, uri)])
    | _ => modify fun s => { s with handles := handles ++ defaultHandles }

/-- Reads the content of a document. -/
def content : TokenReader Node := do
  let depth := (← get).tokens.length + 1
  nodeUnless isDocumentBoundary (node depth ⟨true, false⟩)

/-- Drops markers of document ends. -/
def skipDocumentEnds : TokenReader Unit :=
  modify fun s => { s with tokens := s.tokens.dropWhile (· = .documentEnd) }

/-- Reads the stream of a single document, and its root unless the stream is empty. The first
document may lack a marker in front; no second one may follow. -/
def document : TokenReader (Option Node) := do
  match ← peek with
  | none => return none
  | first =>
    let explicit := match first with
      | some .documentStart | some (.versionDirective ..) | some (.tagDirective ..) => true
      | _ => false
    directives ((← get).tokens.length + 1) false []
    let root ←
      if explicit then
        match ← peek with
        | some .documentStart =>
          skip
          content
        | _ => fail
      else node ((← get).tokens.length + 1) ⟨true, false⟩
    skipDocumentEnds
    match ← peek with
    | none => return some root
    | some _ => fail

end TokenReader

/-- The root of the only document of a text, or nothing if the text is empty. -/
def readDocument (text : String) : Option (Option Node) := do
  let tokens ← tokens text
  let (root, _) ← TokenReader.document.run { tokens }
  some root

end LayeredSchema.Yaml
