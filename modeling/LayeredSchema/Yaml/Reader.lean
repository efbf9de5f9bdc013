import LayeredSchema.Yaml.Node
import LayeredSchema.Yaml.Resolution

/-!
# Reading YAML text

A document becomes a value when its scalars are resolved and its aliases are replaced by what they
stand for. Tags of the standard types decide how a scalar is resolved, other global tags make it a
string, and local tags are refused except in front of keys. Keys are texts.
-/

namespace LayeredSchema.Yaml

/-! ## Tags -/

/-- The integer that a text with an integer tag denotes. -/
def taggedInteger? (text : String) : Option Value :=
  (integer? text.toList).bind fun n => if IntegerRange.of n = .held then some (.int n) else none

/-- The value of a scalar without a tag. -/
def untaggedValue? (style : ScalarStyle) (text : String) : Option Value :=
  if style = .plain then
    match resolve text with
    | .value v => some v
    | .unholdable => none
  else some (.string text)

/-- The value of a scalar with its tag and style. A local tag that is no text counts as none. -/
def scalarValue? (tag : Option Tag) (style : ScalarStyle) (text : String) : Option Value :=
  match tag with
  | none => untaggedValue? style text
  | some tag =>
    if tag.localName?.isSome then none
    else if tag.startsLocally then untaggedValue? style text
    else if tag = .standard "bool" then (boolWord? text).map .bool
    else if tag = .standard "int" then taggedInteger? text
    else if tag = .standard "float" then (float? text.toList).map FloatText.value
    else if tag = .standard "null" then if isNullWord text then some .null else none
    else some (.string text)

/-- Whether a collection may have a tag: any but a local one. -/
def acceptsCollectionTag (tag : Option Tag) : Bool :=
  !(tag.any fun tag => tag.localName?.isSome)

/-! ## Aliases -/

/-- The nodes that aliases of a document can stand for, and how often they may be followed. -/
structure AliasTable where
  nodes : List (Nat × Node)
  greatestJumps : Nat

/-- The table of a document. Of nodes with the same number the last one to start counts. -/
def AliasTable.ofRoot (root : Node) : AliasTable :=
  ⟨root.anchored.reverse, 100 * root.weight⟩

/-- Follows an alias, given the number of aliases followed so far. -/
def AliasTable.follow (table : AliasTable) (anchor jumps : Nat) : Option (Node × Nat) :=
  if jumps + 1 ≤ table.greatestJumps then
    (table.nodes.lookup anchor).map (·, jumps + 1)
  else none

/-! ## Values -/

/-- A reader of nodes that counts the aliases it follows. -/
abbrev NodeReader := StateT Nat Option

/-- The node itself, or the node that it stands for. -/
def followed (table : AliasTable) (node : Node) : NodeReader Node :=
  match node with
  | .alias anchor => fun jumps => table.follow anchor jumps
  | node => pure node

/-- The text of a key: a scalar, whatever its tag and style. -/
def keyText (table : AliasTable) (node : Node) : NodeReader String := do
  match ← followed table node with
  | .scalar _ _ text => return text
  | _ => fun _ => none

/-- The value of a node, with at most `depth` collections inside one another. -/
def nodeValue (table : AliasTable) : Nat → Node → NodeReader Value
  | depth, node => do
    match ← followed table node, depth with
    | .scalar properties style text, _ => fun jumps =>
      (scalarValue? properties.tag style text).map (·, jumps)
    | .sequence properties items, depth + 1 =>
      if acceptsCollectionTag properties.tag then
        return .array (← items.mapM (nodeValue table depth))
      else fun _ => none
    | .mapping properties entries, depth + 1 =>
      if acceptsCollectionTag properties.tag then
        let members ← entries.mapM fun entry => do
          let key ← keyText table entry.1
          return (key, ← nodeValue table depth entry.2)
        return .object (insertEntries [] members)
      else fun _ => none
    | _, _ => fun _ => none

/-- The greatest number of collections inside one another that is read. -/
def greatestDepth : Nat := 128

/-- The value of a YAML text, which holds one document or none. -/
def read (text : String) : Option Value := do
  match ← readDocument text with
  | none => some .null
  | some root =>
    let (v, _) ← nodeValue (AliasTable.ofRoot root) greatestDepth root 0
    some v

end LayeredSchema.Yaml
