import LayeredSchema.Proofs.Yaml.Tokens
import LayeredSchema.Yaml.Node

/-!
# From the tokens of a value to its nodes

The reader of nodes takes the tokens of a value from the front and gives the node of the value,
`TokenReader.takesNode_of_plain`; the items of a sequence below a key have no marks and end in front
of what is no item, `TokenReader.indentlessItems_items`. The text of a plain value therefore holds
one document, `readDocument_text`.
-/

namespace LayeredSchema.Yaml

/-! ## The nodes of a value -/

mutual

/-- The node of a value. -/
def nodeOf : Value → Node
  | .array items => .sequence {} (itemNodes items)
  | .object members => .mapping {} (memberNodes members)
  | .string s => .scalar {} (styleOf s) s
  | v => .scalar {} .plain (String.ofList (writeScalar 0 v))

/-- The nodes of the items of a sequence. -/
def itemNodes : List Value → List Node
  | [] => []
  | v :: vs => nodeOf v :: itemNodes vs

/-- The nodes of the members of a mapping. -/
def memberNodes : List (String × Value) → List (Node × Node)
  | [] => []
  | (key, v) :: ms => (.scalar {} (styleOf key) key, nodeOf v) :: memberNodes ms

end

/-! ## Tokens that start a node -/

/-- A token that a node without an anchor, a tag or an alias starts with. -/
inductive StartsNode : Token → Prop where
  | scalar (style : ScalarStyle) (text : String) : StartsNode (.scalar style text)
  | flowSequence : StartsNode .flowSequenceStart
  | flowMapping : StartsNode .flowMappingStart
  | blockSequence : StartsNode .blockSequenceStart
  | blockMapping : StartsNode .blockMappingStart

/-- A value without a block has tokens, and the first one starts a node. -/
theorem flatTokens_eq_cons (v : Value) : ∃ token more, flatTokens v = token :: more ∧
    StartsNode token := by
  unfold flatTokens
  split
  · exact ⟨_, _, rfl, .flowSequence⟩
  · exact ⟨_, _, rfl, .flowMapping⟩
  · exact ⟨_, _, rfl, .scalar _ _⟩
  · exact ⟨_, _, rfl, .scalar _ _⟩

/-- Every value has tokens, and the first one starts a node. -/
theorem nodeTokens_eq_cons (v : Value) : ∃ token more, nodeTokens v = token :: more ∧
    StartsNode token := by
  rcases opener?_eq v with hv | hv | hv
  · rw [nodeTokens_of_flat hv]
    exact flatTokens_eq_cons v
  · rw [nodeTokens_of_opener hv]
    exact ⟨_, _, rfl, .blockSequence⟩
  · rw [nodeTokens_of_opener hv]
    exact ⟨_, _, rfl, .blockMapping⟩

/-- So does the value of a member, unless it is a sequence at the column of its mapping, which
starts with its first entry. -/
theorem memberValue_eq_cons (key : String) (v : Value) : ∃ token more,
    memberValue key v (entryTokens v) = token :: more ∧
      (StartsNode token ∨ token = .blockEntry) := by
  unfold memberValue
  split
  · next h =>
    obtain ⟨-, hv⟩ := h
    unfold opener? at hv
    split at hv
    · exact ⟨_, _, rfl, .inr rfl⟩
    · cases hv
    · cases hv
  · obtain ⟨token, more, htokens, hstart⟩ := nodeTokens_eq_cons v
    exact ⟨token, more, htokens, .inl hstart⟩

/-- Each item is the mark of an entry and the tokens of its value. -/
theorem itemTokens_cons (v : Value) (vs : List Value) :
    itemTokens (v :: vs) = .blockEntry :: (nodeTokens v ++ itemTokens vs) := by
  rw [itemTokens, nodeTokens]

/-! ## Lengths -/

/-- No value is without tokens. -/
theorem length_nodeTokens_pos (v : Value) : 0 < (nodeTokens v).length := by
  obtain ⟨token, more, htokens, -⟩ := nodeTokens_eq_cons v
  rw [htokens]
  exact Nat.succ_pos _

/-- An item has fewer tokens than the sequence, so the depth that is enough for the sequence leaves
enough for the item. -/
theorem length_lt_of_mem_items {vs : List Value} {v : Value} (h : v ∈ vs) :
    (nodeTokens v).length < (itemTokens vs).length := by
  induction vs with
  | nil => cases h
  | cons w vs ih =>
    rw [itemTokens_cons, List.length_cons, List.length_append]
    rcases List.mem_cons.mp h with rfl | h
    · omega
    · have hless := ih h
      omega

/-- A sequence has at least as many tokens as items, so counting tokens bounds the loop over the
items. -/
theorem length_le_length_itemTokens (vs : List Value) : vs.length ≤ (itemTokens vs).length := by
  induction vs with
  | nil => exact Nat.le_refl 0
  | cons v vs ih =>
    rw [itemTokens, List.length_cons, List.length_cons, List.length_append]
    omega

/-- As the value of a member, a value has at most two tokens less: those of a block sequence around
its items. -/
theorem length_nodeTokens_le (key : String) (v : Value) :
    (nodeTokens v).length ≤ (memberValue key v (entryTokens v)).length + 2 := by
  unfold memberValue
  split
  · next h =>
    rw [nodeTokens_of_opener h.2, List.length_cons, List.length_append, List.length_singleton]
  · exact Nat.le_add_right _ 2

/-- The value of a member has fewer tokens than the mapping. -/
theorem length_lt_of_mem_members {ms : List (String × Value)} {m : String × Value} (h : m ∈ ms) :
    (nodeTokens m.2).length < (memberTokens ms).length := by
  induction ms with
  | nil => cases h
  | cons n ms ih =>
    have hkey : (keyTokens n.1).length = 3 := rfl
    rw [memberTokens, List.length_append, List.length_append, hkey]
    rcases List.mem_cons.mp h with rfl | h
    · have hle := length_nodeTokens_le m.1 m.2
      omega
    · have hless := ih h
      omega

/-- A mapping has at least as many tokens as members. -/
theorem length_le_length_memberTokens (ms : List (String × Value)) :
    ms.length ≤ (memberTokens ms).length := by
  induction ms with
  | nil => exact Nat.le_refl 0
  | cons m ms ih =>
    have hkey : (keyTokens m.1).length = 3 := rfl
    rw [memberTokens, List.length_cons, List.length_append, List.length_append, hkey]
    omega

namespace TokenReader

/-! ## Readers -/

/-- A reader takes some tokens from the front, whatever the anchors and handles. -/
def Takes {α : Type} (reader : TokenReader α) (tokens rest : List Token) (result : α) : Prop :=
  ∀ anchors handles,
    reader ⟨tokens ++ rest, anchors, handles⟩ = some (result, ⟨rest, anchors, handles⟩)

/-- What starts a node stops no entry, so the node is read. -/
theorem nodeUnless_of_not {stops : Option Token → Bool} {reader : TokenReader Node}
    {s : TokenState} (h : stops s.tokens.head? = false) : nodeUnless stops reader s = reader s := by
  show (if stops s.tokens.head? then pure Node.empty else reader) s = _
  rw [h]
  rfl

/-- A scalar without properties is a node of one token. -/
theorem node_scalar (depth : Nat) (place : NodePlace) (style : ScalarStyle) (text : String)
    (rest : List Token) :
    Takes (node (depth + 1) place) [.scalar style text] rest (.scalar {} style text) :=
  fun _ _ => rfl

/-- The empty sequence is written in flow style, as two tokens. -/
theorem node_flowSequence (depth : Nat) (place : NodePlace) (rest : List Token) :
    Takes (node (depth + 1) place) [.flowSequenceStart, .flowSequenceEnd] rest (.sequence {} []) :=
  fun _ _ => rfl

/-- So is the empty mapping. -/
theorem node_flowMapping (depth : Nat) (place : NodePlace) (rest : List Token) :
    Takes (node (depth + 1) place) [.flowMappingStart, .flowMappingEnd] rest (.mapping {} []) :=
  fun _ _ => rfl

/-- A value without a block is read as its node at any place. -/
theorem node_flat {v : Value} (hv : opener? v = none) (depth : Nat) (place : NodePlace)
    (rest : List Token) : Takes (node (depth + 1) place) (flatTokens v) rest (nodeOf v) := by
  cases v with
  | array items =>
    cases items with
    | nil => exact node_flowSequence depth place rest
    | cons v vs => cases hv
  | object members =>
    cases members with
    | nil => exact node_flowMapping depth place rest
    | cons m ms => cases hv
  | null => exact node_scalar depth place _ _ rest
  | bool b => exact node_scalar depth place _ _ rest
  | int n => exact node_scalar depth place _ _ rest
  | float x => exact node_scalar depth place _ _ rest
  | string s => exact node_scalar depth place _ _ rest

/-! ## Entries -/

section

variable {reader : TokenReader Node} {rest : List Token}

/-- A node is not left out if its first token is none that leaves it out. -/
theorem takes_nodeUnless {stops : Option Token → Bool} {token : Token} {tokens more : List Token}
    {result : Node} (h : Takes reader tokens rest result) (htokens : tokens = token :: more)
    (hstops : stops (some token) = false) : Takes (nodeUnless stops reader) tokens rest result := by
  subst htokens
  intro anchors handles
  rw [nodeUnless_of_not hstops]
  exact h anchors handles

/-! ## Items -/

/-- Where an item of a sequence is left out. -/
def stopsItem (token : Option Token) : Bool :=
  token = some .blockEntry || token = some .blockEnd

/-- One entry of a block sequence, and what follows it. -/
theorem blockItems_entry (fuel : Nat) (tokens : List Token) (anchors : List (String × Nat))
    (handles : List (String × Tag)) :
    blockItems reader (fuel + 1) ⟨.blockEntry :: tokens, anchors, handles⟩
      = (nodeUnless stopsItem reader ⟨tokens, anchors, handles⟩).bind fun item =>
        (blockItems reader fuel item.2).bind fun items => some (item.1 :: items.1, items.2) := rfl

/-- The items of a sequence are read up to and including its end. -/
theorem blockItems_items {vs : List Value}
    (h : ∀ v ∈ vs, ∀ rest, Takes reader (nodeTokens v) rest (nodeOf v)) {fuel : Nat}
    (hfuel : vs.length ≤ fuel) :
    Takes (blockItems reader (fuel + 1)) (itemTokens vs ++ [.blockEnd]) rest (itemNodes vs) := by
  induction vs generalizing fuel with
  | nil => exact fun _ _ => rfl
  | cons v vs ih =>
    obtain ⟨hv, hvs⟩ := List.forall_mem_cons.mp h
    obtain ⟨fuel, rfl⟩ := Nat.exists_eq_succ_of_ne_zero (Nat.ne_of_gt (Nat.zero_lt_of_lt hfuel))
    obtain ⟨token, more, hfirst, hstart⟩ := nodeTokens_eq_cons v
    have hstops : stopsItem (some token) = false := by cases hstart <;> rfl
    have hitem := takes_nodeUnless (hv (itemTokens vs ++ [.blockEnd] ++ rest)) hfirst hstops
    have htokens : itemTokens (v :: vs) ++ [.blockEnd] ++ rest
        = .blockEntry :: (nodeTokens v ++ (itemTokens vs ++ [.blockEnd] ++ rest)) := by
      rw [itemTokens_cons]
      simp
    intro anchors handles
    rw [htokens, blockItems_entry, hitem anchors handles, Option.bind_some,
      ih hvs (Nat.le_of_succ_le_succ hfuel) anchors handles]
    rfl

/-- Where an item of a sequence below a key is left out. -/
def stopsIndentlessItem (token : Option Token) : Bool :=
  token = some .blockEntry || endsBlockEntry token

/-- One entry of a sequence at the column of its mapping, and what follows it. -/
theorem indentlessItems_entry (fuel : Nat) (tokens : List Token) (anchors : List (String × Nat))
    (handles : List (String × Tag)) :
    indentlessItems reader (fuel + 1) ⟨.blockEntry :: tokens, anchors, handles⟩
      = (nodeUnless stopsIndentlessItem reader ⟨tokens, anchors, handles⟩).bind fun item =>
        (indentlessItems reader fuel item.2).bind fun items =>
          some (item.1 :: items.1, items.2) := rfl

/-- Such a sequence has no token for its end: it ends where no entry follows. -/
theorem indentlessItems_nil (fuel : Nat) (h : rest.head? ≠ some .blockEntry) :
    Takes (indentlessItems reader (fuel + 1)) [] rest [] := by
  intro anchors handles
  cases rest with
  | nil => rfl
  | cons token rest =>
    cases token with
    | blockEntry => exact absurd rfl h
    | _ => rfl

/-- The items of a sequence below a key are read up to what is no item. -/
theorem indentlessItems_items {vs : List Value}
    (h : ∀ v ∈ vs, ∀ rest, Takes reader (nodeTokens v) rest (nodeOf v))
    (hrest : rest.head? ≠ some .blockEntry) {fuel : Nat} (hfuel : vs.length ≤ fuel) :
    Takes (indentlessItems reader (fuel + 1)) (itemTokens vs) rest (itemNodes vs) := by
  induction vs generalizing fuel with
  | nil => exact indentlessItems_nil fuel hrest
  | cons v vs ih =>
    obtain ⟨hv, hvs⟩ := List.forall_mem_cons.mp h
    obtain ⟨fuel, rfl⟩ := Nat.exists_eq_succ_of_ne_zero (Nat.ne_of_gt (Nat.zero_lt_of_lt hfuel))
    obtain ⟨token, more, hfirst, hstart⟩ := nodeTokens_eq_cons v
    have hstops : stopsIndentlessItem (some token) = false := by cases hstart <;> rfl
    have hitem := takes_nodeUnless (hv (itemTokens vs ++ rest)) hfirst hstops
    have htokens : itemTokens (v :: vs) ++ rest
        = .blockEntry :: (nodeTokens v ++ (itemTokens vs ++ rest)) := by
      rw [itemTokens_cons]
      simp
    intro anchors handles
    rw [htokens, indentlessItems_entry, hitem anchors handles, Option.bind_some,
      ih hvs (Nat.le_of_succ_le_succ hfuel) anchors handles]
    rfl

/-! ## Members -/

/-- Reads what stands behind the key of a member. -/
def memberRest (reader : TokenReader Node) (fuel : Nat) (key : Node) :
    TokenReader (List (Node × Node)) := do
  let value ← match ← peek with
    | some .value =>
      skip
      nodeUnless endsBlockEntry reader
    | _ => pure .empty
  return (key, value) :: (← blockEntries reader fuel)

/-- The key of a block mapping's entry; its value comes next. -/
theorem blockEntries_entry (fuel : Nat) (tokens : List Token) (anchors : List (String × Nat))
    (handles : List (String × Tag)) :
    blockEntries reader (fuel + 1) ⟨.key :: tokens, anchors, handles⟩
      = (nodeUnless endsBlockEntry reader ⟨tokens, anchors, handles⟩).bind fun key =>
        memberRest reader fuel key.1 key.2 := rfl

/-- The value of an entry whose key has been read, and what follows it. -/
theorem memberRest_value (fuel : Nat) (key : Node) (tokens : List Token)
    (anchors : List (String × Nat)) (handles : List (String × Tag)) :
    memberRest reader fuel key ⟨.value :: tokens, anchors, handles⟩
      = (nodeUnless endsBlockEntry reader ⟨tokens, anchors, handles⟩).bind fun value =>
        (blockEntries reader fuel value.2).bind fun entries =>
          some ((key, value.1) :: entries.1, entries.2) := rfl

/-- The members of a mapping are read up to and including its end. -/
theorem blockEntries_members {ms : List (String × Value)}
    (hkeys : ∀ style text rest, Takes reader [.scalar style text] rest (.scalar {} style text))
    (h : ∀ m ∈ ms, ∀ rest, rest.head? ≠ some .blockEntry →
      Takes reader (memberValue m.1 m.2 (entryTokens m.2)) rest (nodeOf m.2))
    {fuel : Nat} (hfuel : ms.length ≤ fuel) :
    Takes (blockEntries reader (fuel + 1)) (memberTokens ms ++ [.blockEnd]) rest
      (memberNodes ms) := by
  induction ms generalizing fuel with
  | nil => exact fun _ _ => rfl
  | cons m ms ih =>
    obtain ⟨hm, hms⟩ := List.forall_mem_cons.mp h
    obtain ⟨fuel, rfl⟩ := Nat.exists_eq_succ_of_ne_zero (Nat.ne_of_gt (Nat.zero_lt_of_lt hfuel))
    obtain ⟨token, more, hfirst, hstart⟩ := memberValue_eq_cons m.1 m.2
    have hstops : endsBlockEntry (some token) = false := by
      rcases hstart with hstart | rfl
      · cases hstart <;> rfl
      · rfl
    -- the items of a sequence below this key end in front of the next key
    have hnext : (memberTokens ms ++ [Token.blockEnd] ++ rest).head? ≠ some .blockEntry := by
      cases ms with
      | nil => simp [memberTokens]
      | cons m ms => simp [memberTokens, keyTokens]
    have hstops' : endsBlockEntry (some (.scalar (styleOf m.1) m.1)) = false := rfl
    have hkey := takes_nodeUnless (hkeys (styleOf m.1) m.1
      (.value :: (memberValue m.1 m.2 (entryTokens m.2)
        ++ (memberTokens ms ++ [.blockEnd] ++ rest)))) rfl hstops'
    have hvalue := takes_nodeUnless (hm _ hnext) hfirst hstops
    have htokens : memberTokens (m :: ms) ++ [.blockEnd] ++ rest
        = .key :: ([.scalar (styleOf m.1) m.1] ++ (.value :: (memberValue m.1 m.2 (entryTokens m.2)
          ++ (memberTokens ms ++ [.blockEnd] ++ rest)))) := by
      rw [memberTokens, keyTokens]
      simp
    intro anchors handles
    rw [htokens, blockEntries_entry, hkey anchors handles, Option.bind_some, memberRest_value,
      hvalue anchors handles, Option.bind_some,
      ih hms (Nat.le_of_succ_le_succ hfuel) anchors handles]
    rfl

end

/-! ## Nodes -/

section

variable {depth : Nat} {place : NodePlace} {v : Value}

/-- A block sequence is read by the loop over its entries, with one level less for each of them. -/
theorem node_blockSequence (hplace : place.block = true) (tokens : List Token)
    (anchors : List (String × Nat)) (handles : List (String × Tag)) :
    node (depth + 1) place ⟨.blockSequenceStart :: tokens, anchors, handles⟩
      = (blockItems (node depth ⟨true, false⟩) (tokens.length + 1 + 1)
          ⟨tokens, anchors, handles⟩).bind fun items =>
        some (.sequence {} items.1, items.2) := by
  obtain ⟨block, indentless⟩ := place
  obtain rfl : block = true := hplace
  rfl

/-- A block mapping is read by the loop over its members. -/
theorem node_blockMapping (hplace : place.block = true) (tokens : List Token)
    (anchors : List (String × Nat)) (handles : List (String × Tag)) :
    node (depth + 1) place ⟨.blockMappingStart :: tokens, anchors, handles⟩
      = (blockEntries (node depth ⟨true, true⟩) (tokens.length + 1 + 1)
          ⟨tokens, anchors, handles⟩).bind fun entries =>
        some (.mapping {} entries.1, entries.2) := by
  obtain ⟨block, indentless⟩ := place
  obtain rfl : block = true := hplace
  rfl

/-- Where a member's value may stand, an entry opens a sequence without a token for its start. -/
theorem node_indentless (tokens : List Token) (anchors : List (String × Nat))
    (handles : List (String × Tag)) :
    node (depth + 1) ⟨true, true⟩ ⟨.blockEntry :: tokens, anchors, handles⟩
      = (indentlessItems (node depth ⟨true, false⟩) (tokens.length + 1 + 1)
          ⟨.blockEntry :: tokens, anchors, handles⟩).bind fun items =>
        some (.sequence {} items.1, items.2) := rfl

/-- The tokens of a value are read as its node, and so are the items of a sequence without their
marks. -/
structure TakesNode (depth : Nat) (v : Value) : Prop where
  node : ∀ place : NodePlace, place.block = true → ∀ rest,
    Takes (node depth place) (nodeTokens v) rest (nodeOf v)
  indentless : opener? v = some .blockSequenceStart → ∀ rest, rest.head? ≠ some .blockEntry →
    Takes (TokenReader.node depth ⟨true, true⟩) (entryTokens v) rest (nodeOf v)

/-- A value that is read as a node is read as the value of a member too, unless an entry follows
that would be taken for one of its items. -/
theorem TakesNode.memberValue (h : TakesNode depth v) (key : String) {rest : List Token}
    (hrest : rest.head? ≠ some .blockEntry) :
    Takes (TokenReader.node depth ⟨true, true⟩) (memberValue key v (entryTokens v)) rest
      (nodeOf v) := by
  unfold Yaml.memberValue
  split
  · next hv => exact h.indentless hv.2 rest hrest
  · exact h.node _ rfl rest

/-- A value without a block is read at any depth that its tokens allow for. -/
theorem takesNode_flat (hv : opener? v = none) (hdepth : (nodeTokens v).length ≤ depth) :
    TakesNode depth v := by
  have hpos := length_nodeTokens_pos v
  obtain ⟨depth, rfl⟩ := Nat.exists_eq_succ_of_ne_zero (by omega : depth ≠ 0)
  constructor
  · intro place _ rest
    rw [nodeTokens_of_flat hv]
    exact node_flat hv depth place rest
  · intro hopener
    rw [hv] at hopener
    cases hopener

/-- A sequence is read if each of its items is, one level deeper. -/
theorem takesNode_array {vs : List Value} (h : ∀ w ∈ v :: vs, TakesNode depth w) :
    TakesNode (depth + 1) (.array (v :: vs)) := by
  have hitems : ∀ w ∈ v :: vs, ∀ rest,
      Takes (node depth ⟨true, false⟩) (nodeTokens w) rest (nodeOf w) :=
    fun w hw rest => (h w hw).node _ rfl rest
  have hlength := length_le_length_itemTokens (v :: vs)
  have hentries : entryTokens (.array (v :: vs)) = itemTokens (v :: vs) := by rw [entryTokens]
  have hnode : nodeOf (.array (v :: vs)) = .sequence {} (itemNodes (v :: vs)) := by rw [nodeOf]
  constructor
  · -- in a block of its own
    intro place hplace rest anchors handles
    have hfuel : (v :: vs).length
        ≤ (itemTokens (v :: vs) ++ [Token.blockEnd] ++ rest).length + 1 := by
      simp only [List.length_append]
      omega
    rw [nodeTokens_of_opener rfl, hentries, List.cons_append, node_blockSequence hplace,
      blockItems_items hitems hfuel anchors handles, hnode]
    rfl
  · -- in the column of its key
    intro _ rest hrest anchors handles
    have hfirst : itemTokens (v :: vs) ++ rest
        = .blockEntry :: (nodeTokens v ++ itemTokens vs ++ rest) := by
      rw [itemTokens_cons, List.cons_append]
    have hfuel : (v :: vs).length ≤ (nodeTokens v ++ itemTokens vs ++ rest).length + 1 := by
      simp only [itemTokens_cons, List.length_cons, List.length_append] at hlength ⊢
      omega
    have htaken := indentlessItems_items hitems hrest hfuel anchors handles
    rw [hfirst] at htaken
    rw [hentries, hfirst, node_indentless, htaken, hnode]
    rfl

/-- A mapping is read if each of its members' values is, one level deeper. -/
theorem takesNode_object {m : String × Value} {ms : List (String × Value)}
    (h : ∀ n ∈ m :: ms, TakesNode (depth + 1) n.2) :
    TakesNode (depth + 1 + 1) (.object (m :: ms)) := by
  have hkeys : ∀ style text rest, Takes (node (depth + 1) ⟨true, true⟩) [.scalar style text] rest
      (.scalar {} style text) := node_scalar depth _
  have hvalues : ∀ n ∈ m :: ms, ∀ rest, rest.head? ≠ some .blockEntry →
      Takes (node (depth + 1) ⟨true, true⟩) (memberValue n.1 n.2 (entryTokens n.2)) rest
        (nodeOf n.2) := fun n hn _ hrest => (h n hn).memberValue n.1 hrest
  have hlength := length_le_length_memberTokens (m :: ms)
  have hentries : entryTokens (.object (m :: ms)) = memberTokens (m :: ms) := by rw [entryTokens]
  have hnode : nodeOf (.object (m :: ms)) = .mapping {} (memberNodes (m :: ms)) := by rw [nodeOf]
  constructor
  · intro place hplace rest anchors handles
    have hfuel : (m :: ms).length
        ≤ (memberTokens (m :: ms) ++ [Token.blockEnd] ++ rest).length + 1 := by
      simp only [List.length_append]
      omega
    rw [nodeTokens_of_opener rfl, hentries, List.cons_append, node_blockMapping hplace,
      blockEntries_members hkeys hvalues hfuel anchors handles, hnode]
    rfl
  · nofun

/-- The tokens of a plain value are read as its node if there are no more tokens than levels. -/
theorem takesNode_of_plain {d : Nat} (h : v.Plain d) (hdepth : (nodeTokens v).length ≤ depth) :
    TakesNode depth v := by
  induction h generalizing depth with
  | null => exact takesNode_flat rfl hdepth
  | bool b => exact takesNode_flat rfl hdepth
  | int _ _ => exact takesNode_flat rfl hdepth
  | string s => exact takesNode_flat rfl hdepth
  | @array _ items _ ih =>
    -- each item has fewer tokens than the sequence, so the depth is enough for it
    cases items with
    | nil => exact takesNode_flat rfl hdepth
    | cons v vs =>
      rw [nodeTokens_of_opener rfl, entryTokens, List.length_cons, List.length_append] at hdepth
      obtain ⟨depth, rfl⟩ := Nat.exists_eq_succ_of_ne_zero (by omega : depth ≠ 0)
      refine takesNode_array fun w hw => ih w hw ?_
      have hless := length_lt_of_mem_items hw
      omega
  | @object _ members _ _ ih =>
    cases members with
    | nil => exact takesNode_flat rfl hdepth
    | cons m ms =>
      rw [nodeTokens_of_opener rfl, entryTokens, List.length_cons, List.length_append] at hdepth
      obtain ⟨depth, rfl⟩ := Nat.exists_eq_add_of_le' (by
        simp at hdepth
        omega : 2 ≤ depth)
      refine takesNode_object fun n hn => ih n hn ?_
      have hless := length_lt_of_mem_members hn
      omega

end

/-! ## Documents -/

/-- Reads what stands behind the root of a document. -/
def documentRest (root : Node) : TokenReader (Option Node) := do
  skipDocumentEnds
  match ← peek with
  | none => return some root
  | some _ => fail

/-- A document that starts with a node has no directives in front of it. -/
theorem document_of_startsNode {token : Token} (h : StartsNode token) (more : List Token) :
    document ⟨token :: more, [], []⟩
      = (node ((token :: more).length + 1) ⟨true, false⟩
          ⟨token :: more, [], defaultHandles⟩).bind fun root =>
        documentRest root.1 root.2 := by
  cases h <;> rfl

end TokenReader

/-- The document of the text of a plain value is its node. -/
theorem readDocument_text {depth : Nat} {v : Value} (h : v.Plain depth) :
    readDocument (text v) = some (some (nodeOf v)) := by
  obtain ⟨token, more, htokens, hstart⟩ := nodeTokens_eq_cons v
  have hnode := (TokenReader.takesNode_of_plain h (Nat.le_succ _)).node ⟨true, false⟩ rfl [] []
    TokenReader.defaultHandles
  rw [htokens, List.append_nil] at hnode
  have hdocument : TokenReader.document.run { tokens := token :: more }
      = some (some (nodeOf v), ⟨[], [], TokenReader.defaultHandles⟩) := by
    show TokenReader.document ⟨token :: more, [], []⟩ = _
    rw [TokenReader.document_of_startsNode hstart, hnode]
    rfl
  unfold readDocument
  rw [tokens_text h, htokens]
  simp [hdocument]

end LayeredSchema.Yaml
