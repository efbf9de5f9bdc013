import LayeredSchema.Proofs.Document.OrderedMap
import LayeredSchema.Proofs.Yaml.Nodes
import LayeredSchema.Schema.Loader

/-!
# YAML text is read back

The node of a plain value stands for the value, `nodeValue_nodeOf`: its scalars are resolved to what
they were and its keys are distinct. With the modules before it this gives the round trip,
`read_text`, and `OutputFormat.yaml_read_back` for the files that hold such a text.
-/

namespace LayeredSchema.Yaml

variable {table : AliasTable} {depth : Nat}

/-! ## Single nodes -/

theorem nodeValue_scalar {style : ScalarStyle} {text : String} {v : Value}
    (h : untaggedValue? style text = some v) (jumps : Nat) :
    nodeValue table depth (.scalar {} style text) jumps = some (v, jumps) := by
  have hvalue : nodeValue table depth (.scalar {} style text) jumps
      = (untaggedValue? style text).map (·, jumps) := by
    cases depth <;> (delta nodeValue; rfl)
  rw [hvalue, h]
  rfl

theorem nodeValue_sequence (items : List Node) (jumps : Nat) :
    nodeValue table (depth + 1) (.sequence {} items) jumps
      = (items.mapM (nodeValue table depth) jumps).bind fun values =>
        some (.array values.1, values.2) := by
  delta nodeValue
  rfl

/-- Reads a member. -/
def memberValueOf (table : AliasTable) (depth : Nat) (entry : Node × Node) :
    NodeReader (String × Value) := do
  let key ← keyText table entry.1
  return (key, ← nodeValue table depth entry.2)

theorem nodeValue_mapping (entries : List (Node × Node)) (jumps : Nat) :
    nodeValue table (depth + 1) (.mapping {} entries) jumps
      = (entries.mapM (memberValueOf table depth) jumps).bind fun members =>
        some (.object (insertEntries [] members.1), members.2) := by
  delta memberValueOf nodeValue
  rfl

/-- A member with a scalar for its key. -/
theorem memberValueOf_scalar {style : ScalarStyle} {key : String} {node : Node} {v : Value}
    {jumps : Nat} (h : nodeValue table depth node jumps = some (v, jumps)) :
    memberValueOf table depth (.scalar {} style key, node) jumps = some ((key, v), jumps) := by
  have hstep : memberValueOf table depth (.scalar {} style key, node) jumps
      = (nodeValue table depth node jumps).bind fun value => some ((key, value.1), value.2) := rfl
  rw [hstep, h]
  rfl

/-! ## Entries -/

/-- What is read back one by one is read back as a list. -/
theorem mapM_map {α β : Type} {reader : β → NodeReader α} {written : α → β} {as : List α}
    {jumps : Nat} (h : ∀ a ∈ as, reader (written a) jumps = some (a, jumps)) :
    (as.map written).mapM reader jumps = some (as, jumps) := by
  induction as with
  | nil => rfl
  | cons a as ih =>
    obtain ⟨ha, has⟩ := List.forall_mem_cons.mp h
    have hstep : ((a :: as).map written).mapM reader jumps
        = (reader (written a) jumps).bind fun first =>
          ((as.map written).mapM reader first.2).bind fun others =>
            some (first.1 :: others.1, others.2) := by
      rw [List.map_cons, List.mapM_cons]
      rfl
    rw [hstep, ha, Option.bind_some, ih has]
    rfl

theorem itemNodes_eq_map (vs : List Value) : itemNodes vs = vs.map nodeOf := by
  induction vs with
  | nil => rfl
  | cons v vs ih => rw [itemNodes, ih, List.map_cons]

/-- The nodes of a member. -/
def memberNode (m : String × Value) : Node × Node :=
  (.scalar {} (styleOf m.1) m.1, nodeOf m.2)

theorem memberNodes_eq_map (ms : List (String × Value)) : memberNodes ms = ms.map memberNode := by
  induction ms with
  | nil => rfl
  | cons m ms ih => rw [memberNodes, ih, List.map_cons, memberNode]

/-! ## Values -/

/-- The node of a plain value stands for the value. -/
theorem nodeValue_nodeOf {v : Value} (h : v.Plain depth) (table : AliasTable) (jumps : Nat) :
    nodeValue table depth (nodeOf v) jumps = some (v, jumps) := by
  -- on the value: its words and numbers are resolved, its strings are not
  induction h with
  | null =>
    have hnull : untaggedValue? .plain (String.ofList (writeScalar 0 .null)) = some .null := by
      decide
    exact nodeValue_scalar hnull jumps
  | bool b =>
    have hbool : untaggedValue? .plain (String.ofList (writeScalar 0 (.bool b)))
        = some (.bool b) := by
      cases b <;> decide
    exact nodeValue_scalar hbool jumps
  | @int _ n hlow hhigh =>
    have hint : untaggedValue? .plain (String.ofList (writeScalar 0 (.int n))) = some (.int n) := by
      rw [untaggedValue?, if_pos rfl, writeScalar,
        resolve_writeInt (fitsEither_of_bounds hlow hhigh)]
    exact nodeValue_scalar hint jumps
  | string s => exact nodeValue_scalar (untaggedValue?_styleOf s) jumps
  | array _ ih =>
    rw [nodeOf, nodeValue_sequence, itemNodes_eq_map, mapM_map ih]
    rfl
  | @object depth members hkeys _ ih =>
    have hmembers : ∀ m ∈ members,
        memberValueOf table depth (memberNode m) jumps = some (m, jumps) :=
      fun m hm => memberValueOf_scalar (ih m hm)
    rw [nodeOf, nodeValue_mapping, memberNodes_eq_map, mapM_map hmembers, Option.bind_some,
      OrderedMap.insertEntries_nil hkeys]

/-- The text of a plain value has the value. -/
theorem read_text {v : Value} (h : v.Plain greatestDepth) : read (text v) = some v := by
  unfold read
  rw [readDocument_text h]
  simp [nodeValue_nodeOf h]

end LayeredSchema.Yaml

namespace LayeredSchema.OutputFormat

/-- A plain value is read back from its rendering as YAML with the order of its keys, whatever its
strings and keys look like. -/
theorem yaml_read_back {value : Value} (hvalue : value.Plain 127) {path : Path}
    (hpath : path.extension? = some "yaml" ∨ path.extension? = some "yml") (pretty : Bool) :
    parseFragment path (yaml.render value pretty) = .ok value := by
  have hplain : value.Plain Yaml.greatestDepth := hvalue.mono (by decide)
  have hread : SourceFormat.yaml.read (yaml.render value pretty) = some value :=
    Yaml.read_text hplain
  have hformat : SourceFormat.ofExtension? (path.extension?.getD "") = some .yaml := by
    rcases hpath with hpath | hpath <;> rw [hpath] <;> rfl
  simp only [parseFragment, hformat, hread]

/-- Strings and keys that look like numbers, words, indicators and markers, with line breaks and
spaces at their ends, between both limits of the integers. -/
def lookalikesDocument : Value :=
  .object
    [("1.10", .array
        [.string "true", .string "~", .string "- a", .string " x: #y ", .string "---"]),
      ("a\nb", .array [.int (-9223372036854775808), .int 18446744073709551615]),
      ("0x1f", .object [("", .string "two\n lines\n\n"), ("null", .object [])])]

theorem lookalikesDocument_plain : lookalikesDocument.Plain 127 := by
  apply Value.Plain.object (by decide)
  simp only [List.forall_mem_cons, List.not_mem_nil, false_implies, implies_true, and_true]
  refine ⟨.array ?_, .array ?_, .object (by decide) ?_⟩
  · simp only [List.forall_mem_cons, List.not_mem_nil, false_implies, implies_true, and_true]
    exact ⟨.string _, .string _, .string _, .string _, .string _⟩
  · simp only [List.forall_mem_cons, List.not_mem_nil, false_implies, implies_true, and_true]
    exact ⟨.int (by decide) (by decide), .int (by decide) (by decide)⟩
  · simp only [List.forall_mem_cons, List.not_mem_nil, false_implies, implies_true, and_true]
    exact ⟨.string _, .object (by decide) nofun⟩

theorem yaml_read_back_lookalikes :
    lookalikesDocument.Plain 127 ∧ Path.extension? ⟨"CloudSchema.yml"⟩ = some "yml" ∧
    parseFragment ⟨"CloudSchema.yml"⟩ (yaml.render lookalikesDocument true)
      = .ok lookalikesDocument := by
  have hpath : Path.extension? ⟨"CloudSchema.yml"⟩ = some "yml" := by decide
  exact ⟨lookalikesDocument_plain, hpath,
    yaml_read_back lookalikesDocument_plain (.inr hpath) true⟩

end LayeredSchema.OutputFormat
