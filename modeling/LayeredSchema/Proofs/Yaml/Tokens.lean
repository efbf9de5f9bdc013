import LayeredSchema.Proofs.Yaml.Collections

/-!
# The tokens of the text of a value

All characters in the text of a plain value are written as they are, `writable_writeAt`, so none is
refused or changed before the scanner starts. The scanner then gives the tokens of the value,
`tokens_text`.
-/

namespace LayeredSchema.Yaml

/-! ## Characters that are written -/

/-- A text of characters that are written as they are. -/
def Writable (text : List Char) : Prop :=
  ∀ c ∈ text, isWritable c = true

instance (text : List Char) : Decidable (Writable text) :=
  List.decidableBAll (fun c : Char => isWritable c = true) text

theorem writable_cons {c : Char} {text : List Char} :
    Writable (c :: text) ↔ isWritable c = true ∧ Writable text :=
  List.forall_mem_cons

/-- Writable texts are put together from writable parts. -/
theorem writable_append {front back : List Char} :
    Writable (front ++ back) ↔ Writable front ∧ Writable back :=
  List.forall_mem_append

/-- Lines start with spaces. -/
theorem writable_indentation (indent : Nat) : Writable (indentation indent) := by
  intro c hc
  rw [mem_indentation hc]
  decide

/-- A line feed at the end is writable too. -/
theorem writable_ended {text : List Char} (h : Writable text) : Writable (ended text) := by
  unfold ended lineEnd
  split
  · exact writable_append.mpr ⟨h, nofun⟩
  · exact writable_append.mpr ⟨h, by decide⟩

/-- A line starts with its indentation, or with nothing inside a line. -/
theorem writable_lineStart (indent : Nat) (atBreak : Bool) :
    Writable (if atBreak then indentation indent else []) := by
  split
  · exact writable_indentation indent
  · nofun

/-- Quotes are doubled and lines are indented; nothing else changes between single quotes. -/
theorem writable_singleQuoted {s : List Char} (h : Writable s) (indent : Nat) :
    Writable (singleQuoted indent s) := by
  have hlines (atBreak : Bool) : Writable (indentLines indent atBreak ['\''] s) := by
    induction s generalizing atBreak with
    | nil => exact writable_append.mpr ⟨writable_lineStart indent atBreak, by decide⟩
    | cons c s ih =>
      obtain ⟨hc, hs⟩ := writable_cons.mp h
      have hwritten : Writable (if c = '\'' then ['\'', '\''] else [c]) := by
        split
        · decide
        · exact writable_cons.mpr ⟨hc, nofun⟩
      rw [indentLines]
      split
      · exact writable_cons.mpr ⟨hc, ih hs true⟩
      · have hstart := writable_append.mpr ⟨writable_lineStart indent atBreak, hwritten⟩
        exact writable_append.mpr ⟨hstart, ih hs false⟩
  exact writable_cons.mpr ⟨by decide, hlines false⟩

/-- Between double quotes everything is writable: what is not is escaped. -/
theorem writable_doubleQuoted (s : List Char) : Writable (doubleQuoted s) := by
  have hchars : Writable (s.flatMap inDoubleQuotes) := by
    intro d hd
    obtain ⟨c, -, hc⟩ := List.mem_flatMap.mp hd
    unfold inDoubleQuotes at hc
    split_ifs at hc with hescape
    · exact isWritable_of_printable (printable_of_mem_escape hc)
    · simp only [Bool.or_eq_true, Bool.not_eq_true', not_or] at hescape
      rw [List.mem_singleton.mp hc]
      exact Bool.eq_true_of_not_eq_false hescape.1.1.1
  rw [doubleQuoted_eq, writable_cons, writable_append]
  exact ⟨by decide, hchars, by decide⟩

/-- A literal scalar is its header and its own lines behind an indentation. -/
theorem writable_literal {s : List Char} (h : Writable s) (indent : Nat) :
    Writable (literal indent s) := by
  have hheader : Writable (literalHeader s) := by
    unfold literalHeader
    rw [writable_cons, writable_append]
    refine ⟨by decide, ?_, ?_⟩
    · split <;> decide
    · split
      · split_ifs <;> decide
      · split_ifs <;> decide
      · decide
  have hlines (atBreak : Bool) : Writable (literalLines indent atBreak s) := by
    clear hheader
    induction s generalizing atBreak with
    | nil => nofun
    | cons c s ih =>
      obtain ⟨hc, hs⟩ := writable_cons.mp h
      rw [literalLines]
      split
      · exact writable_cons.mpr ⟨hc, ih hs true⟩
      · exact writable_append.mpr
          ⟨writable_lineStart indent atBreak, writable_cons.mpr ⟨hc, ih hs false⟩⟩
  exact writable_append.mpr ⟨hheader, writable_cons.mpr ⟨by decide, hlines true⟩⟩

/-- A text that reads back from a plain scalar is writable. -/
theorem writable_of_readsPlain {s : List Char} (h : ReadsPlain s) : Writable s :=
  isWritable_of_needsEscapes h.refusals.1

/-- Every string is written in a style that suits it, so its text is writable whatever the string
holds. -/
theorem writable_writeString (indent : Nat) (s : String) : Writable (writeString indent s) := by
  have hsuits := suits_styleOf s
  rw [writeString_eq]
  generalize styleOf s = style at hsuits
  cases hsuits with
  | plain h => exact writable_of_readsPlain h
  | singleQuoted h => exact writable_singleQuoted h.writable indent
  | doubleQuoted _ => exact writable_doubleQuoted s.toList
  | literal _ hwritable => exact writable_literal hwritable indent

/-- What takes no block is a string, an empty collection, an integer, or one of the words for the
other values. -/
theorem writable_of_flat {v : Value} (hv : opener? v = none) (hfloat : ∀ x, v ≠ .float x)
    (indent : Nat) : Writable (writeAt indent v) := by
  rw [writeAt_of_flat hv]
  cases v with
  | null =>
    show Writable "null".toList
    decide
  | bool b =>
    show Writable (if b then "true" else "false").toList
    cases b <;> decide
  | int n => exact writable_of_readsPlain (readsPlain_writeInt n)
  | float x => exact absurd rfl (hfloat x)
  | string s => exact writable_writeString indent s
  | array _ =>
    show Writable ['[', ']']
    decide
  | object _ =>
    show Writable ['\x7b', '\x7d']
    decide

/-! ## Characters of collections -/

theorem writable_item {text : List Char} (h : Writable text) : Writable ('-' :: ' ' :: text) :=
  writable_cons.mpr ⟨by decide, writable_cons.mpr ⟨by decide, h⟩⟩

/-- Items behind the first one are writable if each of them is, at any indentation. -/
theorem writable_writeItems {vs : List Value} (h : ∀ v ∈ vs, ∀ indent, Writable (writeAt indent v))
    (column : Nat) {item : List Char} (hitem : Writable item) :
    Writable (item ++ writeItems column item vs) := by
  induction vs generalizing item with
  | nil => exact writable_append.mpr ⟨hitem, nofun⟩
  | cons v vs ih =>
    obtain ⟨hv, hvs⟩ := List.forall_mem_cons.mp h
    rw [writeItems_cons, writable_append, writable_append]
    exact ⟨⟨writable_ended hitem, writable_indentation column⟩, ih hvs (writable_item (hv _))⟩

/-- A member is its key, simple or not, and its value. -/
theorem writable_writeMember {v : Value} (h : ∀ indent, Writable (writeAt indent v))
    (column : Nat) (key : String) : Writable (writeMember column key v) := by
  cases hkey : isSimpleKey key with
  | false =>
    rw [writeMember_of_not_simple hkey, writeComplexKey_eq]
    simp only [writable_append]
    exact ⟨⟨⟨by decide, writable_ended (writable_writeString _ key), writable_indentation column⟩,
      by decide⟩, h _⟩
  | true =>
    have hwritten : Writable (writeSimpleKey (column + 2) key) :=
      writable_append.mpr ⟨writable_writeString _ key, by decide⟩
    have hbelow (below : Nat) : Writable ('\n' :: indentation below) :=
      writable_cons.mpr ⟨by decide, writable_indentation below⟩
    rcases opener?_eq v with hv | hv | hv
    · rw [writeMember_of_flat hkey column hv, ← writeAt_of_flat hv]
      exact writable_append.mpr ⟨writable_append.mpr ⟨hwritten, by decide⟩, h _⟩
    · rw [writeMember_of_sequence hkey column hv]
      exact writable_append.mpr ⟨writable_append.mpr ⟨hwritten, hbelow column⟩, h _⟩
    · rw [writeMember_of_mapping hkey column hv]
      exact writable_append.mpr ⟨writable_append.mpr ⟨hwritten, hbelow _⟩, h _⟩

/-- Members behind the first one are writable if each of their values is, at any indentation. -/
theorem writable_writeMembers {ms : List (String × Value)}
    (h : ∀ m ∈ ms, ∀ indent, Writable (writeAt indent m.2)) (column : Nat) {member : List Char}
    (hmember : Writable member) : Writable (member ++ writeMembers column member ms) := by
  induction ms generalizing member with
  | nil => exact writable_append.mpr ⟨hmember, nofun⟩
  | cons m ms ih =>
    obtain ⟨hm, hms⟩ := List.forall_mem_cons.mp h
    rw [writeMembers_cons, writable_append, writable_append]
    exact ⟨⟨writable_ended hmember, writable_indentation column⟩,
      ih hms (writable_writeMember hm column m.1)⟩

/-- Nothing in the text of a plain value has to be escaped. -/
theorem writable_writeAt {depth : Nat} {v : Value} (h : v.Plain depth) (indent : Nat) :
    Writable (writeAt indent v) := by
  induction h generalizing indent with
  | null => exact writable_of_flat rfl (by simp) indent
  | bool b => exact writable_of_flat rfl (by simp) indent
  | int _ _ => exact writable_of_flat rfl (by simp) indent
  | string s => exact writable_of_flat rfl (by simp) indent
  | @array _ items _ ih =>
    cases items with
    | nil => exact writable_of_flat rfl (by simp) indent
    | cons v vs =>
      obtain ⟨hv, hvs⟩ := List.forall_mem_cons.mp ih
      rw [writeAt]
      exact writable_writeItems hvs indent (writable_item (hv _))
  | @object _ members _ _ ih =>
    cases members with
    | nil => exact writable_of_flat rfl (by simp) indent
    | cons m ms =>
      obtain ⟨hm, hms⟩ := List.forall_mem_cons.mp ih
      rw [writeAt]
      exact writable_writeMembers hms indent (writable_writeMember hm indent m.1)

/-! ## Characters that are read -/

/-- What is writable is allowed in a document, and is none of the breaks that are turned into line
feeds. -/
theorem isAllowed_of_isWritable {c : Char} (h : isWritable c = true) :
    isAllowed c = true ∧ c ≠ '\r' ∧ c ≠ '\x85' := by
  refine ⟨?_, ?_, ?_⟩
  · have hvalid : c.toNat < 0xD800 ∨ 0xDFFF < c.toNat ∧ c.toNat < 0x110000 := c.valid
    unfold isWritable at h
    unfold isAllowed
    simp only [Bool.or_eq_true, Bool.and_eq_true, decide_eq_true_eq] at h ⊢
    omega
  · rintro rfl
    exact absurd h (by decide)
  · rintro rfl
    exact absurd h (by decide)

/-- Carriage returns and next-line characters are turned into line feeds first; a writable text has
neither. -/
theorem normalizeBreaks_of_writable {text : List Char} (h : Writable text) :
    normalizeBreaks text = text := by
  induction text with
  | nil => rfl
  | cons c text ih =>
    obtain ⟨hc, htext⟩ := writable_cons.mp h
    obtain ⟨-, hreturn, hnext⟩ := isAllowed_of_isWritable hc
    unfold normalizeBreaks
    split
    · next heq => exact absurd (List.cons.inj heq).1 hreturn
    · next heq =>
      obtain ⟨rfl, rfl⟩ := List.cons.inj heq
      rw [if_neg (not_or.mpr ⟨hreturn, hnext⟩), ih htext]
    · next heq => cases heq

/-! ## Tokens -/

/-- A document ends in a line feed. A scalar at the top is indented as if it stood in a
collection. -/
theorem toList_text (v : Value) :
    (text v).toList = ended (writeAt (if opener? v = none then 2 else 0) v) := by
  unfold text
  rw [String.toList_ofList]
  split
  · rfl
  · rfl
  · next harray hobject =>
    have hv : opener? v = none := by
      unfold opener?
      split
      · exact absurd rfl (harray _ _)
      · exact absurd rfl (hobject _ _)
      · rfl
    rw [if_pos hv, writeAt_of_flat hv]
    rfl

namespace Scanner

/-- Outside of all blocks there is none to close. -/
theorem closeBlocks_nil (key : Option KeyPlace) (keyAllowed : Bool) (c : Cursor)
    (reversed : List Token) (column : Nat) :
    (inBlock key keyAllowed c [] reversed).closeBlocks column
      = inBlock key keyAllowed c [] reversed :=
  closeBlocks_of_le nofun

/-- What is written for a value at the top leads to its tokens. -/
theorem leads_text {v : Value} (h : ReadsNode v) :
    Leads (inBlock none true ⟨(text v).toList, 0, 0⟩ [] [])
      (inBlock none true (Cursor.past (text v).toList ⟨(text v).toList, 0, 0⟩) []
        (nodeTokens v).reverse) := by
  have hend : EndsNode (limitOf []) 0 [] := ⟨nofun, .inr ⟨rfl, rfl⟩⟩
  have hempty (cs : List Char) : cs ++ indentation 0 = cs := List.append_nil cs
  rw [toList_text]
  cases hv : opener? v with
  | none =>
    rw [if_pos rfl, writeAt_of_flat hv, nodeTokens_of_flat hv]
    have hlead : Leads (inBlock none true ⟨ended (writeScalar 2 v), 0, 0⟩ [] []) _ :=
      (h.flat hv).leads hend (Nat.le_refl 0) (List.append_nil _).symm
    rwa [closeBlocks_nil, hempty, List.append_nil] at hlead
  | some token =>
    rw [if_neg nofun, nodeTokens_of_opener hv]
    have hlead : Leads (inBlock none true ⟨ended (writeAt 0 v), 0, 0⟩ [] []) _ :=
      (h.entries token hv 0).leads_block (Nat.le_refl 0) rfl hend (List.append_nil _).symm
    rw [closeBlocks_nil, hempty] at hlead
    simpa using hlead

end Scanner

/-- The text of a plain value has the tokens of the value. -/
theorem tokens_text {depth : Nat} {v : Value} (h : v.Plain depth) :
    tokens (text v) = some (nodeTokens v) := by
  have hnode := Scanner.readsNode_of_plain h
  have hwritable : Writable (text v).toList := by
    rw [toList_text]
    exact writable_ended (writable_writeAt h _)
  have hall : (text v).toList.all isAllowed = true :=
    List.all_eq_true.mpr fun c hc => (isAllowed_of_isWritable (hwritable c hc)).1
  have hstart : StartsToken (text v).toList := by
    obtain ⟨hne, hstart⟩ := hnode.starts (if opener? v = none then 2 else 0)
    rw [toList_text, ended]
    exact hstart.append hne _
  -- the text starts with a token of the value, outside of all blocks
  have hsettle := Scanner.settle_here none true [] [] (c := ⟨(text v).toList, 0, 0⟩) hstart
    (by simp)
  rw [Scanner.closeBlocks_nil] at hsettle
  have hrun : Scanner.run ((text v).toList.length + 1) { cursor := ⟨(text v).toList, 0, 0⟩ } = _ :=
    Scanner.run_of_leads hsettle (Scanner.leads_text hnode) (Nat.le_refl _)
      (Cursor.rest_past (List.append_nil _).symm) rfl
  unfold tokens
  rw [if_pos hall, normalizeBreaks_of_writable hwritable]
  dsimp only
  rw [hrun]
  show some (nodeTokens v).reverse.reverse = some (nodeTokens v)
  rw [List.reverse_reverse]

end LayeredSchema.Yaml
