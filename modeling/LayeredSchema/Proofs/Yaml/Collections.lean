import LayeredSchema.Proofs.Yaml.Keys
import LayeredSchema.Proofs.Yaml.Resolution

/-!
# Values as tokens

The tokens of a value are those of its entries between the marks of its collection, `nodeTokens`.
The scanner reads entries one after the other, `Scanner.ReadsEntries.append`, each with a value
behind its marks, `Scanner.ReadsEntries.of_marks`, and closes their block in front of what stands
outside, `Scanner.ReadsEntries.leads_block`. So what is written for a plain value is read as its
tokens, `Scanner.readsNode_of_plain`.
-/

namespace LayeredSchema.Yaml

/-! ## The tokens of a value -/

/-- The token that opens a collection with entries. -/
def opener? : Value → Option Token
  | .array (_ :: _) => some .blockSequenceStart
  | .object (_ :: _) => some .blockMappingStart
  | _ => none

/-- A value opens a sequence, opens a mapping, or opens nothing. -/
theorem opener?_eq (v : Value) : opener? v = none ∨ opener? v = some .blockSequenceStart ∨
    opener? v = some .blockMappingStart := by
  unfold opener?
  split
  · exact .inr (.inl rfl)
  · exact .inr (.inr rfl)
  · exact .inl rfl

/-- The tokens of a scalar or an empty collection. -/
def flatTokens : Value → List Token
  | .array _ => [.flowSequenceStart, .flowSequenceEnd]
  | .object _ => [.flowMappingStart, .flowMappingEnd]
  | .string s => [.scalar (styleOf s) s]
  | v => [.scalar .plain (String.ofList (writeScalar 0 v))]

/-- The tokens of a value, given those of its entries. -/
def enclosed (v : Value) (entries : List Token) : List Token :=
  match opener? v with
  | some token => token :: (entries ++ [.blockEnd])
  | none => flatTokens v

/-- The tokens of the value of a member: the items of a sequence below a key on one line stand in
the column of the key, so nothing opens and closes them. -/
def memberValue (key : String) (v : Value) (entries : List Token) : List Token :=
  if isSimpleKey key ∧ opener? v = some .blockSequenceStart then entries else enclosed v entries

mutual

/-- The tokens of the entries of a collection. -/
def entryTokens : Value → List Token
  | .array items => itemTokens items
  | .object members => memberTokens members
  | _ => []

/-- The tokens of the items of a sequence. -/
def itemTokens : List Value → List Token
  | [] => []
  | v :: vs => .blockEntry :: (enclosed v (entryTokens v) ++ itemTokens vs)

/-- The tokens of the members of a mapping. -/
def memberTokens : List (String × Value) → List Token
  | [] => []
  | (key, v) :: ms => keyTokens key ++ memberValue key v (entryTokens v) ++ memberTokens ms

end

/-- The tokens of a value. -/
def nodeTokens (v : Value) : List Token :=
  enclosed v (entryTokens v)

/-- Without entries the tokens of a value are all there is. -/
theorem nodeTokens_of_flat {v : Value} (h : opener? v = none) : nodeTokens v = flatTokens v := by
  rw [nodeTokens, enclosed, h]

/-- With entries they stand between the token that opens the block and its end. -/
theorem nodeTokens_of_opener {v : Value} {token : Token} (h : opener? v = some token) :
    nodeTokens v = token :: (entryTokens v ++ [.blockEnd]) := by
  rw [nodeTokens, enclosed, h]

/-- A value without entries is written on the line where it stands. -/
theorem writeAt_of_flat {v : Value} (h : opener? v = none) (indent : Nat) :
    writeAt indent v = writeScalar indent v := by
  unfold opener? at h
  split at h
  · cases h
  · cases h
  · unfold writeAt
    split
    · simp_all
    · simp_all
    · rfl

/-! ## The text of a collection -/

/-- An item ends its line, and the next one starts in the column of the sequence. -/
theorem writeItems_cons (column : Nat) (item : List Char) (v : Value) (vs : List Value) :
    item ++ writeItems column item (v :: vs) = ended item ++ indentation column
      ++ ('-' :: ' ' :: writeAt (column + 2) v
        ++ writeItems column ('-' :: ' ' :: writeAt (column + 2) v) vs) := by
  rw [writeItems, ended]
  simp

/-- A member ends its line, and the next one starts in the column of the mapping. -/
theorem writeMembers_cons (column : Nat) (member : List Char) (key : String) (v : Value)
    (ms : List (String × Value)) :
    member ++ writeMembers column member ((key, v) :: ms) = ended member ++ indentation column
      ++ (writeMember column key v ++ writeMembers column (writeMember column key v) ms) := by
  rw [writeMembers, ended]
  simp

/-- A key that is not simple has a mark of its own, and so has its value. -/
theorem writeMember_of_not_simple {key : String} (h : isSimpleKey key = false) (indent : Nat)
    (v : Value) :
    writeMember indent key v = writeComplexKey indent key ++ writeAt (indent + 2) v := by
  unfold writeMember
  split <;> simp [h, writeAt]

/-- A value without entries stands behind its key. -/
theorem writeMember_of_flat {key : String} (h : isSimpleKey key = true) (indent : Nat) {v : Value}
    (hv : opener? v = none) : writeMember indent key v
      = writeSimpleKey (indent + 2) key ++ [' '] ++ writeScalar (indent + 2) v := by
  unfold writeMember
  split <;> simp_all [opener?, writeSimpleKey]

/-- A sequence starts on the next line, in the column of its key. -/
theorem writeMember_of_sequence {key : String} (h : isSimpleKey key = true) (indent : Nat)
    {v : Value} (hv : opener? v = some .blockSequenceStart) : writeMember indent key v
      = writeSimpleKey (indent + 2) key ++ '\n' :: indentation indent
        ++ writeAt indent v := by
  unfold writeMember
  split <;> simp_all [opener?, writeAt, writeSimpleKey]

/-- A mapping starts on the next line, further in than its key. -/
theorem writeMember_of_mapping {key : String} (h : isSimpleKey key = true) (indent : Nat)
    {v : Value} (hv : opener? v = some .blockMappingStart) : writeMember indent key v
      = writeSimpleKey (indent + 2) key ++ '\n' :: indentation (indent + 2)
        ++ writeAt (indent + 2) v := by
  unfold writeMember
  split <;> simp_all [opener?, writeAt, writeSimpleKey]

namespace Scanner

variable {token : Token} {column : Nat} {columns outer : List Nat} {reversed : List Token}
  {c : Cursor} {k : Nat} {next : List Char}

/-! ## Empty collections -/

/-- The marks around an empty collection and their tokens. -/
inductive FlowMarks : Char → Char → Token → Token → Prop where
  | sequence : FlowMarks '[' ']' .flowSequenceStart .flowSequenceEnd
  | mapping : FlowMarks '\x7b' '\x7d' .flowMappingStart .flowMappingEnd

section

variable {opening closing : Char} {first last : Token} {keyAllowed : Bool}

/-- The state behind the opening mark of a flow collection. -/
def inFlowFrom (c : Cursor) (columns : List Nat) (reversed : List Token)
    (key : Option KeyPlace) : Scanner :=
  { cursor := c, columns, flowDepth := 1, keys := [none, key], reversed }

/-- The opening mark of an empty collection gives its token, and the scanner is in a flow
collection. -/
theorem fetchHere_opening (h : FlowMarks opening closing first last) {more : List Char}
    (hc : c.rest = opening :: more) :
    (inBlock none keyAllowed c columns reversed).fetchHere
      = some (inFlowFrom (c.advance 1) columns (first :: reversed)
        (keyAt keyAllowed c columns reversed)) := by
  have hfetch : (inBlock none keyAllowed c columns reversed).fetchHere
      = (inBlock none keyAllowed c columns reversed).fetchFlowStart first := by
    cases h <;> simp [fetchHere, hc, Cursor.atMarker_of_ne hc]
  rw [hfetch, fetchFlowStart, saveKey_inBlock]
  rfl

/-- The closing mark gives its token, and the scanner is back in the block. -/
theorem fetchHere_closing (h : FlowMarks opening closing first last) {more : List Char}
    (hc : c.rest = closing :: more) (key : Option KeyPlace) :
    (inFlowFrom c columns reversed key).fetchHere
      = some (inBlock key false (c.advance 1) columns (last :: reversed)) := by
  have hfetch : (inFlowFrom c columns reversed key).fetchHere
      = (inFlowFrom c columns reversed key).fetchFlowEnd last := by
    cases h <;> simp [fetchHere, inFlowFrom, hc, Cursor.atMarker_of_ne hc]
  rw [hfetch]
  rfl

/-- Between the marks of an empty collection nothing is skipped. -/
theorem settle_inFlowFrom (hstart : StartsToken c.rest) {key : Option KeyPlace}
    (hkey : ∀ place ∈ key, place.line = c.line ∧ c.column ≤ place.column + 1) :
    (inFlowFrom c columns reversed key).settle = some (inFlowFrom c columns reversed key) := by
  have hskip : skipToToken (c.rest.length + 1) (inFlowFrom c columns reversed key)
      = inFlowFrom c columns reversed key := skipToToken_spaces 0 hstart rfl _
  -- one column behind the opening mark no key is too far back
  have hfresh : ∀ place ∈ key, (inFlowFrom c columns reversed key).isStale place = false := by
    intro place hplace
    obtain ⟨hline, hcolumn⟩ := hkey place hplace
    have hnear : c.column ≤ place.column + keyReach :=
      Nat.le_trans hcolumn (Nat.add_le_add_left (by decide) _)
    have hsame : ¬place.line < c.line := Nat.not_lt.mpr (Nat.le_of_eq hline.symm)
    exact Bool.or_eq_false_iff.mpr
      ⟨decide_eq_false hsame, decide_eq_false (Nat.not_lt.mpr hnear)⟩
  have hkeys : ∀ key' ∈ (inFlowFrom c columns reversed key).keys, ∀ place ∈ key',
      (inFlowFrom c columns reversed key).isStale place = false := by
    intro key' hkey'
    rcases List.mem_pair.mp hkey' with rfl | rfl
    · nofun
    · exact hfresh
  have hclose (column : Nat) : (inFlowFrom c columns reversed key).closeBlocks column
      = inFlowFrom c columns reversed key := by
    rw [closeBlocks]
    rfl
  unfold settle
  rw [show (inFlowFrom c columns reversed key).cursor = c from rfl, hskip,
    dropStaleKeys_of_fresh hkeys, Option.map_some, hclose]

/-- An empty collection is read to the end of its line. -/
theorem leads_empty (h : FlowMarks opening closing first last)
    (hend : EndsNode (limitOf columns) k next) (hcolumn : limitOf columns ≤ c.column)
    (hc : c.rest = ended [opening, closing] ++ (indentation k ++ next)) :
    Leads (inBlock none keyAllowed c columns reversed)
      ((inBlock none true (c.past (ended [opening, closing] ++ indentation k)) columns
        (last :: first :: reversed)).closeBlocks k) := by
  have hopen : lineEnd [opening, closing] = ['\n'] := by
    cases h <;> rfl
  rw [ended_append hopen] at hc ⊢
  have hopening : c.rest = opening :: closing :: '\n' :: (indentation k ++ next) := hc
  have hclosing : (c.advance 1).rest = closing :: '\n' :: (indentation k ++ next) :=
    Cursor.rest_advance_one hopening
  have hstart : StartsToken (c.advance 1).rest := by
    rw [hclosing]
    cases h <;> exact startsToken_cons (by decide) _
  have hpast : c.past [opening, closing] = (c.advance 1).advance 1 := by
    cases h <;> rfl
  have hkey : ∀ place ∈ keyAt keyAllowed c columns reversed,
      place.line = (c.advance 1).line ∧ (c.advance 1).column ≤ place.column + 1 := by
    intro place hplace
    rw [eq_of_mem_keyAt hplace]
    exact ⟨rfl, Nat.le_refl _⟩
  have hfetch : (inFlowFrom (c.advance 1) columns (first :: reversed)
      (keyAt keyAllowed c columns reversed)).fetchHere = _ := fetchHere_closing h hclosing _
  rw [← hpast] at hfetch
  -- the opening mark is one step, and the closing one ends the line
  refine (Leads.step (fetchHere_opening h hopening) (settle_inFlowFrom hstart hkey) ?_).trans
    (leads_of_open_line hfetch hend.startsToken hcolumn hc ?_)
  · show (c.advance 1).rest.length < c.rest.length
    rw [hclosing, hopening]
    exact Nat.lt_succ_self _
  · show (c.past [opening, closing]).rest.length ≤ (c.advance 1).rest.length
    rw [Cursor.rest_past hc, hclosing]
    exact Nat.le_succ _

end

/-! ## Entries of a block -/

/-- Entries of a block in a column are read to the end of their last line. -/
structure ReadsEntries (token : Token) (column : Nat) (text : List Char) (tokens : List Token) :
    Prop where
  ne_nil : text ≠ []
  startsToken : StartsToken text
  leads : ∀ {columns opened : List Nat} {reversed tokens' : List Token} {c : Cursor} {k : Nat}
    {next : List Char}, Opens token column columns reversed opened tokens' → c.column = column →
    EndsNode (column + 1) k next → c.rest = ended text ++ (indentation k ++ next) →
    Leads (inBlock none true c columns reversed)
      ((inBlock none true (c.past (ended text ++ indentation k)) opened
        (tokens.reverse ++ tokens')).closeBlocks k)

/-- More entries stand on the lines behind. -/
theorem ReadsEntries.append {front back : List Char} {tokens tokens' : List Token}
    (hfront : ReadsEntries token column front tokens)
    (hback : ReadsEntries token column back tokens') :
    ReadsEntries token column (ended front ++ indentation column ++ back) (tokens ++ tokens') := by
  have hne : ended front ++ indentation column ≠ [] := by
    simp [ended, hfront.ne_nil]
  refine ⟨by simp [hback.ne_nil], ?_, ?_⟩
  · rw [ended, List.append_assoc, List.append_assoc]
    exact hfront.startsToken.append hfront.ne_nil _
  · intro columns opened reversed tokens'' c k next hopens hcolumn hend hc
    obtain ⟨outer, rfl⟩ := hopens.eq_cons
    rw [ended_append_of_ne_nil _ hback.ne_nil] at hc ⊢
    have hstart : StartsToken (ended back ++ (indentation k ++ next)) := by
      rw [ended, List.append_assoc]
      exact hback.startsToken.append hback.ne_nil _
    have hrest : c.rest = ended front ++ (indentation column
        ++ (ended back ++ (indentation k ++ next))) := by
      rw [hc]
      simp
    -- the entries in front leave the block open, and the others go on with it
    have hfirst := hfront.leads hopens hcolumn ⟨hstart, Or.inl (Nat.lt_succ_self column)⟩ hrest
    rw [closeBlocks_inside (Nat.le_refl column)] at hfirst
    have hothers := hfirst.trans (hback.leads (.before rfl) (column_past_ended front column c) hend
      (Cursor.rest_past (by rw [hc]; simp)))
    rw [← Cursor.past_append] at hothers
    simpa using hothers

/-- A block is read with its entries, and closed in front of what stands outside of it. -/
theorem ReadsEntries.leads_block {text : List Char} {tokens : List Token}
    (h : ReadsEntries token column text tokens) (hlimit : limitOf columns ≤ column)
    (hcolumn : c.column = column) (hend : EndsNode (limitOf columns) k next)
    (hc : c.rest = ended text ++ (indentation k ++ next)) :
    Leads (inBlock none true c columns reversed)
      ((inBlock none true (c.past (ended text ++ indentation k)) columns
        (.blockEnd :: (tokens.reverse ++ token :: reversed))).closeBlocks k) := by
  have hends : EndsNode (column + 1) k next :=
    ⟨hend.startsToken, hend.outside.imp_left fun hless => by omega⟩
  have hentries : Leads (inBlock none true c columns reversed) _ :=
    h.leads (.here hlimit) hcolumn hends hc
  -- the block ends in front of something further out, or with the text
  rcases hend.outside with hless | ⟨rfl, rfl⟩
  · rwa [closeBlocks_outside (by omega)] at hentries
  · -- at the end of the text the block is closed with all others
    have hrest : (c.past (ended text ++ indentation 0)).rest = [] :=
      Cursor.rest_past (by rw [hc]; simp)
    refine hentries.trans (Leads.of_end ?_ ?_ ?_)
    · rw [cursor_closeBlocks]
      exact hrest
    · rw [cursor_closeBlocks]
      exact hrest
    · rw [closeAllBlocks_closeBlocks, closeAllBlocks_closeBlocks,
        closeAllBlocks_of_not_inFlow rfl, closeAllBlocks_of_not_inFlow rfl]
      simp [inBlock, List.replicate_succ']

/-- An entry whose value stands behind its marks. -/
theorem ReadsEntries.of_marks (marks : List Char) (before : List Token) {value : List Char}
    {tokens : List Token} {keyAllowed : Bool} (hmarks_ne : marks ≠ [])
    (hmarks_start : StartsToken marks) (hvalue_ne : value ≠ []) (hvalue_start : StartsToken value)
    (hmarks : ∀ {columns opened : List Nat} {reversed reversed' : List Token} {c : Cursor}
      {more : List Char}, Opens token column columns reversed opened reversed' →
      c.column = column → StartsToken more → c.rest = marks ++ more →
      Leads (inBlock none true c columns reversed)
        (inBlock none keyAllowed (c.past marks) opened (before.reverse ++ reversed')))
    (hvalue : ∀ {outer : List Nat} {reversed : List Token} {c : Cursor} {k : Nat}
      {next : List Char}, c.column = column → EndsNode (column + 1) k next →
      (c.past marks).rest = ended value ++ (indentation k ++ next) →
      Leads (inBlock none keyAllowed (c.past marks) (column :: outer) reversed)
        ((inBlock none true ((c.past marks).past (ended value ++ indentation k)) (column :: outer)
          (tokens.reverse ++ reversed)).closeBlocks k)) :
    ReadsEntries token column (marks ++ value) (before ++ tokens) := by
  refine ⟨by simp [hmarks_ne], hmarks_start.append hmarks_ne value, ?_⟩
  intro columns opened reversed reversed' c k next hopens hcolumn hend hc
  rw [ended_append_of_ne_nil marks hvalue_ne] at hc ⊢
  have hstart : StartsToken (ended value ++ (indentation k ++ next)) := by
    rw [ended, List.append_assoc]
    exact hvalue_start.append hvalue_ne _
  have hsplit : c.rest = marks ++ (ended value ++ (indentation k ++ next)) := by
    rw [hc, List.append_assoc]
  obtain ⟨outer, rfl⟩ := hopens.eq_cons
  -- the marks open the block if they are the first ones, and then the value is read in it
  have hlead := (hmarks hopens hcolumn hstart hsplit).trans
    (hvalue hcolumn hend (Cursor.rest_past hsplit))
  rw [← Cursor.past_append] at hlead
  simpa using hlead

/-! ## Values -/

/-- A value without entries is read to the end of its last line. -/
structure ReadsFlat (v : Value) : Prop where
  ne_nil : ∀ indent, writeScalar indent v ≠ []
  startsToken : ∀ indent, StartsToken (writeScalar indent v)
  leads : ∀ {keyAllowed : Bool} {columns : List Nat} {reversed : List Token} {c : Cursor}
    {k : Nat} {next : List Char}, EndsNode (limitOf columns) k next → limitOf columns ≤ c.column →
    c.rest = ended (writeScalar (limitOf columns - 1 + 2) v) ++ (indentation k ++ next) →
    Leads (inBlock none keyAllowed c columns reversed)
      ((inBlock none true (c.past (ended (writeScalar (limitOf columns - 1 + 2) v)
        ++ indentation k)) columns ((flatTokens v).reverse ++ reversed)).closeBlocks k)

/-- A value is read, entry by entry if it has entries. -/
structure ReadsNode (v : Value) : Prop where
  flat : opener? v = none → ReadsFlat v
  entries : ∀ token, opener? v = some token → ∀ column,
    ReadsEntries token column (writeAt column v) (entryTokens v)

namespace ReadsNode

variable {v : Value}

/-- What is written for a value is not empty, and a token starts there. -/
theorem starts (h : ReadsNode v) (indent : Nat) :
    writeAt indent v ≠ [] ∧ StartsToken (writeAt indent v) := by
  cases hopener : opener? v with
  | none =>
    rw [writeAt_of_flat hopener]
    exact ⟨(h.flat hopener).ne_nil indent, (h.flat hopener).startsToken indent⟩
  | some token =>
    have hentries := h.entries token hopener indent
    exact ⟨hentries.ne_nil, hentries.startsToken⟩

/-- A value two columns inside of a block is read to the end of its last line. -/
theorem leads (h : ReadsNode v) (hcolumn : c.column = column + 2)
    (hend : EndsNode (column + 1) k next)
    (hc : c.rest = ended (writeAt (column + 2) v) ++ (indentation k ++ next)) :
    Leads (inBlock none true c (column :: outer) reversed)
      ((inBlock none true (c.past (ended (writeAt (column + 2) v) ++ indentation k))
        (column :: outer) ((nodeTokens v).reverse ++ reversed)).closeBlocks k) := by
  have hlimit : limitOf (column :: outer) ≤ c.column := by
    rw [hcolumn]
    exact Nat.le_succ (column + 1)
  cases hopener : opener? v with
  | none =>
    rw [nodeTokens_of_flat hopener]
    rw [writeAt_of_flat hopener] at hc ⊢
    exact (h.flat hopener).leads hend hlimit hc
  | some token =>
    rw [nodeTokens_of_opener hopener]
    have hblock : Leads (inBlock none true c (column :: outer) reversed) _ :=
      (h.entries token hopener (column + 2)).leads_block (hcolumn ▸ hlimit) hcolumn hend hc
    simpa using hblock

/-- The items of a sequence stand behind dashes. -/
theorem item (h : ReadsNode v) (column : Nat) :
    ReadsEntries .blockSequenceStart column ('-' :: ' ' :: writeAt (column + 2) v)
      (.blockEntry :: nodeTokens v) := by
  obtain ⟨hne, hstart⟩ := h.starts (column + 2)
  refine ReadsEntries.of_marks ['-', ' '] [.blockEntry] (by simp)
    (startsToken_cons (by decide) _) hne hstart (leads_entryMark .dash) ?_
  intro outer reversed c k next hcolumn hend hc
  refine h.leads ?_ hend hc
  rw [Cursor.past_of_no_break (forall_not_break rfl), ← hcolumn]
  rfl

/-- A key with a mark, and its value behind the colon. -/
theorem member_of_not_simple (h : ReadsNode v) {key : String} (hkey : isSimpleKey key = false)
    (column : Nat) : ReadsEntries .blockMappingStart column (writeMember column key v)
      (keyTokens key ++ nodeTokens v) := by
  obtain ⟨hne, hstart⟩ := h.starts (column + 2)
  rw [writeMember_of_not_simple hkey]
  refine ReadsEntries.of_marks (writeComplexKey column key) (keyTokens key) (List.cons_ne_nil _ _)
    (startsToken_cons (by decide) _) hne hstart leads_complexKey ?_
  intro outer reversed c k next _ hend hc
  exact h.leads (column_past_writeComplexKey column key c) hend hc

/-- A value behind a key on one line. -/
theorem member_of_flat (h : ReadsNode v) {key : String} (hkey : isSimpleKey key = true)
    (hv : opener? v = none) (column : Nat) :
    ReadsEntries .blockMappingStart column (writeMember column key v)
      (keyTokens key ++ nodeTokens v) := by
  obtain ⟨hne, hstart⟩ := h.starts (column + 2)
  rw [writeAt_of_flat hv] at hne hstart
  rw [writeMember_of_flat hkey column hv, nodeTokens_of_flat hv]
  refine ReadsEntries.of_marks (writeSimpleKey (column + 2) key ++ [' ']) (keyTokens key) (by simp)
    ((startsToken_writeSimpleKey _ key).append (writeSimpleKey_ne_nil _ key) _) hne hstart
    (fun hopens hcolumn hmore hc =>
      leads_simpleKey_here hkey hopens hcolumn (Nat.succ_pos _) hmore hc) ?_
  intro outer reversed c k next hcolumn hend hc
  have hless := column_lt_column_past_simpleKey hkey (column + 2) c
  rw [hcolumn] at hless
  refine (h.flat hv).leads hend ?_ hc
  rw [Cursor.past_append]
  exact Nat.le_succ_of_le hless

/-- The items of a sequence below a key on one line stand in its column. -/
theorem member_of_sequence (h : ReadsNode v) {key : String} (hkey : isSimpleKey key = true)
    (hv : opener? v = some .blockSequenceStart) (column : Nat) :
    ReadsEntries .blockMappingStart column (writeMember column key v)
      (keyTokens key ++ entryTokens v) := by
  have hentries := h.entries _ hv column
  rw [writeMember_of_sequence hkey column hv]
  refine ReadsEntries.of_marks (writeSimpleKey (column + 2) key ++ '\n' :: indentation column)
    (keyTokens key) (by simp)
    ((startsToken_writeSimpleKey _ key).append (writeSimpleKey_ne_nil _ key) _)
    hentries.ne_nil hentries.startsToken
    (fun hopens hcolumn hmore hc => leads_simpleKey_below hkey hopens hcolumn (Nat.succ_pos _)
      (Nat.le_refl column) hmore hc) ?_
  intro outer reversed c k next _ hend hc
  exact hentries.leads (.before rfl) (Cursor.column_past_line _ column c) hend hc

/-- The members of a mapping below a key on one line are indented. -/
theorem member_of_mapping (h : ReadsNode v) {key : String} (hkey : isSimpleKey key = true)
    (hv : opener? v = some .blockMappingStart) (column : Nat) :
    ReadsEntries .blockMappingStart column (writeMember column key v)
      (keyTokens key ++ nodeTokens v) := by
  obtain ⟨hne, hstart⟩ := h.starts (column + 2)
  rw [writeMember_of_mapping hkey column hv]
  refine ReadsEntries.of_marks (writeSimpleKey (column + 2) key
    ++ '\n' :: indentation (column + 2)) (keyTokens key) (by simp)
    ((startsToken_writeSimpleKey _ key).append (writeSimpleKey_ne_nil _ key) _) hne hstart
    (fun hopens hcolumn hmore hc => leads_simpleKey_below hkey hopens hcolumn (Nat.succ_pos _)
      (Nat.le_add_right column 2) hmore hc) ?_
  intro outer reversed c k next _ hend hc
  exact h.leads (Cursor.column_past_line _ _ c) hend hc

/-- The members of a mapping stand behind their keys. -/
theorem member (h : ReadsNode v) (key : String) (column : Nat) :
    ReadsEntries .blockMappingStart column (writeMember column key v)
      (keyTokens key ++ memberValue key v (entryTokens v)) := by
  cases hkey : isSimpleKey key with
  | false => simpa [memberValue, hkey, nodeTokens] using h.member_of_not_simple hkey column
  | true =>
    rcases opener?_eq v with hv | hv | hv
    · simpa [memberValue, hv, nodeTokens] using h.member_of_flat hkey hv column
    · simpa [memberValue, hkey, hv] using h.member_of_sequence hkey hv column
    · simpa [memberValue, hv, nodeTokens] using h.member_of_mapping hkey hv column

end ReadsNode

/-! ## Every plain value -/

/-- A scalar in a style is read as one token. -/
theorem readsFlat_of_styled {v : Value} {style : ScalarStyle} {s : List Char} (h : Suits style s)
    (hwritten : ∀ indent, writeScalar indent v = writeStyled indent style s)
    (htokens : flatTokens v = [.scalar style (String.ofList s)]) : ReadsFlat v := by
  refine ⟨fun indent => ?_, fun indent => ?_, ?_⟩
  · rw [hwritten]
    exact writeStyled_ne_nil h indent
  · rw [hwritten]
    exact startsToken_writeStyled h indent
  · intro keyAllowed columns reversed c k next hend hlimit hc
    rw [hwritten] at hc ⊢
    rw [htokens]
    exact leads_scalar h hend hlimit hc

/-- A value written as a plain scalar is read as one. -/
theorem readsFlat_of_plain {v : Value} {s : List Char} (h : ReadsPlain s)
    (hwritten : ∀ indent, writeScalar indent v = s)
    (htokens : flatTokens v = [.scalar .plain (String.ofList s)]) : ReadsFlat v :=
  readsFlat_of_styled (.plain h) hwritten htokens

/-- A string is read in the style that it was written in. -/
theorem readsFlat_string (s : String) : ReadsFlat (.string s) := by
  refine readsFlat_of_styled (suits_styleOf s) (fun indent => writeString_eq indent s) ?_
  rw [String.ofList_toList]
  rfl

/-- An empty collection is read as its two marks. -/
theorem readsFlat_empty {v : Value} {opening closing : Char} {first last : Token}
    (h : FlowMarks opening closing first last)
    (hwritten : ∀ indent, writeScalar indent v = [opening, closing])
    (htokens : flatTokens v = [first, last]) : ReadsFlat v := by
  refine ⟨fun indent => ?_, fun indent => ?_, ?_⟩
  · rw [hwritten]
    exact List.cons_ne_nil _ _
  · rw [hwritten]
    cases h <;> exact startsToken_cons (by decide) _
  · intro keyAllowed columns reversed c k next hend hlimit hc
    rw [hwritten] at hc ⊢
    rw [htokens]
    exact leads_empty h hend hlimit hc

/-- A value without entries is a node that is read to the end of its line. -/
theorem readsNode_of_flat {v : Value} (hv : opener? v = none) (h : ReadsFlat v) : ReadsNode v := by
  refine ⟨fun _ => h, fun token htoken => ?_⟩
  rw [hv] at htoken
  cases htoken

/-- Items behind the first ones are read if each of them is. -/
theorem readsEntries_items {vs : List Value} (h : ∀ v ∈ vs, ReadsNode v) {item : List Char}
    {tokens : List Token} (hitem : ReadsEntries .blockSequenceStart column item tokens) :
    ReadsEntries .blockSequenceStart column (item ++ writeItems column item vs)
      (tokens ++ itemTokens vs) := by
  induction vs generalizing item tokens with
  | nil => simpa [writeItems, itemTokens] using hitem
  | cons v vs ih =>
    obtain ⟨hv, hvs⟩ := List.forall_mem_cons.mp h
    rw [writeItems_cons, itemTokens, ← List.cons_append]
    exact hitem.append (ih hvs (hv.item column))

/-- Members behind the first ones are read if each of their values is. -/
theorem readsEntries_members {ms : List (String × Value)} (h : ∀ m ∈ ms, ReadsNode m.2)
    {member : List Char} {tokens : List Token}
    (hmember : ReadsEntries .blockMappingStart column member tokens) :
    ReadsEntries .blockMappingStart column (member ++ writeMembers column member ms)
      (tokens ++ memberTokens ms) := by
  induction ms generalizing member tokens with
  | nil => simpa [writeMembers, memberTokens] using hmember
  | cons m ms ih =>
    obtain ⟨hm, hms⟩ := List.forall_mem_cons.mp h
    rw [writeMembers_cons, memberTokens]
    exact hmember.append (ih hms (hm.member m.1 column))

/-- A sequence is read if each of its items is. -/
theorem readsNode_array {items : List Value} (h : ∀ v ∈ items, ReadsNode v) :
    ReadsNode (.array items) := by
  cases items with
  | nil => exact readsNode_of_flat rfl (readsFlat_empty .sequence (fun _ => rfl) rfl)
  | cons v vs =>
    obtain ⟨hv, hvs⟩ := List.forall_mem_cons.mp h
    refine ⟨nofun, ?_⟩
    rintro token ⟨⟩ column
    rw [writeAt]
    exact readsEntries_items hvs (hv.item column)

/-- A mapping is read if each of its members' values is. -/
theorem readsNode_object {members : List (String × Value)} (h : ∀ m ∈ members, ReadsNode m.2) :
    ReadsNode (.object members) := by
  cases members with
  | nil => exact readsNode_of_flat rfl (readsFlat_empty .mapping (fun _ => rfl) rfl)
  | cons m ms =>
    obtain ⟨hm, hms⟩ := List.forall_mem_cons.mp h
    refine ⟨nofun, ?_⟩
    rintro token ⟨⟩ column
    rw [writeAt]
    exact readsEntries_members hms (hm.member m.1 column)

/-- What is written for a plain value is read as its tokens. -/
theorem readsNode_of_plain {depth : Nat} {v : Value} (h : v.Plain depth) : ReadsNode v := by
  induction h with
  | null =>
    exact readsNode_of_flat rfl (readsFlat_of_plain ⟨by decide, by decide⟩ (fun _ => rfl) rfl)
  | bool b =>
    refine readsNode_of_flat rfl (readsFlat_of_plain ?_ (fun _ => rfl) rfl)
    cases b <;> exact ⟨by decide, by decide⟩
  | int _ _ =>
    exact readsNode_of_flat rfl (readsFlat_of_plain (readsPlain_writeInt _) (fun _ => rfl) rfl)
  | string s => exact readsNode_of_flat rfl (readsFlat_string s)
  | array _ ih => exact readsNode_array ih
  | object _ _ ih => exact readsNode_object ih

end Scanner

end LayeredSchema.Yaml
