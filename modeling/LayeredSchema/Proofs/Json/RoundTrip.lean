import LayeredSchema.Proofs.Document.OrderedMap
import LayeredSchema.Proofs.Document.PlainValue
import LayeredSchema.Proofs.Json.Scalars
import LayeredSchema.Schema.Loader

/-!
# JSON text is read back

What is written for a plain value, in either layout and at any level, is read back from the front of
a text and leaves the rest of it, `takeValue_write`. The induction is on the depth of the value; an
array or object is read item by item, `takeItems_writeItems` and `takeMembers_writeMembers`, each
item leaving the comma or the bracket behind it.
-/

namespace LayeredSchema.Json

/-! ## Blanks -/

theorem skipSpace_cons {c : Char} (h : isSpace c = false) (cs : List Char) :
    skipSpace (c :: cs) = c :: cs := by
  unfold skipSpace
  rw [List.dropWhile_cons, h]
  rfl

/-- Blanks in front of a text are skipped, however many there are. -/
theorem skipSpace_append {blanks : List Char} (h : ∀ c ∈ blanks, isSpace c = true)
    (cs : List Char) : skipSpace (blanks ++ cs) = skipSpace cs := by
  unfold skipSpace
  exact List.dropWhile_append_of_pos h

/-- A layout puts nothing but blanks between values. -/
theorem isSpace_of_mem_lineBreak (layout : Layout) (level : Nat) :
    ∀ c ∈ layout.lineBreak level, isSpace c = true := by
  intro c hc
  cases layout with
  | compact => cases hc
  | pretty =>
    rcases List.mem_cons.mp hc with rfl | hblank
    · decide
    · rw [List.eq_of_mem_replicate hblank]
      decide

/-- So what a layout puts in is skipped. -/
theorem skipSpace_lineBreak (layout : Layout) (level : Nat) (cs : List Char) :
    skipSpace (layout.lineBreak level ++ cs) = skipSpace cs :=
  skipSpace_append (isSpace_of_mem_lineBreak layout level) cs

/-- A value may have blanks in front of it. -/
theorem takeValue_append {blanks : List Char} (h : ∀ c ∈ blanks, isSpace c = true) (depth : Nat)
    (cs : List Char) : takeValue depth (blanks ++ cs) = takeValue depth cs := by
  cases depth with
  | zero => simp only [takeValue, skipSpace_append h]
  | succ depth => simp only [takeValue, skipSpace_append h]

/-- A value may start on a line of its own. -/
theorem takeValue_lineBreak (layout : Layout) (level depth : Nat) (cs : List Char) :
    takeValue depth (layout.lineBreak level ++ cs) = takeValue depth cs :=
  takeValue_append (isSpace_of_mem_lineBreak layout level) depth cs

/-- Items may start on a line of their own. -/
theorem takeItems_lineBreak (layout : Layout) (level depth fuel : Nat) (cs : List Char) :
    takeItems (takeValue depth) fuel (layout.lineBreak level ++ cs)
      = takeItems (takeValue depth) fuel cs := by
  cases fuel with
  | zero => rfl
  | succ fuel => simp only [takeItems, takeValue_lineBreak]

/-- Members may start on a line of their own. -/
theorem takeMembers_lineBreak (layout : Layout) (level fuel : Nat)
    (item : List Char → Option (Value × List Char)) (cs : List Char) :
    takeMembers item fuel (layout.lineBreak level ++ cs) = takeMembers item fuel cs := by
  cases fuel with
  | zero => rfl
  | succ fuel => simp only [takeMembers, takeKey, skipSpace_lineBreak]

/-! ## Where values start and end -/

theorem eq_of_isSpace {c : Char} (h : isSpace c = true) :
    c = ' ' ∨ c = '\t' ∨ c = '\n' ∨ c = '\r' := by
  unfold isSpace at h
  simpa only [Bool.or_eq_true, decide_eq_true_eq, or_assoc] using h

/-- No integer starts with a blank. -/
theorem isSpace_of_startsInteger {c : Char} (h : startsInteger c = true) : isSpace c = false := by
  cases hspace : isSpace c with
  | false => rfl
  | true => rcases eq_of_isSpace hspace with rfl | rfl | rfl | rfl <;> exact absurd h (by decide)

/-- No blank stands in front of a value, and nothing that closes an array. -/
theorem write_eq_cons {depth : Nat} {v : Value} (h : v.Plain depth) (layout : Layout)
    (level : Nat) :
    ∃ c more, write layout level v = c :: more ∧ isSpace c = false ∧ c ≠ ']' := by
  cases h with
  | null => exact ⟨'n', _, rfl, by decide, by decide⟩
  | bool b =>
    cases b with
    | false => exact ⟨'f', _, rfl, by decide, by decide⟩
    | true => exact ⟨'t', _, rfl, by decide, by decide⟩
  | int _ _ =>
    obtain ⟨c, more, hwritten, hc⟩ := writeInt_eq_cons _
    refine ⟨c, more, hwritten, isSpace_of_startsInteger hc, ?_⟩
    rintro rfl
    exact absurd hc (by decide)
  | string s => exact ⟨'"', _, rfl, by decide, by decide⟩
  | @array _ items _ =>
    cases items with
    | nil => exact ⟨'[', _, rfl, by decide, by decide⟩
    | cons w ws => exact ⟨'[', _, rfl, by decide, by decide⟩
  | @object _ members _ _ =>
    cases members with
    | nil => exact ⟨'\x7b', _, rfl, by decide, by decide⟩
    | cons m ms => exact ⟨'\x7b', _, rfl, by decide, by decide⟩

/-- A numeral ends at a line break, and without one at what follows it. -/
theorem endsNumeral_lineBreak (layout : Layout) (level : Nat) {c : Char}
    (hc : continuesNumeral c = false) (rest : List Char) :
    EndsNumeral (layout.lineBreak level ++ c :: rest) := by
  cases layout with
  | compact => exact endsNumeral_cons hc rest
  | pretty => exact endsNumeral_cons (by decide) _

/-- A numeral among items ends at the comma or at the bracket. -/
theorem endsNumeral_writeItems (layout : Layout) (level : Nat) (vs : List Value)
    (rest : List Char) : EndsNumeral (writeItems layout level vs ++ rest) := by
  cases vs with
  | nil =>
    rw [writeItems, List.append_assoc]
    exact endsNumeral_lineBreak layout level (by decide) rest
  | cons v vs =>
    rw [writeItems]
    exact endsNumeral_cons (by decide) _

/-- A numeral among members ends at the comma or at the brace. -/
theorem endsNumeral_writeMembers (layout : Layout) (level : Nat) (ms : List (String × Value))
    (rest : List Char) : EndsNumeral (writeMembers layout level ms ++ rest) := by
  cases ms with
  | nil =>
    rw [writeMembers, List.append_assoc]
    exact endsNumeral_lineBreak layout level (by decide) rest
  | cons m ms =>
    rw [writeMembers]
    exact endsNumeral_cons (by decide) _

/-- Every item takes a character at least, so the length of the text bounds the loop over the
items. -/
theorem length_le_length_writeItems (layout : Layout) (level : Nat) (vs : List Value) :
    vs.length ≤ (writeItems layout level vs).length := by
  induction vs with
  | nil => exact Nat.zero_le _
  | cons v vs ih =>
    rw [writeItems]
    simp only [List.length_cons, List.length_append]
    omega

/-- Every member takes a character at least. -/
theorem length_le_length_writeMembers (layout : Layout) (level : Nat)
    (ms : List (String × Value)) : ms.length ≤ (writeMembers layout level ms).length := by
  induction ms with
  | nil => exact Nat.zero_le _
  | cons m ms ih =>
    rw [writeMembers]
    simp only [List.length_cons, List.length_append]
    omega

/-! ## Scalars as values -/

/-- What opens a collection or is a blank starts no scalar. -/
theorem takeScalar_eq_none {c : Char} (h : isSpace c = true ∨ c = '[' ∨ c = '\x7b')
    (cs : List Char) : takeScalar (c :: cs) = none := by
  rcases h with hspace | rfl | rfl
  · rcases eq_of_isSpace hspace with rfl | rfl | rfl | rfl <;> rfl
  · rfl
  · rfl

/-- A scalar is read as a value at any depth. -/
theorem takeValue_of_takeScalar {cs : List Char} {result : Value × List Char} (depth : Nat)
    (h : takeScalar cs = some result) : takeValue depth cs = some result := by
  cases cs with
  | nil => cases h
  | cons c more =>
    have hstart : ¬(isSpace c = true ∨ c = '[' ∨ c = '\x7b') := by
      intro hc
      rw [takeScalar_eq_none hc] at h
      cases h
    obtain ⟨hspace, hbracket, hbrace⟩ : ¬isSpace c = true ∧ c ≠ '[' ∧ c ≠ '\x7b' := by
      simpa only [not_or] using hstart
    have hskip : skipSpace (c :: more) = c :: more :=
      skipSpace_cons (Bool.eq_false_iff.mpr hspace) more
    cases depth
    all_goals
      unfold takeValue
      rw [hskip]
      split
      · next heq => exact absurd (List.cons.inj heq).1 hbracket
      · next heq => exact absurd (List.cons.inj heq).1 hbrace
      · exact h

/-! ## Arrays and objects -/

/-- A value that is read back from what is written for it, at any level and whatever follows, as
long as no numeral goes on there. -/
def ReadsBack (layout : Layout) (depth : Nat) (v : Value) : Prop :=
  ∀ level rest, EndsNumeral rest → takeValue depth (write layout level v ++ rest) = some (v, rest)

/-- The items behind the bracket are read up to the end of the array. -/
theorem takeItems_writeItems {layout : Layout} {depth : Nat} {v : Value} {vs : List Value}
    (h : ∀ w ∈ v :: vs, ReadsBack layout depth w) (level : Nat) {fuel : Nat}
    (hfuel : vs.length < fuel) (rest : List Char) :
    takeItems (takeValue depth) fuel
        (write layout (level + 1) v ++ (writeItems layout level vs ++ rest))
      = some (v :: vs, rest) := by
  induction vs generalizing v fuel with
  | nil =>
    cases fuel with
    | zero => cases hfuel
    | succ fuel =>
      have hv := h v List.mem_cons_self (level + 1) _ (endsNumeral_writeItems layout level [] rest)
      rw [takeItems, hv, writeItems, List.append_assoc]
      simp [skipSpace_lineBreak, skipSpace_cons (c := ']') (by decide)]
  | cons w ws ih =>
    cases fuel with
    | zero => cases hfuel
    | succ fuel =>
      have hv := h v List.mem_cons_self (level + 1) _
        (endsNumeral_writeItems layout level (w :: ws) rest)
      have hws := ih (fun u hu => h u (List.mem_cons_of_mem v hu)) (Nat.lt_of_succ_lt_succ hfuel)
      rw [takeItems, hv, writeItems, List.cons_append, List.append_assoc, List.append_assoc]
      simp [skipSpace_cons (c := ',') (by decide), takeItems_lineBreak, hws]

/-- A key is read up to its colon. -/
theorem takeKey_quoted (layout : Layout) (key : String) (cs : List Char) :
    takeKey (quoted key ++ (layout.colon ++ cs)) = some (key, layout.colon.tail ++ cs) := by
  have hcolon : skipSpace (layout.colon ++ cs) = ':' :: (layout.colon.tail ++ cs) := by
    cases layout with
    | compact => exact skipSpace_cons (by decide) cs
    | pretty => exact skipSpace_cons (by decide) (' ' :: cs)
  rw [quoted_append]
  unfold takeKey
  rw [skipSpace_cons (by decide)]
  simp [takeString_escaped, hcolon]

/-- The blank that a layout may put behind a colon is skipped. -/
theorem takeValue_colon (layout : Layout) (depth : Nat) (cs : List Char) :
    takeValue depth (layout.colon.tail ++ cs) = takeValue depth cs := by
  apply takeValue_append
  intro c hc
  cases layout with
  | compact => cases hc
  | pretty =>
    rw [List.mem_singleton.mp hc]
    decide

/-- The members behind the brace are read up to the end of the object. -/
theorem takeMembers_writeMembers {layout : Layout} {depth : Nat} {key : String} {v : Value}
    {ms : List (String × Value)} (h : ∀ m ∈ (key, v) :: ms, ReadsBack layout depth m.2)
    (level : Nat) {fuel : Nat} (hfuel : ms.length < fuel) (rest : List Char) :
    takeMembers (takeValue depth) fuel
        (quoted key ++ (layout.colon ++ (write layout (level + 1) v
          ++ (writeMembers layout level ms ++ rest))))
      = some ((key, v) :: ms, rest) := by
  induction ms generalizing key v fuel with
  | nil =>
    cases fuel with
    | zero => cases hfuel
    | succ fuel =>
      have hv := h (key, v) List.mem_cons_self (level + 1) _
        (endsNumeral_writeMembers layout level [] rest)
      rw [takeMembers, takeKey_quoted]
      dsimp only [Option.bind_eq_bind, Option.bind_some]
      rw [takeValue_colon, hv, writeMembers, List.append_assoc]
      simp [skipSpace_lineBreak, skipSpace_cons (c := '\x7d') (by decide)]
  | cons m ms ih =>
    cases fuel with
    | zero => cases hfuel
    | succ fuel =>
      have hv := h (key, v) List.mem_cons_self (level + 1) _
        (endsNumeral_writeMembers layout level (m :: ms) rest)
      have hms := ih (fun n hn => h n (List.mem_cons_of_mem _ hn)) (Nat.lt_of_succ_lt_succ hfuel)
      rw [takeMembers, takeKey_quoted]
      dsimp only [Option.bind_eq_bind, Option.bind_some]
      rw [takeValue_colon, hv, writeMembers]
      simp [skipSpace_cons (c := ',') (by decide), takeMembers_lineBreak, hms]

/-- An array that is not empty is its items, read with one level less. -/
theorem takeValue_array {depth : Nat} {c : Char} {cs more rest : List Char} {items : List Value}
    (hskip : skipSpace cs = c :: more) (hc : c ≠ ']')
    (hitems : takeItems (takeValue depth) ((c :: more).length + 1) (c :: more)
      = some (items, rest)) :
    takeValue (depth + 1) ('[' :: cs) = some (.array items, rest) := by
  rw [takeValue, skipSpace_cons (by decide)]
  simp only [hskip]
  split
  · next heq => exact absurd (List.cons.inj heq).1 hc
  · rw [hitems]
    rfl

/-- An array is read back if each of its items is, one level deeper. -/
theorem readsBack_array {layout : Layout} {depth : Nat} {items : List Value}
    (hplain : ∀ v ∈ items, v.Plain depth) (h : ∀ v ∈ items, ReadsBack layout depth v) :
    ReadsBack layout (depth + 1) (.array items) := by
  intro level rest _
  cases items with
  | nil => rfl
  | cons v vs =>
    have hopen : write layout level (.array (v :: vs)) ++ rest
        = '[' :: (layout.lineBreak (level + 1) ++ (write layout (level + 1) v
          ++ (writeItems layout level vs ++ rest))) := by
      rw [write]
      simp only [List.cons_append, List.append_assoc]
    obtain ⟨c, more, hwritten, hspace, hclose⟩ :=
      write_eq_cons (hplain v List.mem_cons_self) layout (level + 1)
    -- the loop may take as many turns as the text has characters, and a comma stands before each
    -- further item
    have hfuel : vs.length < (write layout (level + 1) v
        ++ (writeItems layout level vs ++ rest)).length + 1 := by
      have := length_le_length_writeItems layout level vs
      simp only [List.length_append]
      omega
    have hitems := takeItems_writeItems h level hfuel rest
    rw [hwritten, List.cons_append] at hopen hitems
    rw [hopen]
    apply takeValue_array _ hclose hitems
    rw [skipSpace_lineBreak, skipSpace_cons hspace]

/-- An object that is not empty is its members, read with one level less; no two of them share a
key, so all are kept. -/
theorem takeValue_object {depth : Nat} {cs more rest : List Char} {ms : List (String × Value)}
    (hskip : skipSpace cs = '"' :: more) (hkeys : (ms.map Prod.fst).Nodup)
    (hmembers : takeMembers (takeValue depth) (('"' :: more).length + 1) ('"' :: more)
      = some (ms, rest)) :
    takeValue (depth + 1) ('\x7b' :: cs) = some (.object ms, rest) := by
  rw [takeValue, skipSpace_cons (by decide)]
  simp only [hskip]
  split
  · next heq => exact absurd (List.cons.inj heq).1 (by decide)
  · rw [hmembers]
    simp [OrderedMap.insertEntries_nil hkeys]

/-- An object is read back if each of its members' values is, one level deeper. -/
theorem readsBack_object {layout : Layout} {depth : Nat} {members : List (String × Value)}
    (hkeys : (members.map Prod.fst).Nodup) (h : ∀ m ∈ members, ReadsBack layout depth m.2) :
    ReadsBack layout (depth + 1) (.object members) := by
  intro level rest _
  cases members with
  | nil => rfl
  | cons m ms =>
    obtain ⟨key, v⟩ := m
    have hopen : write layout level (.object ((key, v) :: ms)) ++ rest
        = '\x7b' :: (layout.lineBreak (level + 1) ++ (quoted key ++ (layout.colon
          ++ (write layout (level + 1) v ++ (writeMembers layout level ms ++ rest))))) := by
      rw [write]
      simp only [List.cons_append, List.append_assoc]
    have hfuel : ms.length < (quoted key ++ (layout.colon ++ (write layout (level + 1) v
        ++ (writeMembers layout level ms ++ rest)))).length + 1 := by
      have := length_le_length_writeMembers layout level ms
      simp only [List.length_append]
      omega
    have hmembers := takeMembers_writeMembers h level hfuel rest
    rw [quoted_append] at hopen hmembers
    rw [hopen]
    apply takeValue_object _ hkeys hmembers
    rw [skipSpace_lineBreak, skipSpace_cons (by decide)]

/-! ## Values -/

/-- A plain value is read back from what is written for it. -/
theorem takeValue_write {depth : Nat} {v : Value} (h : v.Plain depth) (layout : Layout) :
    ReadsBack layout depth v := by
  induction h with
  | null => exact fun _ _ _ => takeValue_of_takeScalar _ rfl
  | bool b =>
    intro level rest _
    cases b with
    | false => exact takeValue_of_takeScalar _ rfl
    | true => exact takeValue_of_takeScalar _ rfl
  | int hlow hhigh =>
    intro level rest hrest
    exact takeValue_of_takeScalar _ (takeScalar_writeInt (fitsEither_of_bounds hlow hhigh) hrest)
  | string s => exact fun _ rest _ => takeValue_of_takeScalar _ (takeScalar_quoted s rest)
  | array hitems ih => exact readsBack_array hitems ih
  | object hkeys _ ih => exact readsBack_object hkeys ih

/-- The text of a plain value, with the line break behind it, has the value. -/
theorem read_text {v : Value} (h : v.Plain greatestDepth) (layout : Layout) :
    read (text layout v ++ "\n") = some v := by
  have hchars : (text layout v ++ "\n").toList = write layout 0 v ++ ['\n'] := by
    rw [String.toList_append]
    unfold text
    rw [String.toList_ofList]
    rfl
  unfold read
  rw [hchars, takeValue_write h layout 0 ['\n'] (endsNumeral_cons (by decide) [])]
  rfl

/-! ## One line -/

/-- A text without control characters, line breaks among them. -/
def OnOneLine (cs : List Char) : Prop :=
  ∀ c ∈ cs, 0x20 ≤ c.toNat

instance (cs : List Char) : Decidable (OnOneLine cs) :=
  List.decidableBAll (fun c : Char => 0x20 ≤ c.toNat) cs

theorem onOneLine_append {front back : List Char} :
    OnOneLine (front ++ back) ↔ OnOneLine front ∧ OnOneLine back :=
  List.forall_mem_append

theorem onOneLine_cons {c : Char} {cs : List Char} :
    OnOneLine (c :: cs) ↔ 0x20 ≤ c.toNat ∧ OnOneLine cs :=
  List.forall_mem_cons

/-- Control characters in strings are escaped, line feeds among them. -/
theorem onOneLine_quoted (s : String) : OnOneLine (quoted s) := by
  have hchars : OnOneLine (s.toList.flatMap escaped) := by
    intro d hd
    obtain ⟨c, -, hc⟩ := List.mem_flatMap.mp hd
    exact le_toNat_of_mem_escaped hc
  unfold quoted
  rw [onOneLine_cons, onOneLine_append]
  exact ⟨by decide, hchars, by decide⟩

theorem onOneLine_writeInt (n : Int) : OnOneLine (writeInt n) := by
  have hdigits : OnOneLine (Nat.toDigits 10 n.natAbs) := by
    intro c hc
    exact (Numeral.toNat_of_isDigit
      (Numeral.isDigit_of_mem_toDigits (by decide) (by decide) _ c hc)).1
  unfold writeInt
  split_ifs
  · exact onOneLine_cons.mpr ⟨by decide, hdigits⟩
  · exact hdigits

/-- In the compact layout nothing stands between items but a comma. -/
theorem onOneLine_writeItems {vs : List Value}
    (h : ∀ v ∈ vs, ∀ level, OnOneLine (write .compact level v)) (level : Nat) :
    OnOneLine (writeItems .compact level vs) := by
  induction vs with
  | nil =>
    show OnOneLine [']']
    decide
  | cons v vs ih =>
    have hv := h v List.mem_cons_self (level + 1)
    have hvs := ih fun w hw => h w (List.mem_cons_of_mem v hw)
    rw [writeItems, onOneLine_cons, onOneLine_append]
    exact ⟨by decide, hv, hvs⟩

/-- In the compact layout a key and its value stand on one line. -/
theorem onOneLine_member (key : String) {v : Value} {level : Nat}
    (h : OnOneLine (write .compact level v)) :
    OnOneLine (Layout.compact.lineBreak level ++ quoted key ++ Layout.compact.colon
      ++ write .compact level v) := by
  have hcolon : OnOneLine Layout.compact.colon := by decide
  have hkey : OnOneLine (Layout.compact.lineBreak level ++ quoted key) := onOneLine_quoted key
  exact onOneLine_append.mpr ⟨onOneLine_append.mpr ⟨hkey, hcolon⟩, h⟩

/-- In the compact layout nothing stands between members but a comma. -/
theorem onOneLine_writeMembers {ms : List (String × Value)}
    (h : ∀ m ∈ ms, ∀ level, OnOneLine (write .compact level m.2)) (level : Nat) :
    OnOneLine (writeMembers .compact level ms) := by
  induction ms with
  | nil =>
    show OnOneLine ['\x7d']
    decide
  | cons m ms ih =>
    have hm := onOneLine_member m.1 (h m List.mem_cons_self (level + 1))
    have hms := ih fun n hn => h n (List.mem_cons_of_mem m hn)
    rw [writeMembers, onOneLine_cons, onOneLine_append]
    exact ⟨by decide, hm, hms⟩

/-- A plain value in the compact layout stands on one line. -/
theorem onOneLine_write {depth : Nat} {v : Value} (h : v.Plain depth) (level : Nat) :
    OnOneLine (write .compact level v) := by
  induction h generalizing level with
  | null =>
    show OnOneLine "null".toList
    decide
  | bool b =>
    cases b with
    | false =>
      show OnOneLine "false".toList
      decide
    | true =>
      show OnOneLine "true".toList
      decide
  | int _ _ => exact onOneLine_writeInt _
  | string s => exact onOneLine_quoted s
  | @array _ items _ ih =>
    cases items with
    | nil =>
      show OnOneLine ['[', ']']
      decide
    | cons v vs =>
      have hv := ih v List.mem_cons_self (level + 1)
      have hvs := onOneLine_writeItems (fun w hw => ih w (List.mem_cons_of_mem v hw)) level
      rw [write, onOneLine_cons, onOneLine_append]
      exact ⟨by decide, hv, hvs⟩
  | @object _ members _ _ ih =>
    cases members with
    | nil =>
      show OnOneLine ['\x7b', '\x7d']
      decide
    | cons m ms =>
      have hm := onOneLine_member m.1 (ih m List.mem_cons_self (level + 1))
      have hms := onOneLine_writeMembers (fun n hn => ih n (List.mem_cons_of_mem m hn)) level
      rw [write, onOneLine_cons, onOneLine_append]
      exact ⟨by decide, hm, hms⟩

end LayeredSchema.Json

namespace LayeredSchema.OutputFormat

/-- A plain value is read back from its rendering as JSON, indented or not, with the order of its
keys; what is not indented has no line break before its last character. -/
theorem json_read_back {value : Value} (hvalue : value.Plain 127) {path : Path}
    (hpath : path.extension? = some "json") :
    (∀ pretty, parseFragment path (json.render value pretty) = .ok value) ∧
      ∃ line, (json.render value false).toList = line ++ ['\n'] ∧ '\n' ∉ line := by
  constructor
  · intro pretty
    have hread : SourceFormat.json.read (json.render value pretty) = some value :=
      Json.read_text hvalue _
    have hformat : SourceFormat.ofExtension? "json" = some .json := rfl
    simp only [parseFragment, hpath, Option.getD_some, hformat, hread]
  · refine ⟨Json.write .compact 0 value, ?_, ?_⟩
    · show (String.ofList (Json.write .compact 0 value) ++ "\n").toList = _
      rw [String.toList_append, String.toList_ofList]
      rfl
    · intro hbreak
      have hcontrol := Json.onOneLine_write hvalue 0 '\n' hbreak
      exact absurd hcontrol (by decide)

/-- Both limits of the integers, escapes and characters beyond ASCII in strings and keys, and empty
collections. -/
def limitsDocument : Value :=
  .object
    [("\"\n\x01é",
        .array [.null, .bool true, .int (-9223372036854775808), .int 18446744073709551615]),
      ("a", .object []), ("", .string "\\/\x7f—")]

/-- The document holds the least and the greatest integers, and its keys are distinct. -/
theorem limitsDocument_plain : limitsDocument.Plain 127 := by
  apply Value.Plain.object (by decide)
  simp only [List.forall_mem_cons, List.not_mem_nil, false_implies, implies_true, and_true]
  refine ⟨.array ?_, .object (by decide) ?_, .string _⟩
  · simp only [List.forall_mem_cons, List.not_mem_nil, false_implies, implies_true, and_true]
    exact ⟨.null, .bool true, .int (by decide) (by decide), .int (by decide) (by decide)⟩
  · intro m hm
    cases hm

/-- The document comes back from either layout, through the file name of a fragment. -/
theorem json_read_back_limits :
    limitsDocument.Plain 127 ∧ Path.extension? ⟨"CloudSchema.json"⟩ = some "json" ∧
    parseFragment ⟨"CloudSchema.json"⟩ (json.render limitsDocument true) = .ok limitsDocument ∧
    parseFragment ⟨"CloudSchema.json"⟩ (json.render limitsDocument false) = .ok limitsDocument := by
  have hpath : Path.extension? ⟨"CloudSchema.json"⟩ = some "json" := by decide
  obtain ⟨hread, -⟩ := json_read_back limitsDocument_plain hpath
  exact ⟨limitsDocument_plain, hpath, hread true, hread false⟩

end LayeredSchema.OutputFormat
