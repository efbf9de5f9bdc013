import LayeredSchema.Document.OrderedMap
import Mathlib.Data.List.Nodup

/-!
# Laws of ordered maps

A map answers for its keys, `mem_entries_iff` and `get?_eq_none_iff`. Writing entries over a map
keeps the places of its keys and appends the new ones in the order of their first appearance,
`keys_insertAll`; writing a whole map over another one is the choice of the upper value where there
is one, `get?_insertAll_entries`. Keys in their places and the values found under them are all there
is to a map, `eq_of_keys_eq`.
-/

namespace LayeredSchema.OrderedMap

variable {α : Type}

/-! ## Keys and values -/

theorem mem_keys_of_mem_entries {m : OrderedMap α} {entry : String × α} (h : entry ∈ m.entries) :
    entry.1 ∈ m.keys :=
  List.mem_map_of_mem h

/-- An entry list with distinct keys holds exactly what looking up finds. -/
theorem mem_iff_lookup_eq_some {entries : List (String × α)} (hnd : (entries.map Prod.fst).Nodup)
    {key : String} {value : α} :
    (key, value) ∈ entries ↔ entries.lookup key = some value := by
  induction entries with
  | nil => simp
  | cons entry rest ih =>
    obtain ⟨k, v⟩ := entry
    rw [List.map_cons, List.nodup_cons] at hnd
    rw [List.mem_cons, List.lookup_cons]
    by_cases hk : key = k
    · subst hk
      have hrest : (key, value) ∉ rest := fun hmem => hnd.1 (List.mem_map.mpr ⟨_, hmem, rfl⟩)
      simp [hrest, eq_comm]
    · rw [beq_false_of_ne hk]
      simp [hk, ih hnd.2]

/-- As keys are distinct, an entry is in a map exactly if look-up finds it. -/
theorem mem_entries_iff {m : OrderedMap α} {key : String} {value : α} :
    (key, value) ∈ m.entries ↔ m.get? key = some value :=
  mem_iff_lookup_eq_some m.distinct

/-- Look-up fails exactly for what is no key. -/
theorem lookup_eq_none_iff_not_mem {entries : List (String × α)} {key : String} :
    entries.lookup key = none ↔ key ∉ entries.map Prod.fst := by
  rw [List.lookup_eq_none_iff, List.mem_map]
  constructor
  · rintro h ⟨entry, hentry, rfl⟩
    simpa using h entry hentry
  · intro h entry hentry
    have hne : key ≠ entry.1 := fun heq => h ⟨entry, hentry, heq.symm⟩
    simpa using hne

/-- A map has nothing under what is no key of it. -/
theorem get?_eq_none_iff {m : OrderedMap α} {key : String} :
    m.get? key = none ↔ key ∉ m.keys :=
  lookup_eq_none_iff_not_mem

/-- A map has something under each of its keys. -/
theorem mem_keys_iff {m : OrderedMap α} {key : String} :
    key ∈ m.keys ↔ ∃ value, m.get? key = some value := by
  rw [← Option.isSome_iff_exists, ← Option.ne_none_iff_isSome, Ne, get?_eq_none_iff, not_not]

/-- Maps that agree on what is under a key agree on whether it is one. -/
theorem mem_keys_iff_of_get?_eq {m n : OrderedMap α} {key : String} (h : m.get? key = n.get? key) :
    key ∈ m.keys ↔ key ∈ n.keys := by
  rw [mem_keys_iff, mem_keys_iff, h]

/-- Mapping the values keeps every one under its key. -/
theorem get?_map {β : Type} (f : String → α → β) (m : OrderedMap α) (key : String) :
    (m.map f).get? key = (m.get? key).map (f key) := by
  show (m.entries.map fun entry => (entry.1, f entry.1 entry.2)).lookup key
    = (m.entries.lookup key).map (f key)
  generalize m.entries = entries
  induction entries with
  | nil => rfl
  | cons entry rest ih =>
    rw [List.map_cons, List.lookup_cons, List.lookup_cons, ih]
    by_cases h : key = entry.1
    · rw [h, beq_self_eq_true]
      rfl
    · rw [beq_false_of_ne h]

/-- A map can be read off its keys. -/
theorem entries_eq_filterMap_keys (m : OrderedMap α) :
    m.entries = m.keys.filterMap fun key => (m.get? key).map (key, ·) := by
  have hentry : ∀ entry ∈ m.entries, (m.get? entry.1).map (entry.1, ·) = some entry := by
    intro entry hmem
    rw [mem_entries_iff.mp hmem, Option.map_some]
  calc m.entries = m.entries.filterMap some := List.filterMap_some.symm
    _ = m.entries.filterMap fun entry => (m.get? entry.1).map (entry.1, ·) :=
      (List.filterMap_congr hentry).symm
    _ = m.keys.filterMap fun key => (m.get? key).map (key, ·) := by
      rw [keys, List.filterMap_map]
      rfl

/-- Maps with the same keys in the same places and with the same values are equal. -/
theorem eq_of_keys_eq {m n : OrderedMap α} (hkeys : m.keys = n.keys)
    (hget : ∀ key, m.get? key = n.get? key) : m = n := by
  apply ext_entries
  rw [entries_eq_filterMap_keys m, entries_eq_filterMap_keys n, hkeys]
  simp only [hget]

/-! ## Writing one entry -/

/-- Inserting touches what is under its own key only. -/
theorem get?_insert (m : OrderedMap α) (key other : String) (value : α) :
    (m.insert key value).get? other = if other = key then some value else m.get? other := by
  by_cases h : other = key
  · rw [if_pos h, h, get?_insert_self]
  · rw [if_neg h, get?_insert_of_ne m value h]

/-- A new key goes to the end, and a known one stays where it is. -/
theorem keys_insert (m : OrderedMap α) (key : String) (value : α) :
    (m.insert key value).keys = if key ∈ m.keys then m.keys else m.keys ++ [key] := by
  by_cases h : key ∈ m.keys
  · rw [if_pos h]
    exact keys_insertEntry_of_mem value h
  · rw [if_neg h]
    exact keys_insertEntry_of_not_mem value h

/-- An entry with a new key goes to the end. -/
theorem entries_insert_of_not_mem {m : OrderedMap α} {key : String} (value : α)
    (h : key ∉ m.keys) : (m.insert key value).entries = m.entries ++ [(key, value)] := by
  rw [entries_insert]
  rw [keys] at h
  generalize m.entries = entries at h
  induction entries with
  | nil => rfl
  | cons entry rest ih =>
    rw [List.map_cons, List.mem_cons, not_or] at h
    rw [insertEntry, if_neg (Ne.symm h.1), ih h.2, List.cons_append]

/-- Inserting adds its key to those of the map. -/
theorem mem_keys_insert {m : OrderedMap α} {key other : String} {value : α} :
    other ∈ (m.insert key value).keys ↔ other = key ∨ other ∈ m.keys := by
  rw [keys_insert]
  split_ifs with h
  · constructor
    · exact Or.inr
    · rintro (rfl | hother)
      · exact h
      · exact hother
  · rw [List.mem_append, List.mem_singleton, or_comm]

/-! ## Writing many entries -/

@[simp] theorem insertAll_nil (m : OrderedMap α) : m.insertAll [] = m := rfl

@[simp] theorem insertAll_cons (m : OrderedMap α) (entry : String × α)
    (rest : List (String × α)) :
    m.insertAll (entry :: rest) = (m.insert entry.1 entry.2).insertAll rest := rfl

/-- Inserting entries in two parts is inserting them all. -/
theorem insertAll_append (m : OrderedMap α) (first second : List (String × α)) :
    m.insertAll (first ++ second) = (m.insertAll first).insertAll second :=
  List.foldl_append

/-- The keys that a list names beyond some known ones, by first appearance. -/
def newKeys (known named : List String) : List String :=
  (named.filter fun key => key ∉ known).eraseDups

/-- A known key is not new. -/
theorem newKeys_cons_of_mem {known : List String} {key : String} (named : List String)
    (h : key ∈ known) : newKeys known (key :: named) = newKeys known named := by
  rw [newKeys, List.filter_cons_of_neg (by simpa using h), ← newKeys]

/-- A key that is not known is new, and known from then on. -/
theorem newKeys_cons_of_not_mem {known : List String} {key : String} (named : List String)
    (h : key ∉ known) :
    newKeys known (key :: named) = key :: newKeys (known ++ [key]) named := by
  rw [newKeys, List.filter_cons_of_pos (by simpa using h), List.eraseDups_cons,
    List.filter_filter, newKeys]
  congr 2
  refine List.filter_congr fun other _ => ?_
  by_cases hother : other = key <;> simp [hother]

/-- New keys are appended in the order in which they first appear among the written entries. -/
theorem keys_insertAll (m : OrderedMap α) (entries : List (String × α)) :
    (m.insertAll entries).keys = m.keys ++ newKeys m.keys (entries.map Prod.fst) := by
  induction entries generalizing m with
  | nil => simp [newKeys]
  | cons entry rest ih =>
    rw [insertAll_cons, ih, keys_insert, List.map_cons]
    -- a new key is a known one for the rest of the entries
    by_cases h : entry.1 ∈ m.keys
    · rw [if_pos h, newKeys_cons_of_mem _ h]
    · rw [if_neg h, newKeys_cons_of_not_mem _ h, List.append_assoc, List.singleton_append]

/-- Entries with distinct keys, written over a map: the written value where there is one. -/
theorem get?_insertAll (m : OrderedMap α) {entries : List (String × α)}
    (hnd : (entries.map Prod.fst).Nodup) (key : String) :
    (m.insertAll entries).get? key = (entries.lookup key).or (m.get? key) := by
  induction entries generalizing m with
  | nil => rfl
  | cons entry rest ih =>
    obtain ⟨k, v⟩ := entry
    rw [List.map_cons, List.nodup_cons] at hnd
    rw [insertAll_cons, List.lookup_cons]
    by_cases hk : key = k
    · -- the entry is the only one with its key, so nothing after it writes the key again
      subst hk
      rw [get?_insertAll_of_not_mem _ hnd.1, get?_insert_self, beq_self_eq_true]
      rfl
    · rw [ih _ hnd.2, get?_insert, if_neg hk, beq_false_of_ne hk]

/-- A map laid over another one comes first, and the one below stands in for what it lacks. -/
theorem get?_insertAll_entries (m layer : OrderedMap α) (key : String) :
    (m.insertAll layer.entries).get? key = (layer.get? key).or (m.get? key) :=
  get?_insertAll m layer.distinct key

/-- If no key is named twice, the new ones are those that are not known. -/
theorem newKeys_of_nodup {named : List String} (known : List String) (h : named.Nodup) :
    newKeys known named = named.filter fun key => key ∉ known := by
  have hnd : (named.filter fun key => key ∉ known).Nodup := h.filter _
  rw [newKeys]
  generalize named.filter (fun key => key ∉ known) = new at hnd
  induction new with
  | nil => rfl
  | cons key rest ih =>
    rw [List.nodup_cons] at hnd
    -- the first key does not come again, so nothing is removed on its account
    have hrest : rest.filter (fun other => !other == key) = rest := by
      rw [List.filter_eq_self]
      intro other hother
      have hne : other ≠ key := fun heq => hnd.1 (heq ▸ hother)
      simpa using hne
    rw [List.eraseDups_cons, hrest, ih hnd.2]

/-- The keys of a map that is written over another one are new unless that one has them. -/
theorem keys_insertAll_entries (m layer : OrderedMap α) :
    (m.insertAll layer.entries).keys = m.keys ++ layer.keys.filter fun key => key ∉ m.keys := by
  rw [keys_insertAll]
  exact congrArg (m.keys ++ ·) (newKeys_of_nodup m.keys layer.distinct)

/-- Entries with distinct keys are the entries of the map that they describe. -/
theorem entries_ofList {entries : List (String × α)} (hnd : (entries.map Prod.fst).Nodup) :
    (ofList entries).entries = entries := by
  -- entries are written over a map that has none of their keys yet
  suffices h : ∀ m : OrderedMap α, (∀ entry ∈ entries, entry.1 ∉ m.keys) →
      (m.insertAll entries).entries = m.entries ++ entries from
    h empty fun _ _ => List.not_mem_nil
  induction entries with
  | nil => simp
  | cons entry rest ih =>
    intro m hnew
    rw [List.map_cons, List.nodup_cons] at hnd
    have hentry : entry.1 ∉ m.keys := hnew entry List.mem_cons_self
    rw [insertAll_cons, ih hnd.2, entries_insert_of_not_mem _ hentry, List.append_assoc,
      List.singleton_append]
    intro other hother hmem
    rcases mem_keys_insert.mp hmem with heq | hm
    · exact hnd.1 (heq ▸ List.mem_map_of_mem hother)
    · exact hnew other (List.mem_cons_of_mem _ hother) hm

/-- Entries with distinct keys that are written one after the other stay as they are. -/
theorem insertEntries_nil {entries : List (String × α)} (hnd : (entries.map Prod.fst).Nodup) :
    insertEntries [] entries = entries :=
  (entries_insertAll .empty entries).symm.trans (entries_ofList hnd)

end LayeredSchema.OrderedMap
