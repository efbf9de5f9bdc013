/-!
# Maps that keep the order of insertion

An `OrderedMap` is a list of entries whose keys are distinct. Writing a key that is present
replaces its value where it stands; a new key goes to the end.
-/

namespace LayeredSchema

/-! ## Entry lists -/

/-- Writes an entry: the value of a present key is replaced in place, a new key is appended. -/
def insertEntry {α : Type} (key : String) (value : α) : List (String × α) → List (String × α)
  | [] => [(key, value)]
  | (k, v) :: rest =>
    if k = key then (k, value) :: rest else (k, v) :: insertEntry key value rest

/-- Writes the entries one after the other, so a repeated key keeps its first position and takes
its last value. -/
def insertEntries {α : Type} (entries written : List (String × α)) : List (String × α) :=
  written.foldl (fun acc entry => insertEntry entry.1 entry.2 acc) entries

@[simp] theorem keys_insertEntry_of_mem {α : Type} {key : String} (value : α)
    {entries : List (String × α)} (h : key ∈ entries.map Prod.fst) :
    (insertEntry key value entries).map Prod.fst = entries.map Prod.fst := by
  induction entries with
  | nil => simp at h
  | cons entry rest ih =>
    obtain ⟨k, v⟩ := entry
    by_cases hk : k = key
    · simp [insertEntry, hk]
    · have : key ∈ rest.map Prod.fst := by simpa [Ne.symm hk] using h
      simp only [insertEntry, if_neg hk, List.map_cons, ih this]

@[simp] theorem keys_insertEntry_of_not_mem {α : Type} {key : String} (value : α)
    {entries : List (String × α)} (h : key ∉ entries.map Prod.fst) :
    (insertEntry key value entries).map Prod.fst = entries.map Prod.fst ++ [key] := by
  induction entries with
  | nil => rfl
  | cons entry rest ih =>
    obtain ⟨k, v⟩ := entry
    simp only [List.map_cons, List.mem_cons, not_or] at h
    simp only [insertEntry, if_neg (Ne.symm h.1), List.map_cons, List.cons_append, ih h.2]

theorem nodup_keys_insertEntry {α : Type} (key : String) (value : α)
    {entries : List (String × α)} (h : (entries.map Prod.fst).Nodup) :
    ((insertEntry key value entries).map Prod.fst).Nodup := by
  by_cases hk : key ∈ entries.map Prod.fst
  · rw [keys_insertEntry_of_mem value hk]; exact h
  · rw [keys_insertEntry_of_not_mem value hk, List.nodup_append]
    refine ⟨h, by simp, fun a ha b hb => ?_⟩
    rw [List.mem_singleton] at hb
    rintro rfl
    exact hk (hb ▸ ha)

@[simp] theorem lookup_insertEntry_self {α : Type} (key : String) (value : α)
    (entries : List (String × α)) : (insertEntry key value entries).lookup key = some value := by
  induction entries with
  | nil => simp [insertEntry]
  | cons entry rest ih =>
    obtain ⟨k, v⟩ := entry
    by_cases hk : k = key
    · simp [insertEntry, hk]
    · simp only [insertEntry, if_neg hk, List.lookup_cons, beq_false_of_ne (Ne.symm hk), ih]

theorem lookup_insertEntry_of_ne {α : Type} {key other : String} (value : α)
    (entries : List (String × α)) (h : other ≠ key) :
    (insertEntry key value entries).lookup other = entries.lookup other := by
  induction entries with
  | nil => simp [insertEntry, List.lookup_cons, beq_false_of_ne h]
  | cons entry rest ih =>
    obtain ⟨k, v⟩ := entry
    by_cases hk : k = key
    · subst hk
      simp [insertEntry, List.lookup_cons, beq_false_of_ne h]
    · simp only [insertEntry, if_neg hk, List.lookup_cons, ih]

/-! ## Maps -/

/-- Entries in order of first insertion, no key twice. -/
structure OrderedMap (α : Type) where
  entries : List (String × α)
  distinct : (entries.map Prod.fst).Nodup

namespace OrderedMap

variable {α : Type}

theorem ext_entries {m n : OrderedMap α} (h : m.entries = n.entries) : m = n := by
  cases m; cases n; cases h; rfl

instance [DecidableEq α] : DecidableEq (OrderedMap α) := fun m n =>
  decidable_of_iff (m.entries = n.entries) ⟨ext_entries, fun h => h ▸ rfl⟩

/-- The map without entries. -/
def empty : OrderedMap α := ⟨[], by simp⟩

instance : Inhabited (OrderedMap α) := ⟨empty⟩

/-- The keys in order. -/
def keys (m : OrderedMap α) : List String :=
  m.entries.map Prod.fst

/-- The number of keys. -/
def size (m : OrderedMap α) : Nat :=
  m.entries.length

/-- The value of a key. -/
def get? (m : OrderedMap α) (key : String) : Option α :=
  m.entries.lookup key

/-- Writes a key, in place if it is present, at the end if it is new. -/
def insert (m : OrderedMap α) (key : String) (value : α) : OrderedMap α :=
  ⟨insertEntry key value m.entries, nodup_keys_insertEntry key value m.distinct⟩

/-- Writes all entries of a list in order. -/
def insertAll (m : OrderedMap α) (entries : List (String × α)) : OrderedMap α :=
  entries.foldl (fun acc entry => acc.insert entry.1 entry.2) m

/-- The map that a list of entries describes when later entries overwrite earlier ones. -/
def ofList (entries : List (String × α)) : OrderedMap α :=
  empty.insertAll entries

/-- Applies a function to every value. -/
def map {β : Type} (f : String → α → β) (m : OrderedMap α) : OrderedMap β :=
  ⟨m.entries.map fun entry => (entry.1, f entry.1 entry.2), by
    have h := m.distinct
    rwa [List.map_map]⟩

@[simp] theorem entries_insert (m : OrderedMap α) (key : String) (value : α) :
    (m.insert key value).entries = insertEntry key value m.entries := rfl

@[simp] theorem get?_insert_self (m : OrderedMap α) (key : String) (value : α) :
    (m.insert key value).get? key = some value :=
  lookup_insertEntry_self key value m.entries

theorem get?_insert_of_ne (m : OrderedMap α) {key other : String} (value : α) (h : other ≠ key) :
    (m.insert key value).get? other = m.get? other :=
  lookup_insertEntry_of_ne value m.entries h

/-- A key that no written entry has keeps its value. -/
theorem get?_insertAll_of_not_mem (m : OrderedMap α) {entries : List (String × α)} {key : String}
    (h : key ∉ entries.map Prod.fst) : (m.insertAll entries).get? key = m.get? key := by
  induction entries generalizing m with
  | nil => rfl
  | cons entry rest ih =>
    simp only [List.map_cons, List.mem_cons, not_or] at h
    rw [insertAll, List.foldl_cons, ← insertAll, ih _ h.2, get?_insert_of_ne m entry.2 h.1]

theorem entries_insertAll (m : OrderedMap α) (entries : List (String × α)) :
    (m.insertAll entries).entries = insertEntries m.entries entries := by
  induction entries generalizing m with
  | nil => rfl
  | cons entry rest ih =>
    rw [insertAll, List.foldl_cons, ← insertAll, ih]
    rfl

end OrderedMap

end LayeredSchema
