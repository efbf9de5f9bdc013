import LayeredSchema.Proofs.Schema.Delivery

/-!
# The changed files of a batch

The event of a batch names the fragment files among the changed paths, in the order of the changes
and as often as they changed. One such path makes an event for its kind, and several make an event
for all of them.

* `map_snd_classified` takes the kinds away again, which leaves a part of the paths;
* `Batch.affectedPaths_changes` says that nothing is lost or added on the way to the event.
-/

namespace LayeredSchema

variable {paths : List Path} {kind : Kind} {path : Path}

/-! ## Paths with their kinds -/

/-- A path is classified if it is that of a fragment file, with the kind that it has. -/
theorem mem_classified :
    (kind, path) ∈ classified paths ↔ path ∈ paths ∧ classifyPath path = some kind := by
  rw [classified, List.mem_filterMap]
  constructor
  · rintro ⟨other, hmem, hother⟩
    obtain ⟨found, hfound, heq⟩ := Option.map_eq_some_iff.mp hother
    cases heq
    exact ⟨hmem, hfound⟩
  · rintro ⟨hmem, hkind⟩
    exact ⟨path, hmem, by rw [hkind, Option.map_some]⟩

/-- The classified paths are the changed ones that hold fragments, in their order. -/
theorem map_snd_classified (paths : List Path) :
    (classified paths).map Prod.snd = paths.filter fun path => (classifyPath path).isSome := by
  have hname : ∀ path tagged, (classifyPath path).map (·, path) = some tagged →
      tagged.2 = id path := by
    intro path tagged htagged
    obtain ⟨kind, -, rfl⟩ := Option.map_eq_some_iff.mp htagged
    rfl
  rw [classified, map_filterMap_eq_map_filter hname, List.map_id]
  simp only [Option.isSome_map]

/-- One change of a fragment file, whatever else has changed. -/
theorem classified_eq_singleton_iff :
    classified paths = [(kind, path)] ↔
      (paths.filter fun path => (classifyPath path).isSome) = [path] ∧
        classifyPath path = some kind := by
  constructor
  · intro h
    have hmem : (kind, path) ∈ classified paths := by
      rw [h]
      exact List.mem_singleton_self _
    refine ⟨?_, (mem_classified.mp hmem).2⟩
    rw [← map_snd_classified, h, List.map_singleton]
  · rintro ⟨hpaths, hkind⟩
    rw [← map_snd_classified, List.map_eq_singleton_iff] at hpaths
    obtain ⟨⟨found, other⟩, htagged, rfl⟩ := hpaths
    -- the kind that the path was tagged with is the one that it has
    have hmem : (found, other) ∈ classified paths := by
      rw [htagged]
      exact List.mem_singleton_self _
    have hfound : some found = some kind := (mem_classified.mp hmem).2.symm.trans hkind
    rw [htagged, Option.some.inj hfound]

/-! ## The event of paths -/

/-- An event of one fragment file stands for exactly one change. -/
theorem classifyPaths_eq_fragment_iff :
    classifyPaths paths = some (.fragment kind path) ↔ classified paths = [(kind, path)] := by
  rw [classifyPaths]
  rcases classified paths with _ | ⟨first, _ | ⟨second, rest⟩⟩ <;> simp [Prod.ext_iff]

/-- An event of several fragment files stands for at least two changes, all of them. -/
theorem classifyPaths_eq_batch_iff {several : List Path} :
    classifyPaths paths = some (.batch several) ↔
      (classified paths).map Prod.snd = several ∧ 2 ≤ (classified paths).length := by
  rw [classifyPaths]
  rcases classified paths with _ | ⟨first, _ | ⟨second, rest⟩⟩ <;> simp

/-- No path is lost between the classified paths and their event. -/
theorem affectedPaths_classifyPaths (paths : List Path) :
    (classifyPaths paths).toList.flatMap ChangeEvent.affectedPaths
      = (classified paths).map Prod.snd := by
  rw [classifyPaths]
  rcases classified paths with _ | ⟨first, _ | ⟨second, rest⟩⟩ <;>
    simp [ChangeEvent.affectedPaths]

namespace Batch

/-! ## The event of a batch -/

/-- The files that the event of a batch names, if it has one. -/
def affectedPaths (batch : Batch) : List Path :=
  batch.event?.toList.flatMap ChangeEvent.affectedPaths

/-- The changed paths that hold fragments, in the order of their changes. -/
def fragmentPaths (events : List PathEvent) : List Path :=
  (events.map PathEvent.path).filter fun path => (classifyPath path).isSome

/-- The fragment files that changes touch are the paths that are classified. -/
theorem fragmentPaths_eq (events : List PathEvent) :
    fragmentPaths events = (classified (events.map PathEvent.path)).map Prod.snd :=
  (map_snd_classified _).symm

/-- What a batch of changes affects is the fragment files that it touches, each as often as it
does. -/
theorem affectedPaths_changes (events : List PathEvent) :
    (changes events).affectedPaths = fragmentPaths events := by
  rw [fragmentPaths_eq, affectedPaths, event?, affectedPaths_classifyPaths]

/-- Batches that come one after the other touch what each of them does. -/
theorem fragmentPaths_append (first second : List PathEvent) :
    fragmentPaths (first ++ second) = fragmentPaths first ++ fragmentPaths second := by
  rw [fragmentPaths, List.map_append, List.filter_append, ← fragmentPaths, ← fragmentPaths]

variable {events : List PathEvent}

/-- There is no event exactly if no fragment file is touched. -/
theorem event?_changes_eq_none_iff :
    (changes events).event? = none ↔ fragmentPaths events = [] := by
  rw [fragmentPaths_eq, List.map_eq_nil_iff, event?, classifyPaths_eq_none_iff]

/-- There is an event of one file, with its kind, exactly if that is the only change of a fragment
file. -/
theorem event?_changes_eq_fragment_iff :
    (changes events).event? = some (.fragment kind path) ↔
      fragmentPaths events = [path] ∧ classifyPath path = some kind := by
  rw [event?, classifyPaths_eq_fragment_iff, classified_eq_singleton_iff, fragmentPaths]

/-- There is an event of several files exactly if there are at least two changes of fragment
files. -/
theorem event?_changes_eq_batch_iff :
    (changes events).event? = some (.batch paths) ↔
      fragmentPaths events = paths ∧ 2 ≤ (fragmentPaths events).length := by
  rw [fragmentPaths_eq, List.length_map, event?, classifyPaths_eq_batch_iff]

/-- One fragment path makes an event for its kind. -/
theorem exists_event?_changes_eq_fragment_iff :
    (∃ kind path, (changes events).event? = some (.fragment kind path)) ↔
      (fragmentPaths events).length = 1 := by
  simp only [event?_changes_eq_fragment_iff]
  constructor
  · rintro ⟨kind, path, hpaths, -⟩
    rw [hpaths, List.length_singleton]
  · intro hlength
    obtain ⟨path, hpaths⟩ := List.length_eq_one_iff.mp hlength
    have hmem : path ∈ fragmentPaths events := by
      rw [hpaths]
      exact List.mem_singleton_self path
    obtain ⟨kind, hkind⟩ := Option.isSome_iff_exists.mp (List.mem_filter.mp hmem).2
    exact ⟨kind, path, hpaths, hkind⟩

/-- Every changed fragment file is delivered. The event of a batch affects the fragment paths of the
batch, in their order and with their repetitions. There is no event exactly if there is no such
path. There is one for a fragment, with the kind of its path, exactly if there is one path, and one
for all paths exactly if there are more. A batch may be split without changing what is affected, and
every event asks for a reload. -/
theorem changed_files_delivered (events : List PathEvent) :
    (changes events).affectedPaths = fragmentPaths events ∧
    ((changes events).event? = none ↔ fragmentPaths events = []) ∧
    (∀ kind path, (changes events).event? = some (.fragment kind path) ↔
      fragmentPaths events = [path] ∧ classifyPath path = some kind) ∧
    ((∃ kind path, (changes events).event? = some (.fragment kind path)) ↔
      (fragmentPaths events).length = 1) ∧
    (∀ paths, (changes events).event? = some (.batch paths) ↔
      fragmentPaths events = paths ∧ 2 ≤ (fragmentPaths events).length) ∧
    (∀ first second, events = first ++ second →
      (changes first).affectedPaths ++ (changes second).affectedPaths
        = (changes events).affectedPaths) ∧
    (∀ event, (changes events).event? = some event → event.requiresReload = true) := by
  refine ⟨affectedPaths_changes events, event?_changes_eq_none_iff, ?_,
    exists_event?_changes_eq_fragment_iff, ?_, ?_, ?_⟩
  · intro kind path
    exact event?_changes_eq_fragment_iff
  · intro paths
    exact event?_changes_eq_batch_iff
  · intro first second hevents
    rw [affectedPaths_changes, affectedPaths_changes, affectedPaths_changes, hevents,
      fragmentPaths_append]
  · intro event hevent
    exact requiresReload_of_classifyPaths hevent

/-- A fragment file that changes twice, and a file of no interest between. -/
def repeatedChange : List PathEvent :=
  [⟨⟨"parts/OneTable.yaml"⟩, true⟩, ⟨⟨"parts/notes.txt"⟩, false⟩,
    ⟨⟨"parts/OneTable.yaml"⟩, false⟩]

/-- A file that has changed twice counts twice, and the event asks for a reload. -/
theorem changed_files_delivered_repeatedChange :
    repeatedChange = repeatedChange.take 2 ++ repeatedChange.drop 2 ∧
    (changes (repeatedChange.take 2)).affectedPaths
        ++ (changes (repeatedChange.drop 2)).affectedPaths
      = (changes repeatedChange).affectedPaths ∧
    (changes repeatedChange).event?
      = some (.batch [⟨"parts/OneTable.yaml"⟩, ⟨"parts/OneTable.yaml"⟩]) ∧
    (ChangeEvent.batch [⟨"parts/OneTable.yaml"⟩, ⟨"parts/OneTable.yaml"⟩]).requiresReload
      = true := by
  have hsplit : repeatedChange = repeatedChange.take 2 ++ repeatedChange.drop 2 := rfl
  have hevent : (changes repeatedChange).event?
      = some (.batch [⟨"parts/OneTable.yaml"⟩, ⟨"parts/OneTable.yaml"⟩]) := by decide
  obtain ⟨-, -, -, -, -, hsplits, hreload⟩ := changed_files_delivered repeatedChange
  exact ⟨hsplit, hsplits _ _ hsplit, hevent, hreload _ hevent⟩

end Batch

end LayeredSchema
