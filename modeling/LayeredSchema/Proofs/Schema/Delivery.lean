import LayeredSchema.Proofs.Lists
import LayeredSchema.Schema.Watch
import Mathlib.Data.List.Induction

/-!
# Delivery of changes

The watcher publishes at most one event for a batch, and the channel holds the latest event only.
Changes and failures share the channel, so what the receiver obtains after a run of batches hangs on
their order: a failure takes the place of a change that has not been seen.

* `Batch.requiresReload_of_event?` tells the events of a batch with fragment files from those of a
  failure;
* `ChangeStands` is the condition on a run, `changeStands_concat` how one batch changes it.
-/

namespace LayeredSchema

theorem classifyPaths_eq_none_iff {paths : List Path} :
    classifyPaths paths = none ↔ classified paths = [] := by
  rw [classifyPaths]
  rcases classified paths with _ | ⟨first, _ | ⟨second, rest⟩⟩ <;> simp

namespace Batch

/-! ## The event of one batch -/

/-- Whether a batch names a file that holds a fragment. -/
def holdsFragment : Batch → Bool
  | changes events => events.any fun event => (classifyPath event.path).isSome
  | failure _ => false

/-- Whether a batch is a failure of the notifier. -/
def isFailure : Batch → Bool
  | changes _ => false
  | failure _ => true

theorem classified_eq_nil_iff (events : List PathEvent) :
    classified (events.map PathEvent.path) = [] ↔ (changes events).holdsFragment = false := by
  rw [classified, List.filterMap_eq_nil_iff, holdsFragment, List.any_eq_false]
  constructor
  · intro h event hevent
    have hpath := h event.path (List.mem_map_of_mem hevent)
    rw [Option.map_eq_none_iff] at hpath
    simp [hpath]
  · intro h path hpath
    obtain ⟨event, hevent, rfl⟩ := List.mem_map.mp hpath
    have hnone := h event hevent
    rw [Option.not_isSome_iff_eq_none] at hnone
    rw [hnone, Option.map_none]

/-- An event of changed paths is one that asks for a reload. -/
theorem requiresReload_of_classifyPaths {paths : List Path} {event : ChangeEvent}
    (h : classifyPaths paths = some event) : event.requiresReload = true := by
  unfold classifyPaths at h
  split at h
  · cases h
  · cases h
    rfl
  · cases h
    rfl

theorem event?_eq_none_iff {batch : Batch} :
    batch.event? = none ↔ batch.holdsFragment = false ∧ batch.isFailure = false := by
  cases batch with
  | failure message => simp [event?, isFailure]
  | changes events =>
    rw [event?, classifyPaths_eq_none_iff, classified_eq_nil_iff]
    simp [isFailure]

/-- A batch that publishes has fragment files, and then it asks for a reload, or it is a failure. -/
theorem requiresReload_of_event? {batch : Batch} {event : ChangeEvent}
    (h : batch.event? = some event) :
    event.requiresReload = batch.holdsFragment ∧ batch.isFailure = !batch.holdsFragment := by
  cases batch with
  | failure message =>
    cases h
    exact ⟨rfl, rfl⟩
  | changes events =>
    -- a batch without fragment files would have published nothing
    have hfragment : (changes events).holdsFragment = true := by
      rw [← Bool.not_eq_false]
      intro hnone
      rw [event?_eq_none_iff.mpr ⟨hnone, rfl⟩] at h
      cases h
    rw [hfragment]
    exact ⟨requiresReload_of_classifyPaths h, rfl⟩

end Batch

/-! ## Runs of batches -/

/-- Some batch of the run names a fragment file, and no failure comes after it. -/
def ChangeStands (batches : List Batch) : Prop :=
  ∃ batch, batch.holdsFragment = true ∧
    ∃ before after, batches = before ++ batch :: after ∧ ∀ later ∈ after, later.isFailure = false

/-- A batch with a fragment file makes the condition hold, a failure breaks it, and other batches
leave it as it is. -/
theorem changeStands_concat {batches : List Batch} {batch : Batch} :
    ChangeStands (batches ++ [batch]) ↔
      batch.holdsFragment = true ∨ (batch.isFailure = false ∧ ChangeStands batches) := by
  rw [ChangeStands]
  simp only [exists_split_concat_iff]
  constructor
  · rintro ⟨change, hchange, rfl | ⟨hbatch, hbatches⟩⟩
    · exact Or.inl hchange
    · exact Or.inr ⟨hbatch, change, hchange, hbatches⟩
  · rintro (hbatch | ⟨hbatch, change, hchange, hbatches⟩)
    · exact ⟨batch, hbatch, Or.inl rfl⟩
    · exact ⟨change, hchange, Or.inr ⟨hbatch, hbatches⟩⟩

namespace Channel

theorem feed_of_event? {batch : Batch} {event : ChangeEvent} (channel : Channel)
    (h : batch.event? = some event) : channel.feed batch = channel.publish event := by
  rw [feed, h]

theorem feed_of_event?_eq_none {batch : Batch} (channel : Channel) (h : batch.event? = none) :
    channel.feed batch = channel := by
  rw [feed, h]

@[simp] theorem receive_publish (channel : Channel) (event : ChangeEvent) :
    (channel.publish event).receive.1 = some event := rfl

/-- After a run with a fragment file in it the receiver obtains an event, whatever the channel held
before. The event asks for a reload exactly if no failure came after the last such batch. -/
theorem requiresReload_receive_iff (channel : Channel) (batches : List Batch)
    (h : batches.any Batch.holdsFragment = true) :
    ∃ event, (batches.foldl feed channel).receive.1 = some event ∧
      (event.requiresReload = true ↔ ChangeStands batches) := by
  -- from the last batch: it publishes, or the channel is as the batches before it left it
  induction batches using List.reverseRecOn with
  | nil => simp at h
  | append_singleton batches batch ih =>
    rw [List.foldl_append, List.foldl_cons, List.foldl_nil, changeStands_concat]
    cases hevent : batch.event? with
    | some event =>
      -- the event in the channel is that of the batch, a change or a failure
      obtain ⟨hreload, hfailure⟩ := Batch.requiresReload_of_event? hevent
      rw [feed_of_event? _ hevent, receive_publish]
      refine ⟨event, rfl, ?_⟩
      rw [hreload, hfailure]
      cases batch.holdsFragment <;> simp
    | none =>
      -- the batch is of no interest, so the change is among the earlier ones
      obtain ⟨hfragment, hfailure⟩ := Batch.event?_eq_none_iff.mp hevent
      have hany : batches.any Batch.holdsFragment = true := by
        rw [List.any_append] at h
        simpa [hfragment] using h
      obtain ⟨event, hreceive, hreload⟩ := ih hany
      rw [feed_of_event?_eq_none _ hevent]
      refine ⟨event, hreceive, ?_⟩
      rw [hreload]
      simp [hfragment, hfailure]

/-- A failure, a change, and a file of no interest. -/
theorem requiresReload_receive_after_failure :
    [Batch.failure "overflow", .changes [⟨⟨"parts/OneTable.yaml"⟩, true⟩],
      .changes [⟨⟨"parts/notes.txt"⟩, false⟩]].any Batch.holdsFragment = true ∧
    ∃ event, ([Batch.failure "overflow", .changes [⟨⟨"parts/OneTable.yaml"⟩, true⟩],
        .changes [⟨⟨"parts/notes.txt"⟩, false⟩]].foldl feed {}).receive.1 = some event ∧
      (event.requiresReload = true ↔
        ChangeStands [Batch.failure "overflow", .changes [⟨⟨"parts/OneTable.yaml"⟩, true⟩],
          .changes [⟨⟨"parts/notes.txt"⟩, false⟩]]) :=
  ⟨by decide, requiresReload_receive_iff {} _ (by decide)⟩

/-- A failure that comes before the receiver looks hides the change before it. -/
theorem change_lost_to_failure :
    [Batch.changes [⟨⟨"CloudSchema.json"⟩, false⟩], .failure "boom"].any Batch.holdsFragment
      = true ∧
    ([Batch.changes [⟨⟨"CloudSchema.json"⟩, false⟩], .failure "boom"].foldl feed {}).receive.1
      = some (.error "boom") ∧
    (ChangeEvent.error "boom").requiresReload = false :=
  ⟨by decide, rfl, rfl⟩

end Channel

end LayeredSchema
