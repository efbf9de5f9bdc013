import LayeredSchema.Proofs.Schema.Delivery

/-!
# Reception of events

The watcher is fed batches and the receiver takes steps, in turns that may follow each other in any
order. A `History` is a receiver with what was published and what it has obtained so far; an event
that is obtained carries its place among those published.

The receiver is told of an event in one step and reads the latest one in the next. An event that is
published in between is read, but it does not count as seen: the receiver is told of it once more
and may read it again. `Overtaken` counts the steps since then and `overtaken_concat` says how one
turn changes it.

* `Tracks` ties the channel to what was published and obtained: `Tracks.turn` is one turn and
  `tracks_after` all of them;
* `overtaken_iff` reads off the channel whether the receiver has been overtaken;
* `pairwise_lt_obtained_iff` says when no event is obtained twice.
-/

namespace LayeredSchema

namespace Receiver

/-! ## Turns -/

/-- A turn of the watcher or of the receiver. -/
inductive Turn where
  /-- The watcher is fed a batch. -/
  | feed (batch : Batch)
  /-- The receiver takes a step. -/
  | step
  deriving DecidableEq

/-- Whether a turn is a batch without fragment files that is no failure. -/
def Turn.isIdle : Turn → Bool
  | .feed batch => !batch.holdsFragment && !batch.isFailure
  | .step => false

/-- The events that a turn publishes. -/
def Turn.published : Turn → List ChangeEvent
  | .feed batch => batch.event?.toList
  | .step => []

theorem Turn.isIdle_feed_iff {batch : Batch} :
    (Turn.feed batch).isIdle = true ↔ batch.event? = none := by
  rw [Batch.event?_eq_none_iff, isIdle, Bool.and_eq_true, Bool.not_eq_true', Bool.not_eq_true']

/-- A batch publishes one event if it is a failure or has fragment files, and none otherwise. -/
theorem Turn.length_published_feed (batch : Batch) :
    (Turn.feed batch).published.length
      = if batch.isFailure || batch.holdsFragment then 1 else 0 := by
  rw [published]
  cases hevent : batch.event? with
  | none =>
    obtain ⟨hfragment, hfailure⟩ := Batch.event?_eq_none_iff.mp hevent
    rw [hfragment, hfailure]
    rfl
  | some event =>
    obtain ⟨-, hfailure⟩ := Batch.requiresReload_of_event? hevent
    rw [hfailure, Bool.not_or_self]
    rfl

/-! ## Histories -/

/-- A receiver and what has happened to it. -/
structure History where
  receiver : Receiver := {}
  published : List ChangeEvent := []
  /-- The events obtained, each with its place among those published. -/
  obtained : List (Nat × ChangeEvent) := []

namespace History

/-- One turn. An event that is obtained is the latest one published, so its place is the last. -/
def turn (history : History) : Turn → History
  | .feed batch =>
    { history with
      receiver := history.receiver.feed batch
      published := history.published ++ batch.event?.toList }
  | .step =>
    { history with
      receiver := history.receiver.step.2
      obtained := history.obtained
        ++ (history.receiver.step.1.map (history.published.length - 1, ·)).toList }

/-- What comes of some turns for the receiver of a new watcher. -/
def after (turns : List Turn) : History :=
  turns.foldl turn {}

/-- How many of the events published are not behind the last one obtained. -/
def reached (history : History) : Nat :=
  (history.obtained.getLast?.map fun entry => entry.1 + 1).getD 0

theorem after_concat (turns : List Turn) (turn : Turn) :
    after (turns ++ [turn]) = (after turns).turn turn :=
  List.foldl_concat ..

/-- What turns publish, one after the other. -/
theorem published_after (turns : List Turn) :
    (after turns).published = turns.flatMap Turn.published := by
  induction turns using List.reverseRecOn with
  | nil => rfl
  | append_singleton turns turn ih =>
    rw [after_concat, List.flatMap_append, List.flatMap_singleton, ← ih]
    cases turn with
    | feed batch => rfl
    | step => exact (List.append_nil _).symm

theorem turn_feed_of_none (history : History) {batch : Batch} (h : batch.event? = none) :
    history.turn (.feed batch) = history := by
  rw [turn, Receiver.feed, Channel.feed_of_event?_eq_none _ h, h, Option.toList_none,
    List.append_nil]

theorem turn_feed_of_some (history : History) {batch : Batch} {event : ChangeEvent}
    (h : batch.event? = some event) :
    history.turn (.feed batch)
      = { history with
          receiver := ⟨history.receiver.channel.publish event, history.receiver.told⟩
          published := history.published ++ [event] } := by
  rw [turn, Receiver.feed, Channel.feed_of_event? _ h, h, Option.toList_some]

end History

/-! ## One step of the receiver -/

section

variable {receiver : Receiver}

theorem isSettled_iff :
    receiver.isSettled = true ↔ receiver.told = false ∧ receiver.channel.seen = true := by
  rw [isSettled, Channel.changed?, Bool.and_eq_true, Bool.not_eq_true', Option.isNone_iff_eq_none]
  cases receiver.channel.seen <;> simp

/-- A receiver that has been told of an event reads the latest one, and waits again. -/
theorem step_of_told (h : receiver.told = true) :
    receiver.step = (receiver.channel.latest, { receiver with told := false }) := by
  rw [step, if_pos h, Channel.borrow]

/-- A receiver that waits is told of an event that it has not seen, which is seen from then on. -/
theorem step_of_unseen (h : receiver.told = false) (hseen : receiver.channel.seen = false) :
    receiver.step = (none, ⟨{ receiver.channel with seen := true }, true⟩) := by
  rw [step, if_neg (by rw [h]; exact Bool.false_ne_true), Channel.changed?,
    if_neg (by rw [hseen]; exact Bool.false_ne_true)]

/-- A receiver that has seen everything goes on waiting. -/
theorem step_of_isSettled (h : receiver.isSettled = true) : receiver.step = (none, receiver) := by
  obtain ⟨htold, hseen⟩ := isSettled_iff.mp h
  rw [step, if_neg (by rw [htold]; exact Bool.false_ne_true), Channel.changed?, if_pos hseen]

/-- Whatever the receiver was about to do, after three steps it has seen everything. -/
theorem isSettled_step_step_step (receiver : Receiver) :
    receiver.step.2.step.2.step.2.isSettled = true := by
  obtain ⟨⟨latest, seen⟩, told⟩ := receiver
  cases told <;> cases seen <;> rfl

/-- Two steps that nothing comes between make up a look at the channel. -/
theorem step_step_of_not_told (h : receiver.told = false) :
    receiver.step.2.step
      = (receiver.channel.receive.1, ⟨receiver.channel.receive.2, false⟩) := by
  rw [Channel.receive, Channel.changed?]
  cases hseen : receiver.channel.seen with
  | true =>
    have hsettled := isSettled_iff.mpr ⟨h, hseen⟩
    rw [step_of_isSettled hsettled, step_of_isSettled hsettled, if_pos rfl, ← h]
  | false =>
    rw [step_of_unseen h hseen, if_neg Bool.false_ne_true]
    exact step_of_told rfl

end

/-! ## The channel along the turns -/

namespace History

variable {history : History} {turns : List Turn}

/-- The channel holds the latest event, and what was obtained is in order. A receiver that has seen
everything has reached the last event; one that has been overtaken has yet to reach it. -/
structure Tracks (history : History) : Prop where
  latest : history.receiver.channel.latest = history.published.getLast?
  placed : ∀ entry ∈ history.obtained, history.published[entry.1]? = some entry.2
  ordered : (history.obtained.map Prod.fst).Pairwise (· ≤ ·)
  published_ne_nil : history.receiver.isSettled = false → history.published ≠ []
  settled : history.receiver.isSettled = true → history.reached = history.published.length
  overtaken : history.receiver.told = true → history.receiver.channel.seen = false →
    history.reached < history.published.length

/-- The events obtained are in order, so the last one bounds them all. -/
theorem Tracks.forall_lt_iff (h : Tracks history) {bound : Nat} :
    (∀ place ∈ history.obtained.map Prod.fst, place < bound) ↔ history.reached ≤ bound := by
  have hordered := h.ordered
  rw [reached]
  rcases List.eq_nil_or_concat' history.obtained with hnil | ⟨init, last, hconcat⟩
  · rw [hnil]
    simp
  · rw [hconcat, List.map_append, List.map_singleton, List.pairwise_append] at hordered
    rw [hconcat, List.getLast?_concat, List.map_append, List.map_singleton]
    simp only [List.mem_append, List.mem_singleton, Option.map_some, Option.getD_some]
    constructor
    · exact fun hall => hall last.1 (Or.inr rfl)
    · rintro hlast place (hplace | rfl)
      · exact lt_of_le_of_lt (hordered.2.2 place hplace last.1 (List.mem_singleton_self _)) hlast
      · exact hlast

theorem Tracks.reached_le (h : Tracks history) : history.reached ≤ history.published.length := by
  rw [← h.forall_lt_iff]
  intro place hplace
  obtain ⟨entry, hentry, rfl⟩ := List.mem_map.mp hplace
  exact (List.getElem?_eq_some_iff.mp (h.placed entry hentry)).1

theorem turn_step_of_isSettled (h : history.receiver.isSettled = true) :
    history.turn .step = history := by
  rw [turn, step_of_isSettled h, Option.map_none, Option.toList_none, List.append_nil]

theorem turn_step_of_unseen (h : history.receiver.told = false)
    (hseen : history.receiver.channel.seen = false) :
    history.turn .step
      = { history with receiver := ⟨{ history.receiver.channel with seen := true }, true⟩ } := by
  rw [turn, step_of_unseen h hseen, Option.map_none, Option.toList_none, List.append_nil]

theorem obtained_turn_step_of_not_told (h : history.receiver.told = false) :
    (history.turn .step).obtained = history.obtained := by
  cases hseen : history.receiver.channel.seen with
  | true => rw [turn_step_of_isSettled (isSettled_iff.mpr ⟨h, hseen⟩)]
  | false => rw [turn_step_of_unseen h hseen]

/-- What a receiver that has been told of an event obtains is the last event published. -/
theorem Tracks.turn_step_of_told (h : Tracks history) (htold : history.receiver.told = true) :
    ∃ earlier event, history.published = earlier ++ [event] ∧
      history.turn .step
        = { history with
            receiver := { history.receiver with told := false }
            obtained := history.obtained ++ [(earlier.length, event)] } := by
  have hsettled : history.receiver.isSettled = false := by
    rw [isSettled, htold]
    rfl
  obtain ⟨earlier, event, hpublished⟩ :=
    (List.eq_nil_or_concat' history.published).resolve_left (h.published_ne_nil hsettled)
  refine ⟨earlier, event, hpublished, ?_⟩
  rw [turn, step_of_told htold, h.latest, hpublished, List.getLast?_concat, Option.map_some,
    Option.toList_some, List.length_append, List.length_singleton, Nat.add_sub_cancel]

/-- Whoever reads an event has been told of one, so one has been published; the event is obtained at
the place of the last one. -/
theorem Tracks.obtained_turn_step (h : Tracks history) {event : ChangeEvent}
    (hstep : history.receiver.step.1 = some event) :
    ∃ place, history.published.length = place + 1 ∧
      (history.turn .step).obtained = history.obtained ++ [(place, event)] := by
  refine ⟨history.published.length - 1, ?_, by rw [turn, hstep]; rfl⟩
  cases htold : history.receiver.told with
  | true =>
    obtain ⟨earlier, last, hpublished, -⟩ := h.turn_step_of_told htold
    rw [hpublished, List.length_append, List.length_singleton, Nat.add_sub_cancel]
  | false =>
    cases hseen : history.receiver.channel.seen with
    | true =>
      rw [step_of_isSettled (isSettled_iff.mpr ⟨htold, hseen⟩)] at hstep
      cases hstep
    | false =>
      rw [step_of_unseen htold hseen] at hstep
      cases hstep

theorem tracks_start : Tracks {} where
  latest := rfl
  placed := by simp
  ordered := List.Pairwise.nil
  published_ne_nil := fun h => by cases h
  settled := fun _ => rfl
  overtaken := fun h => by cases h

/-- A batch makes its event the latest one, which is not seen yet. -/
theorem Tracks.publish (h : Tracks history) (event : ChangeEvent) :
    Tracks { history with
      receiver := ⟨history.receiver.channel.publish event, history.receiver.told⟩
      published := history.published ++ [event] } where
  latest := List.getLast?_concat.symm
  placed := fun entry hentry => by
    have hplaced := h.placed entry hentry
    rw [List.getElem?_append_left (List.getElem?_eq_some_iff.mp hplaced).1, hplaced]
  ordered := h.ordered
  published_ne_nil := fun _ => by simp
  settled := fun hsettled => by
    obtain ⟨-, hseen⟩ := isSettled_iff.mp hsettled
    cases hseen
  overtaken := fun _ _ => by
    rw [List.length_append, List.length_singleton]
    exact Nat.lt_succ_of_le h.reached_le

theorem Tracks.turn_step (h : Tracks history) : Tracks (history.turn .step) := by
  cases htold : history.receiver.told with
  | true =>
    -- the last event is read, and with it all of them are reached
    obtain ⟨earlier, event, hpublished, hturn⟩ := h.turn_step_of_told htold
    have hplaces := h.forall_lt_iff.mpr h.reached_le
    rw [hpublished, List.length_append, List.length_singleton] at hplaces
    rw [hturn]
    refine ⟨h.latest, ?_, ?_, fun _ => by simp [hpublished], fun _ => ?_, fun hnot => by cases hnot⟩
    · intro entry hentry
      rcases List.mem_append.mp hentry with hold | hnew
      · exact h.placed entry hold
      · rw [List.mem_singleton.mp hnew, hpublished, List.getElem?_concat_length]
    · rw [List.map_append, List.map_singleton, List.pairwise_append]
      refine ⟨h.ordered, List.pairwise_singleton .., fun place hplace last hlast => ?_⟩
      rw [List.mem_singleton.mp hlast]
      exact Nat.le_of_lt_succ (hplaces place hplace)
    · rw [reached, List.getLast?_concat, hpublished, List.length_append, List.length_singleton]
      rfl
  | false =>
    cases hseen : history.receiver.channel.seen with
    | true =>
      rw [turn_step_of_isSettled (isSettled_iff.mpr ⟨htold, hseen⟩)]
      exact h
    | false =>
      have hsettled : history.receiver.isSettled = false := by
        rw [← Bool.not_eq_true, isSettled_iff, hseen]
        simp
      rw [turn_step_of_unseen htold hseen]
      exact ⟨h.latest, h.placed, h.ordered, fun _ => h.published_ne_nil hsettled,
        fun hnot => (Bool.false_ne_true hnot).elim, fun _ hnot => by cases hnot⟩

theorem Tracks.turn (h : Tracks history) (turn : Turn) : Tracks (history.turn turn) := by
  cases turn with
  | step => exact h.turn_step
  | feed batch =>
    cases hevent : batch.event? with
    | none =>
      rw [turn_feed_of_none history hevent]
      exact h
    | some event =>
      rw [turn_feed_of_some history hevent]
      exact h.publish event

theorem tracks_after (turns : List Turn) : Tracks (after turns) := by
  induction turns using List.reverseRecOn with
  | nil => exact tracks_start
  | append_singleton turns turn ih =>
    rw [after_concat]
    exact ih.turn turn

/-! ## Being overtaken -/

/-- An event was published when the receiver had been told of an earlier one but had not read yet.
No other one has been published since, and the receiver has taken this many steps. -/
def Overtaken (steps : Nat) (turns : List Turn) : Prop :=
  ∃ before turn later, turns = before ++ turn :: later ∧
    (after before).receiver.told = true ∧ turn.published ≠ [] ∧
    (∀ quiet ∈ later, quiet.published = []) ∧ later.count .step = steps

/-- A turn that publishes overtakes a receiver that has been told of an event, and nobody else;
other turns count if they are steps. -/
theorem overtaken_concat {steps : Nat} {turns : List Turn} {turn : Turn} :
    Overtaken steps (turns ++ [turn]) ↔
      ((after turns).receiver.told = true ∧ turn.published ≠ [] ∧ steps = 0) ∨
        (turn.published = [] ∧
          ∃ taken, Overtaken taken turns ∧ steps = taken + [turn].count .step) := by
  rw [Overtaken, exists_concat_split_iff]
  simp only [List.forall_mem_append, List.forall_mem_singleton, List.count_append]
  constructor
  · rintro (⟨htold, hloud, -, rfl⟩ |
      ⟨before, first, later, rfl, htold, hloud, ⟨hquiet, hturn⟩, rfl⟩)
    · exact Or.inl ⟨htold, hloud, rfl⟩
    · exact Or.inr ⟨hturn, _, ⟨before, first, later, rfl, htold, hloud, hquiet, rfl⟩, rfl⟩
  · rintro (⟨htold, hloud, rfl⟩ |
      ⟨hturn, _, ⟨before, first, later, rfl, htold, hloud, hquiet, rfl⟩, rfl⟩)
    · exact Or.inl ⟨htold, hloud, by simp, rfl⟩
    · exact Or.inr ⟨before, first, later, rfl, htold, hloud, ⟨hquiet, hturn⟩, rfl⟩

theorem not_overtaken_nil (steps : Nat) : ¬ Overtaken steps [] := by
  rintro ⟨before, turn, later, hnil, -⟩
  simp at hnil

/-- How the channel of an overtaken receiver looks: before it reads the event that has overtaken it,
after it has read it, and after it has been told of it once more. -/
def IsBehind (history : History) : Nat → Prop
  | 0 => history.receiver.told = true ∧ history.receiver.channel.seen = false
  | 1 => history.receiver.told = false ∧ history.receiver.channel.seen = false ∧
      history.reached = history.published.length
  | 2 => history.receiver.told = true ∧ history.receiver.channel.seen = true ∧
      history.reached = history.published.length
  | _ => False

/-- A step takes a receiver from one way of being behind to the next. -/
theorem isBehind_turn_step_iff (h : Tracks history) {steps : Nat} (hsteps : steps ≤ 2) :
    (history.turn .step).IsBehind steps ↔
      ∃ taken, history.IsBehind taken ∧ steps = taken + 1 := by
  cases htold : history.receiver.told with
  | true =>
    -- the step reads the last event: only the event that overtook leads on from here
    obtain ⟨earlier, event, hpublished, hturn⟩ := h.turn_step_of_told htold
    have hreached : (history.turn .step).reached = history.published.length := by
      rw [hturn, reached, List.getLast?_concat, hpublished, List.length_append]
      rfl
    rcases steps with _ | _ | _ | steps
    · simp [IsBehind, hturn]
    · rw [IsBehind, hreached]
      simp [IsBehind, htold, hturn]
    · simp [IsBehind, htold, hturn]
    · omega
  | false =>
    cases hseen : history.receiver.channel.seen with
    | true =>
      -- there is nothing to be told of, so the receiver is not behind at all
      rw [turn_step_of_isSettled (isSettled_iff.mpr ⟨htold, hseen⟩)]
      rcases steps with _ | _ | _ | steps
      · simp [IsBehind, htold]
      · simp [IsBehind, htold, hseen]
      · simp [IsBehind, htold, hseen]
      · omega
    | false =>
      -- the receiver is told of an event; it is behind if it has read that event before
      rw [turn_step_of_unseen htold hseen]
      rcases steps with _ | _ | _ | steps
      · simp [IsBehind]
      · simp [IsBehind, htold]
      · simp [IsBehind, htold, hseen, reached]
      · omega

/-- A batch that publishes overtakes a receiver that has been told of an event. -/
theorem isBehind_publish_iff (h : Tracks history) (event : ChangeEvent) {steps : Nat}
    (hsteps : steps ≤ 2) :
    IsBehind { history with
        receiver := ⟨history.receiver.channel.publish event, history.receiver.told⟩
        published := history.published ++ [event] } steps ↔
      history.receiver.told = true ∧ steps = 0 := by
  have hle := h.reached_le
  rcases steps with _ | _ | _ | steps
  · simp [IsBehind, Channel.publish]
  · simp only [IsBehind, reached, List.length_append, List.length_singleton] at hle ⊢
    omega
  · simp [IsBehind, Channel.publish]
  · omega

/-- The channel tells whether the receiver has been overtaken. -/
theorem overtaken_iff {steps : Nat} (hsteps : steps ≤ 2) (turns : List Turn) :
    Overtaken steps turns ↔ (after turns).IsBehind steps := by
  -- both sides change in the same way with one more turn
  induction turns using List.reverseRecOn generalizing steps with
  | nil =>
    refine iff_of_false (not_overtaken_nil steps) ?_
    rcases steps with _ | _ | _ | steps <;> simp [IsBehind, after]
  | append_singleton turns turn ih =>
    have htracks := tracks_after turns
    rw [overtaken_concat, after_concat]
    cases turn with
    | step =>
      rw [isBehind_turn_step_iff htracks hsteps]
      simp only [Turn.published, ne_eq, not_true_eq_false, false_and, and_false, false_or, true_and,
        List.count_singleton_self]
      exact exists_congr fun taken => and_congr_left fun htaken => ih (by omega)
    | feed batch =>
      cases hevent : batch.event? with
      | none =>
        rw [turn_feed_of_none _ hevent, ← ih hsteps]
        simp [Turn.published, hevent]
      | some event =>
        rw [turn_feed_of_some _ hevent, isBehind_publish_iff htracks event hsteps]
        simp [Turn.published, hevent]

/-- A receiver that has been overtaken takes three steps before anything else is published: it reads
the event, is told of it once more, and reads it again. -/
def ObtainsAgain (turns : List Turn) : Prop :=
  ∃ front, front <+: turns ∧ Overtaken 3 front

/-- An event is obtained again in the third step after it has overtaken the receiver. -/
theorem obtainsAgain_concat {turns : List Turn} {turn : Turn} :
    ObtainsAgain (turns ++ [turn]) ↔ ObtainsAgain turns ∨ (turn = .step ∧ Overtaken 2 turns) := by
  rw [ObtainsAgain]
  simp only [List.prefix_concat_iff]
  constructor
  · rintro ⟨front, rfl | hfront, hovertaken⟩
    · -- the third step is this turn, or it was taken before
      rcases overtaken_concat.mp hovertaken with ⟨-, -, hzero⟩ | ⟨-, taken, htaken, hcount⟩
      · cases hzero
      · cases turn with
        | step =>
          rw [List.count_singleton_self] at hcount
          obtain rfl : taken = 2 := by omega
          exact Or.inr ⟨rfl, htaken⟩
        | feed batch =>
          rw [List.count_eq_zero.mpr (by simp), Nat.add_zero] at hcount
          exact Or.inl ⟨turns, List.prefix_refl turns, hcount ▸ htaken⟩
    · exact Or.inl ⟨front, hfront, hovertaken⟩
  · rintro (⟨front, hfront, hovertaken⟩ | ⟨rfl, hovertaken⟩)
    · exact ⟨front, Or.inr hfront, hovertaken⟩
    · exact ⟨turns ++ [.step], Or.inl rfl, overtaken_concat.mpr (Or.inr ⟨rfl, 2, hovertaken, rfl⟩)⟩

/-- No event is obtained twice unless one overtakes the receiver and is the latest for long enough
to be read again. -/
theorem pairwise_lt_obtained_iff (turns : List Turn) :
    ((after turns).obtained.map Prod.fst).Pairwise (· < ·) ↔ ¬ ObtainsAgain turns := by
  induction turns using List.reverseRecOn with
  | nil =>
    refine iff_of_true List.Pairwise.nil ?_
    rintro ⟨front, hfront, hovertaken⟩
    rw [List.prefix_nil.mp hfront] at hovertaken
    exact not_overtaken_nil 3 hovertaken
  | append_singleton turns turn ih =>
    have htracks := tracks_after turns
    rw [after_concat, obtainsAgain_concat, not_or, ← ih]
    cases turn with
    | feed batch => simp [History.turn]
    | step =>
      rw [overtaken_iff (Nat.le_refl 2), IsBehind]
      cases htold : (after turns).receiver.told with
      | false =>
        rw [obtained_turn_step_of_not_told htold]
        simp
      | true =>
        obtain ⟨earlier, event, hpublished, hturn⟩ := htracks.turn_step_of_told htold
        have hlength : (after turns).published.length = earlier.length + 1 := by
          rw [hpublished, List.length_append, List.length_singleton]
        -- the last event had not been reached, or it is obtained again
        have hnew : (after turns).reached ≤ earlier.length ↔
            ¬ ((after turns).receiver.channel.seen = true ∧
              (after turns).reached = (after turns).published.length) := by
          have hle := htracks.reached_le
          cases hseen : (after turns).receiver.channel.seen with
          | true =>
            simp only [true_and]
            omega
          | false =>
            have hlt := htracks.overtaken htold hseen
            simp only [Bool.false_eq_true, false_and, not_false_eq_true, iff_true]
            omega
        rw [hturn, List.map_append, List.map_singleton, List.pairwise_append]
        simp only [List.pairwise_singleton, List.mem_singleton, true_and, forall_eq]
        rw [htracks.forall_lt_iff, hnew]

/-! ## What is obtained -/

/-- A receiver that has seen everything has obtained the last event published, if any was. -/
theorem Tracks.getLast?_obtained (h : Tracks history)
    (hsettled : history.receiver.isSettled = true) :
    history.obtained.getLast?.map Prod.snd = history.published.getLast? := by
  have hreached := h.settled hsettled
  rw [reached] at hreached
  cases hlast : history.obtained.getLast? with
  | none =>
    rw [hlast] at hreached
    rw [List.length_eq_zero_iff.mp hreached.symm]
    rfl
  | some entry =>
    rw [hlast, Option.map_some, Option.getD_some] at hreached
    have hplaced := h.placed entry (List.mem_of_getLast? hlast)
    rw [Option.map_some, ← hplaced, List.getLast?_eq_getElem?, ← hreached, Nat.add_sub_cancel]

/-- Idle turns may be left out. -/
theorem after_filter (turns : List Turn) :
    after (turns.filter fun turn => !turn.isIdle) = after turns := by
  induction turns using List.reverseRecOn with
  | nil => rfl
  | append_singleton turns turn ih =>
    rw [List.filter_append, after_concat, ← ih]
    cases hidle : turn.isIdle with
    | false => rw [List.filter_cons_of_pos (by simp [hidle]), List.filter_nil, after_concat]
    | true =>
      rw [List.filter_cons_of_neg (by simp [hidle]), List.filter_nil, List.append_nil]
      cases turn with
      | step => cases hidle
      | feed batch => rw [turn_feed_of_none _ (Turn.isIdle_feed_iff.mp hidle)]

/-- The latest event wins, in order. However batches and steps follow each other, every event
obtained is one of those published, and they are obtained in the order in which they were published.
One is obtained twice exactly if it overtakes the receiver and is the latest for long enough;
otherwise what is obtained is part of what is published. A receiver that has seen everything has
obtained the last event published, and three steps are enough for that. A batch publishes one event
if it is a failure or has fragment files and none otherwise, and batches that publish none may come
in anywhere or be left out: the same is obtained. -/
theorem latest_event_obtained (turns : List Turn) :
    (∀ entry ∈ (after turns).obtained, (after turns).published[entry.1]? = some entry.2) ∧
    ((after turns).obtained.map Prod.fst).Pairwise (· ≤ ·) ∧
    (((after turns).obtained.map Prod.fst).Pairwise (· < ·) ↔ ¬ ObtainsAgain turns) ∧
    (¬ ObtainsAgain turns →
      ((after turns).obtained.map Prod.snd).Sublist (after turns).published) ∧
    ((after turns).receiver.isSettled = true →
      (after turns).obtained.getLast?.map Prod.snd = (after turns).published.getLast?) ∧
    (after (turns ++ [.step, .step, .step])).receiver.isSettled = true ∧
    (∀ batch, (Turn.feed batch).published.length
      = if batch.isFailure || batch.holdsFragment then 1 else 0) ∧
    ∀ others, turns.filter (fun turn => !turn.isIdle) = others.filter (fun turn => !turn.isIdle) →
      (after turns).obtained = (after others).obtained := by
  have htracks := tracks_after turns
  refine ⟨htracks.placed, htracks.ordered, pairwise_lt_obtained_iff turns, fun honce => ?_,
    htracks.getLast?_obtained, ?_, Turn.length_published_feed, fun others hothers => ?_⟩
  · exact sublist_of_places htracks.placed ((pairwise_lt_obtained_iff turns).mpr honce)
  · rw [after, List.foldl_append]
    exact isSettled_step_step_step (after turns).receiver
  · rw [← after_filter turns, hothers, after_filter]

/-- A change, a failure that overtakes the receiver, and another change before the failure can be
read again, with a file of no interest in between. -/
def busyTurns : List Turn :=
  [.feed (.changes [⟨⟨"parts/OneTable.yaml"⟩, false⟩]), .step, .feed (.failure "overflow"), .step,
   .feed (.changes [⟨⟨"parts/notes.txt"⟩, false⟩]),
   .feed (.changes [⟨⟨"parts/CloudSchema.json"⟩, true⟩]), .step, .step]

/-- The failure is obtained instead of the first change, and then the second change, with the file
of no interest or without it. -/
theorem latest_event_obtained_busyTurns :
    ¬ ObtainsAgain busyTurns ∧
    (after busyTurns).obtained.map Prod.snd
      = [.error "overflow", .fragment .cloud ⟨"parts/CloudSchema.json"⟩] ∧
    ((after busyTurns).obtained.map Prod.snd).Sublist (after busyTurns).published ∧
    (after busyTurns).receiver.isSettled = true ∧
    (after busyTurns).published.getLast? = some (.fragment .cloud ⟨"parts/CloudSchema.json"⟩) ∧
    (after busyTurns).obtained = (after (busyTurns.eraseIdx 4)).obtained := by
  obtain ⟨-, -, hagain, hsublist, hlast, -, -, hidle⟩ := latest_event_obtained busyTurns
  have honce : ¬ ObtainsAgain busyTurns := hagain.mp (by decide)
  have hsettled : (after busyTurns).receiver.isSettled = true := rfl
  exact ⟨honce, rfl, hsublist honce, hsettled, (hlast hsettled).symm, hidle _ (by decide)⟩

/-- Two changes; the second one is published when the receiver has just been told of the first. -/
def overtakingTurns : List Turn :=
  [.feed (.changes [⟨⟨"parts/OneTable.yaml"⟩, false⟩]), .step,
   .feed (.changes [⟨⟨"parts/CloudSchema.json"⟩, false⟩]), .step, .step, .step]

/-- The change that overtakes the receiver is obtained twice. -/
theorem overtaking_change_obtained_twice :
    (after overtakingTurns).published
      = [.fragment .tableMapping ⟨"parts/OneTable.yaml"⟩,
         .fragment .cloud ⟨"parts/CloudSchema.json"⟩] ∧
    (after overtakingTurns).obtained.map Prod.snd
      = [.fragment .cloud ⟨"parts/CloudSchema.json"⟩,
         .fragment .cloud ⟨"parts/CloudSchema.json"⟩] ∧
    ¬ ((after overtakingTurns).obtained.map Prod.snd).Sublist (after overtakingTurns).published :=
  ⟨rfl, rfl, by decide⟩

end History

end Receiver

end LayeredSchema
