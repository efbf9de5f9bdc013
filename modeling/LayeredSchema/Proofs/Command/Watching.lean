import LayeredSchema.Command.Watch
import LayeredSchema.Proofs.Command.Emission
import LayeredSchema.Proofs.Schema.Reception
import LayeredSchema.Proofs.Schema.Reloading

/-!
# Watching

A run that watches is three things at once: a receiver at the channel of its watcher, a store over a
disk that changes, and a source of texts. A `Course` is such a run with a record of its turns for
the receiver and of its steps for the store and the disk, the writing of schemas among them.

* `reads_or_isQuiet` says all that a turn can do: an event is read and dealt with, or the turn is
  quiet;
* `Joins` ties the three together: `Joins.turn` is one turn and `joins_course` all of them;
* `hasReadLast_of_obtained` finds the step in which the loop has read the last event obtained, and
  `store_of_isSettled` what that step has left;
* `Run.watch_shows_composed`, `Run.failure_of_watch` and `Run.reload_of_isSettled` say what this
  means for the program: what it emits, how it ends, and when it is up to date.
-/

namespace LayeredSchema

namespace Session

/-- The schema that a reload has composed, if this is the answer of one that succeeds. -/
def Answer.schema? : Answer → Option Composition
  | .reloaded (.ok schema) => some schema
  | _ => none

/-- The schemas that are composed in some steps, in order. -/
def schemas (session : Session) (steps : List Step) : List Composition :=
  (session.run steps).1.filterMap Answer.schema?

theorem run_append (session : Session) (first second : List Step) :
    session.run (first ++ second)
      = ((session.run first).1 ++ ((session.run first).2.run second).1,
          ((session.run first).2.run second).2) := by
  induction first generalizing session with
  | nil => rfl
  | cons step rest ih => rw [List.cons_append, run, ih, run, List.cons_append]

theorem schemas_append (session : Session) (first second : List Step) :
    session.schemas (first ++ second)
      = session.schemas first ++ (session.run first).2.schemas second := by
  rw [schemas, run_append, List.filterMap_append]
  rfl

section

variable {session : Session}

theorem run_reload_of_error {error : SchemaError}
    (h : session.store.loader.compose session.disk = .error error) :
    session.run [.reload] = ([.reloaded (.error error)], session) := by
  rw [run, step, Store.reload_of_error h]
  rfl

theorem run_reload_of_ok {composition : Composition}
    (h : session.store.loader.compose session.disk = .ok composition) :
    session.run [.reload]
      = ([.reloaded (.ok composition)],
          { session with store := { session.store with current := composition } }) := by
  rw [run, step, Store.reload_of_ok h]
  rfl

theorem run_change_of_error {edit : Disk → Except Fault Disk} {fault : Fault}
    (h : edit session.disk = .error fault) :
    session.run [.change edit] = ([.changed (some fault)], session) := by
  rw [run, step, h]
  rfl

theorem run_change_of_ok {edit : Disk → Except Fault Disk} {disk : Disk}
    (h : edit session.disk = .ok disk) :
    session.run [.change edit] = ([.changed none], { session with disk }) := by
  rw [run, step, h]
  rfl

/-- The schema that is current after some steps is the last one that they compose, or the one from
before if they compose none. -/
theorem current_run_eq (session : Session) (steps : List Step) :
    (session.run steps).2.store.current
      = (session.schemas steps).getLast?.getD session.store.current := by
  -- from the end: it is the last step that decides, unless it composes nothing
  induction steps using List.reverseRecOn with
  | nil => rfl
  | append_singleton steps step ih =>
    rw [run_append, schemas_append, List.getLast?_append]
    generalize (session.run steps).2 = before at ih ⊢
    cases step with
    | read => exact ih
    | change edit =>
      cases hedit : edit before.disk with
      | ok disk => rw [schemas, run_change_of_ok hedit]; exact ih
      | error fault => rw [schemas, run_change_of_error hedit]; exact ih
    | reload =>
      cases hcompose : before.store.loader.compose before.disk with
      | ok composition => rw [schemas, run_reload_of_ok hcompose]; rfl
      | error error => rw [schemas, run_reload_of_error hcompose]; exact ih

end

end Session

namespace Watching

variable {settings : Settings} {options : WatchOptions} {watching : Watching}

/-! ## Dealing with an event -/

theorem deal_of_not_requiresReload {event : ChangeEvent} (h : event.requiresReload = false) :
    watching.deal settings options event = ([.log event.readLine], watching) := by
  rw [deal, if_neg (by rw [h]; exact Bool.false_ne_true)]

/-- If composing fails the loop goes on with the schema from before, and emits nothing. -/
theorem deal_of_error {event : ChangeEvent} {error : SchemaError}
    (h : event.requiresReload = true)
    (hcompose : watching.store.loader.compose watching.disk = .error error) :
    watching.deal settings options event
      = ((event.readLine :: watching.store.reloadLog watching.disk).map .log, watching) := by
  rw [deal, if_pos h, Store.reload_of_error hcompose]

/-- A schema that could be composed is the current one, and is emitted. -/
theorem deal_of_ok {event : ChangeEvent} {composition : Composition}
    (h : event.requiresReload = true)
    (hcompose : watching.store.loader.compose watching.disk = .ok composition) :
    watching.deal settings options event
      = ((event.readLine :: watching.store.reloadLog watching.disk).map .log
          ++ (Run.emitSchema settings options watching.disk composition).effects,
        { watching with
          store := { watching.store with current := composition }
          disk := (Run.emitSchema settings options watching.disk composition).disk
          phase := match (Run.emitSchema settings options watching.disk composition).failure with
            | none => .running
            | some failure => .failed failure }) := by
  have hdeal : watching.deal settings options event = _ := if_pos h
  rw [Store.reload_of_ok hcompose] at hdeal
  exact hdeal

/-! ## The session below -/

/-- What emitting a schema means for the disk: the file that is written to changes, if there is
one. -/
def emissionSteps (settings : Settings) (options : WatchOptions) (composition : Composition) :
    List Session.Step :=
  options.output.toList.map fun path =>
    .change (·.write path (Run.schemaText settings options composition).toUTF8)

/-- What dealing with an event means for the store and the disk: a reload, and if it succeeds, an
emission. -/
def dealSteps (settings : Settings) (options : WatchOptions) (watching : Watching)
    (event : ChangeEvent) : List Session.Step :=
  if event.requiresReload then
    match watching.store.loader.compose watching.disk with
    | .ok composition => [.reload] ++ emissionSteps settings options composition
    | .error _ => [.reload]
  else []

/-- The store and the disk of a run that watches. -/
def session (watching : Watching) : Session :=
  ⟨watching.disk, watching.store⟩

/-- Emitting a schema changes the disk as writing it does, and composes nothing. -/
theorem run_emission (settings : Settings) (options : WatchOptions) (disk : Disk) (store : Store)
    (composition : Composition) :
    (Session.run ⟨disk, store⟩ (emissionSteps settings options composition)).2
        = ⟨(Run.emitSchema settings options disk composition).disk, store⟩ ∧
      Session.schemas ⟨disk, store⟩ (emissionSteps settings options composition) = [] := by
  unfold Run.emitSchema Run.emit Session.schemas emissionSteps
  cases options.output with
  | none => exact ⟨rfl, rfl⟩
  | some path =>
    dsimp only [Option.toList_some, List.map_singleton, Session.run, Session.step]
    cases disk.write path (Run.schemaText settings options composition).toUTF8 <;>
      exact ⟨rfl, rfl⟩

/-- The schemas that are emitted among those that are composed: all, unless the run has failed,
which it does when the last one cannot be emitted. -/
def emittedOf (phase : WatchPhase) (schemas : List Composition) : List Composition :=
  match phase with
  | .failed _ => schemas.dropLast
  | .running | .stopped => schemas

theorem emittedOf_of_failure?_eq_none (h : watching.failure? = none)
    (schemas : List Composition) : emittedOf watching.phase schemas = schemas := by
  rw [failure?] at h
  cases hphase : watching.phase with
  | failed failure =>
    rw [hphase] at h
    cases h
  | running | stopped => rfl

/-- What a part of a run does to the session below, and what it emits. -/
structure Shows (settings : Settings) (options : WatchOptions) (opening : Session)
    (steps : List Session.Step) (effects : List Effect) (watching : Watching) : Prop where
  session : (opening.run steps).2 = watching.session
  texts : Effect.texts effects
    = (emittedOf watching.phase (opening.schemas steps)).map (Run.schemaText settings options)
  failed : ∀ failure, watching.phase = .failed failure → opening.schemas steps ≠ []

/-- A part of a run that is still going on may be followed by another one. -/
theorem Shows.append {opening : Session} {first second : List Session.Step}
    {before after : List Effect} {later : Watching}
    (h : Shows settings options opening first before watching)
    (hrunning : watching.phase = .running)
    (hlater : Shows settings options watching.session second after later) :
    Shows settings options opening (first ++ second) (before ++ after) later := by
  have hschemas : opening.schemas (first ++ second)
      = opening.schemas first ++ watching.session.schemas second := by
    rw [Session.schemas_append, h.session]
  refine ⟨?_, ?_, fun failure hfailure => ?_⟩
  · rw [Session.run_append, h.session]
    exact hlater.session
  · -- only the second part can have failed, so all schemas of the first one were emitted
    have hemitted : emittedOf later.phase (opening.schemas (first ++ second))
        = opening.schemas first ++ emittedOf later.phase (watching.session.schemas second) := by
      rw [hschemas]
      cases hphase : later.phase with
      | failed failure => exact List.dropLast_append_of_ne_nil (hlater.failed failure hphase)
      | running => rfl
      | stopped => rfl
    rw [Effect.texts_append, h.texts, hrunning, hlater.texts, hemitted, List.map_append]
    rfl
  · rw [hschemas]
    exact List.append_ne_nil_of_right_ne_nil _ (hlater.failed failure hfailure)

/-- A part of a run in which nothing is composed only writes to the log. -/
theorem shows_silent {steps : List Session.Step} {answers : List Session.Answer} {later : Watching}
    (lines : List LogLine) (hrun : watching.session.run steps = (answers, later.session))
    (hanswers : answers.filterMap Session.Answer.schema? = [])
    (hphase : ∀ failure, later.phase ≠ .failed failure) :
    Shows settings options watching.session steps (lines.map .log) later where
  session := by rw [hrun]
  texts := by
    rw [Effect.texts_map_log, Session.schemas, hrun, hanswers]
    cases later.phase <;> rfl
  failed := fun failure hfailure => absurd hfailure (hphase failure)

/-- Dealing with an event emits the schema that is composed, if one is and it can be emitted. -/
theorem shows_deal (event : ChangeEvent) (hrunning : watching.phase = .running) :
    Shows settings options watching.session (dealSteps settings options watching event)
      (watching.deal settings options event).1 (watching.deal settings options event).2 := by
  have hphase : ∀ failure, watching.phase ≠ .failed failure := by simp [hrunning]
  cases hreload : event.requiresReload with
  | false =>
    rw [dealSteps, if_neg (by rw [hreload]; exact Bool.false_ne_true),
      deal_of_not_requiresReload hreload]
    exact shows_silent [event.readLine] rfl rfl hphase
  | true =>
    rw [dealSteps, if_pos hreload]
    cases hcompose : watching.store.loader.compose watching.disk with
    | error error =>
      have hrun : watching.session.run [.reload] = _ := Session.run_reload_of_error hcompose
      rw [deal_of_error hreload hcompose]
      exact shows_silent _ hrun rfl hphase
    | ok composition =>
      have hrun : watching.session.run [.reload] = _ := Session.run_reload_of_ok hcompose
      obtain ⟨hdisk, hnone⟩ := run_emission settings options watching.disk
        { watching.store with current := composition } composition
      have hschemas : watching.session.schemas
          ([.reload] ++ emissionSteps settings options composition) = [composition] := by
        rw [Session.schemas_append, Session.schemas, hrun]
        exact congrArg (composition :: ·) hnone
      rw [deal_of_ok hreload hcompose]
      -- the one schema is emitted, or the run has failed over it and it is the one left out
      refine ⟨?_, ?_, fun _ _ => by rw [hschemas]; exact List.cons_ne_nil _ _⟩
      · rw [Session.run_append, hrun]
        exact hdisk
      · rw [hschemas, Effect.texts_append, Effect.texts_map_log, List.nil_append]
        unfold Run.emitSchema
        cases hfailure : (Run.emit watching.disk (Run.schemaText settings options composition)
            options.output).failure with
        | none => exact Run.texts_emit hfailure
        | some failure =>
          obtain ⟨fault, -, hemit⟩ := Run.emit_of_failure hfailure
          rw [hemit]
          rfl

/-! ## One turn -/

/-- What a turn means for the receiver. -/
def heard (watching : Watching) : Turn → List Receiver.Turn
  | .batch batch => if watching.closed then [] else [.feed batch]
  | .step => [.step]
  | .close | .change _ | .interrupt => []

/-- What a turn means for the store and the disk. -/
def steps (settings : Settings) (options : WatchOptions) (watching : Watching) :
    Turn → List Session.Step
  | .change edit => [.change edit]
  | .step =>
    match watching.receiver.step.1 with
    | some event => dealSteps settings options watching event
    | none => []
  | .batch _ | .close | .interrupt => []

/-- A step that reads an event deals with it. -/
theorem turn_of_event {event : ChangeEvent} (hrunning : watching.phase = .running)
    (h : watching.receiver.step.1 = some event) :
    watching.turn settings options .step
      = deal settings options { watching with receiver := watching.receiver.step.2 } event := by
  rw [Watching.turn, if_pos hrunning]
  unfold step
  split
  · next hstep =>
    rw [hstep] at h ⊢
    cases h
    rfl
  · next hstep =>
    rw [hstep] at h
    cases h

/-- A turn in which no event is read. It may change the disk, the channel and the phase, but the
store stays as it is and nothing is composed, obtained or emitted. -/
structure IsQuiet (settings : Settings) (options : WatchOptions) (watching : Watching) (turn : Turn)
    (effects : List Effect) (later : Watching) : Prop where
  store : later.store = watching.store
  failed : ∀ failure, later.phase ≠ .failed failure
  effects : ∃ lines, effects = List.map .log lines
  session : ∃ answers, watching.session.run (watching.steps settings options turn)
    = (answers, later.session) ∧ answers.filterMap Session.Answer.schema? = []
  receiver : ∀ history : Receiver.History, history.receiver = watching.receiver →
    ((watching.heard turn).foldl Receiver.History.turn history).receiver = later.receiver
  obtained : ∀ history : Receiver.History, history.receiver = watching.receiver →
    ((watching.heard turn).foldl Receiver.History.turn history).obtained = history.obtained

/-- A step that reads nothing is quiet: the receiver is told of an event, or it waits on, or the
loop is over. -/
theorem isQuiet_step (hrunning : watching.phase = .running)
    (h : watching.receiver.step.1 = none) :
    IsQuiet settings options watching .step (watching.step settings options).1
      (watching.step settings options).2 := by
  have hphase : ∀ failure, watching.phase ≠ .failed failure := by simp [hrunning]
  have hsteps : watching.steps settings options .step = [] := by rw [steps, h]
  have hobtained (history : Receiver.History) (hreceiver : history.receiver = watching.receiver) :
      (history.turn .step).obtained = history.obtained := by
    show history.obtained ++ _ = history.obtained
    rw [hreceiver, h]
    exact List.append_nil _
  have hstep : watching.receiver.step = (none, watching.receiver.step.2) := Prod.ext h rfl
  unfold step
  rw [hstep]
  dsimp only
  split
  · next hover =>
    -- the loop is over only once the receiver has nothing more to see, so it has not moved
    rw [Bool.and_eq_true] at hover
    refine ⟨rfl, by simp, ⟨[_], rfl⟩, ⟨[], by rw [hsteps]; rfl, rfl⟩, fun history hreceiver => ?_,
      hobtained⟩
    show history.receiver.step.2 = watching.receiver
    rw [hreceiver, Receiver.step_of_isSettled hover.2]
  · exact ⟨rfl, hphase, ⟨[], rfl⟩, ⟨[], by rw [hsteps]; rfl, rfl⟩,
      fun history hreceiver => congrArg (fun receiver => receiver.step.2) hreceiver, hobtained⟩

/-- An event is read in a step, or the turn is quiet. -/
theorem reads_or_isQuiet (turn : Turn) (hrunning : watching.phase = .running) :
    (∃ event, turn = .step ∧ watching.receiver.step.1 = some event) ∨
      IsQuiet settings options watching turn (watching.turn settings options turn).1
        (watching.turn settings options turn).2 := by
  have hphase : ∀ failure, watching.phase ≠ .failed failure := by simp [hrunning]
  unfold Watching.turn
  rw [if_pos hrunning]
  cases turn with
  | step =>
    cases hread : watching.receiver.step.1 with
    | some event => exact Or.inl ⟨event, rfl, rfl⟩
    | none => exact Or.inr (isQuiet_step hrunning hread)
  | batch batch =>
    refine Or.inr ?_
    dsimp only [feed]
    split
    · next hclosed =>
      have hheard : watching.heard (.batch batch) = [] := if_pos hclosed
      refine ⟨rfl, hphase, ⟨[], rfl⟩, ⟨[], rfl, rfl⟩, fun history hreceiver => ?_,
        fun history _ => by rw [hheard]; rfl⟩
      rw [hheard]
      exact hreceiver
    · next hopen =>
      have hheard : watching.heard (.batch batch) = [.feed batch] := if_neg hopen
      refine ⟨rfl, hphase, ⟨_, rfl⟩, ⟨[], rfl, rfl⟩, fun history hreceiver => ?_,
        fun history _ => by rw [hheard]; rfl⟩
      rw [hheard]
      exact congrArg (Receiver.feed · batch) hreceiver
  | close =>
    dsimp only [close]
    split
    · exact Or.inr ⟨rfl, hphase, ⟨[], rfl⟩, ⟨[], rfl, rfl⟩, fun _ h => h, fun _ _ => rfl⟩
    · exact Or.inr ⟨rfl, hphase, ⟨[_], rfl⟩, ⟨[], rfl, rfl⟩, fun _ h => h, fun _ _ => rfl⟩
  | change edit =>
    dsimp only
    cases hedit : edit watching.disk with
    | error fault =>
      exact Or.inr ⟨rfl, hphase, ⟨[], rfl⟩, ⟨_, Session.run_change_of_error hedit, rfl⟩,
        fun _ h => h, fun _ _ => rfl⟩
    | ok disk =>
      exact Or.inr ⟨rfl, hphase, ⟨[], rfl⟩, ⟨_, Session.run_change_of_ok hedit, rfl⟩,
        fun _ h => h, fun _ _ => rfl⟩
  | interrupt =>
    dsimp only
    split
    · exact Or.inr ⟨rfl, hphase, ⟨[], rfl⟩, ⟨[], rfl, rfl⟩, fun _ h => h, fun _ _ => rfl⟩
    · exact Or.inr ⟨rfl, by simp, ⟨[_], rfl⟩, ⟨[], rfl, rfl⟩, fun _ h => h, fun _ _ => rfl⟩

/-- Whatever a turn is, it shows what it does to the session below. -/
theorem shows_turn (turn : Turn) (hrunning : watching.phase = .running) :
    Shows settings options watching.session (watching.steps settings options turn)
      (watching.turn settings options turn).1 (watching.turn settings options turn).2 := by
  rcases @reads_or_isQuiet settings options watching turn hrunning with
    ⟨event, rfl, hread⟩ | hquiet
  · rw [turn_of_event hrunning hread, steps, hread]
    exact @shows_deal settings options { watching with receiver := watching.receiver.step.2 } event
      hrunning
  · obtain ⟨lines, hlines⟩ := hquiet.effects
    obtain ⟨answers, hrun, hanswers⟩ := hquiet.session
    rw [hlines]
    exact shows_silent lines hrun hanswers hquiet.failed

/-- Dealing with an event has nothing to do with the channel. -/
theorem receiver_deal (watching : Watching) (event : ChangeEvent) :
    (watching.deal settings options event).2.receiver = watching.receiver := by
  cases hreload : event.requiresReload with
  | false => rw [deal_of_not_requiresReload hreload]
  | true =>
    cases hcompose : watching.store.loader.compose watching.disk with
    | error error => rw [deal_of_error hreload hcompose]
    | ok composition => rw [deal_of_ok hreload hcompose]

/-- What is left of the receiver after a turn is what it makes of the turn itself. -/
theorem receiver_turn (history : Receiver.History) (turn : Turn)
    (hreceiver : history.receiver = watching.receiver) (hrunning : watching.phase = .running) :
    ((watching.heard turn).foldl Receiver.History.turn history).receiver
      = (watching.turn settings options turn).2.receiver := by
  rcases @reads_or_isQuiet settings options watching turn hrunning with
    ⟨event, rfl, hread⟩ | hquiet
  · rw [turn_of_event hrunning hread, receiver_deal, ← hreceiver]
    rfl
  · exact hquiet.receiver history hreceiver

/-! ## Courses -/

/-- A run that watches, with what its turns have come to. -/
structure Course where
  watching : Watching
  effects : List Effect := []
  /-- The turns of the receiver. -/
  heard : List Receiver.Turn := []
  /-- The steps of the session below. -/
  done : List Session.Step := []

/-- One turn. Once the run is over nothing more comes of turns. -/
def Course.turn (settings : Settings) (options : WatchOptions) (course : Course) (turn : Turn) :
    Course :=
  if course.watching.phase = .running then
    { watching := (course.watching.turn settings options turn).2
      effects := course.effects ++ (course.watching.turn settings options turn).1
      heard := course.heard ++ course.watching.heard turn
      done := course.done ++ course.watching.steps settings options turn }
  else course

/-- What comes of some turns. -/
def course (settings : Settings) (options : WatchOptions) (opening : Watching)
    (turns : List Turn) : Course :=
  turns.foldl (Course.turn settings options) { watching := opening }

theorem course_concat (opening : Watching) (turns : List Turn) (turn : Turn) :
    course settings options opening (turns ++ [turn])
      = (course settings options opening turns).turn settings options turn :=
  List.foldl_concat ..

theorem watching_turn (course : Course) (turn : Turn) :
    (course.turn settings options turn).watching
      = (course.watching.turn settings options turn).2 := by
  rw [Course.turn, Watching.turn.eq_def]
  split <;> rfl

theorem effects_turn (course : Course) (turn : Turn) :
    (course.turn settings options turn).effects
      = course.effects ++ (course.watching.turn settings options turn).1 := by
  rw [Course.turn]
  split
  · rfl
  · next hover =>
    unfold Watching.turn
    rw [if_neg hover, List.append_nil]

/-- A course is a run with a record of what it means. -/
theorem foldl_turn_eq_run (start : Course) (turns : List Turn) :
    (turns.foldl (Course.turn settings options) start).effects
        = start.effects ++ (start.watching.run settings options turns).1 ∧
      (turns.foldl (Course.turn settings options) start).watching
        = (start.watching.run settings options turns).2 := by
  -- the run is built from its first turn, the course up to its last one, hence any start
  induction turns generalizing start with
  | nil => exact ⟨(List.append_nil _).symm, rfl⟩
  | cons turn rest ih =>
    obtain ⟨heffects, hwatching⟩ := ih (start.turn settings options turn)
    rw [List.foldl_cons, run, heffects, hwatching, watching_turn, effects_turn, List.append_assoc]
    exact ⟨rfl, rfl⟩

theorem run_eq_course (opening : Watching) (turns : List Turn) :
    opening.run settings options turns
      = ((course settings options opening turns).effects,
          (course settings options opening turns).watching) := by
  obtain ⟨heffects, hwatching⟩ := foldl_turn_eq_run { watching := opening } turns
  exact Prod.ext heffects.symm hwatching.symm

/-- The receiver of a course goes through the turns that are heard. -/
theorem after_heard_turn {course : Course} {turn : Turn}
    (h : course.watching.phase = .running) :
    Receiver.History.after (course.turn settings options turn).heard
      = (course.watching.heard turn).foldl Receiver.History.turn
          (Receiver.History.after course.heard) := by
  rw [Course.turn, if_pos h]
  exact List.foldl_append

/-- The receiver is where its turns lead, and the run shows what is composed below it. -/
structure Joins (settings : Settings) (options : WatchOptions) (opening : Watching)
    (course : Course) : Prop where
  receiver : (Receiver.History.after course.heard).receiver = course.watching.receiver
  shows : Shows settings options opening.session course.done course.effects course.watching

theorem Joins.turn {opening : Watching} {course : Course}
    (h : Joins settings options opening course) (turn : Turn) :
    Joins settings options opening (course.turn settings options turn) := by
  by_cases hrunning : course.watching.phase = .running
  · constructor
    · rw [after_heard_turn hrunning, watching_turn]
      exact receiver_turn _ turn h.receiver hrunning
    · rw [Course.turn, if_pos hrunning]
      exact h.shows.append hrunning (shows_turn turn hrunning)
  · rw [Course.turn, if_neg hrunning]
    exact h

/-- A run that has just begun: the channel is new and the watcher has not ended. -/
structure Begins (opening : Watching) : Prop where
  receiver : opening.receiver = {}
  running : opening.phase = .running

theorem joins_course {opening : Watching} (h : Begins opening) (turns : List Turn) :
    Joins settings options opening (course settings options opening turns) := by
  induction turns using List.reverseRecOn with
  | nil =>
    have hphase : ∀ failure, opening.phase ≠ .failed failure := by simp [h.running]
    exact ⟨h.receiver.symm, shows_silent [] rfl rfl hphase⟩
  | append_singleton turns turn ih =>
    rw [course_concat]
    exact ih.turn turn

/-! ## What is shown -/

theorem exists_fault_of_deal {event : ChangeEvent} {failure : Failure}
    (hrunning : watching.phase = .running)
    (h : (watching.deal settings options event).2.phase = .failed failure) :
    ∃ fault, failure = .unwritable fault := by
  cases hreload : event.requiresReload with
  | false =>
    rw [deal_of_not_requiresReload hreload, hrunning] at h
    cases h
  | true =>
    cases hcompose : watching.store.loader.compose watching.disk with
    | error error =>
      rw [deal_of_error hreload hcompose, hrunning] at h
      cases h
    | ok composition =>
      rw [deal_of_ok hreload hcompose] at h
      dsimp only at h
      cases hfailure : (Run.emitSchema settings options watching.disk composition).failure with
      | none =>
        rw [hfailure] at h
        cases h
      | some other =>
        rw [hfailure] at h
        cases h
        obtain ⟨fault, hfault, -⟩ := Run.emit_of_failure hfailure
        exact ⟨fault, hfault⟩

/-- A run can fail in one way only: a schema cannot be written. An error of the notifier or of
composing does not end it. -/
theorem exists_fault_of_turn {turn : Turn} {failure : Failure}
    (hrunning : watching.phase = .running)
    (h : (watching.turn settings options turn).2.phase = .failed failure) :
    ∃ fault, failure = .unwritable fault := by
  rcases @reads_or_isQuiet settings options watching turn hrunning with
    ⟨event, rfl, hread⟩ | hquiet
  · rw [turn_of_event hrunning hread] at h
    exact @exists_fault_of_deal settings options
      { watching with receiver := watching.receiver.step.2 } event failure hrunning h
  · exact absurd h (hquiet.failed failure)

theorem exists_fault_of_course {opening : Watching} (h : Begins opening) {turns : List Turn}
    {failure : Failure}
    (hfailed : (course settings options opening turns).watching.phase = .failed failure) :
    ∃ fault, failure = .unwritable fault := by
  induction turns using List.reverseRecOn with
  | nil =>
    rw [course, List.foldl_nil, h.running] at hfailed
    cases hfailed
  | append_singleton turns turn ih =>
    rw [course_concat] at hfailed
    by_cases hrunning : (course settings options opening turns).watching.phase = .running
    · rw [watching_turn] at hfailed
      exact exists_fault_of_turn hrunning hfailed
    · rw [Course.turn, if_neg hrunning] at hfailed
      exact ih hfailed

/-! ## The last event read -/

/-- An event that calls for a reload leaves the store as the reload does, emitted or not. -/
theorem store_deal {event : ChangeEvent} (h : event.requiresReload = true) :
    (watching.deal settings options event).2.store = (watching.store.reload watching.disk).2 := by
  cases hcompose : watching.store.loader.compose watching.disk with
  | error error => rw [deal_of_error h hcompose, Store.reload_of_error hcompose]
  | ok composition => rw [deal_of_ok h hcompose, Store.reload_of_ok hcompose]

/-- What has been published in the course of some turns. -/
def publishedIn (settings : Settings) (options : WatchOptions) (opening : Watching)
    (turns : List Turn) : List ChangeEvent :=
  (Receiver.History.after (course settings options opening turns).heard).published

/-- The loop has read an event in some step, as the latest of those published, and the store is
still as that step has left it. -/
def HasReadLast (settings : Settings) (options : WatchOptions) (opening : Watching)
    (turns : List Turn) (entry : Nat × ChangeEvent) : Prop :=
  ∃ before later, turns = before ++ .step :: later ∧
    (course settings options opening before).watching.phase = .running ∧
    (course settings options opening before).watching.receiver.step.1 = some entry.2 ∧
    (publishedIn settings options opening before).length = entry.1 + 1 ∧
    (course settings options opening turns).watching.store
      = ((course settings options opening before).watching.turn settings options .step).2.store

/-- A turn that leaves the store alone may follow. -/
theorem HasReadLast.concat {opening : Watching} {turns : List Turn} {entry : Nat × ChangeEvent}
    (h : HasReadLast settings options opening turns entry) (turn : Turn)
    (hstore : ((course settings options opening turns).turn settings options turn).watching.store
      = (course settings options opening turns).watching.store) :
    HasReadLast settings options opening (turns ++ [turn]) entry := by
  obtain ⟨before, later, hturns, hrunning, hread, hlength, hleft⟩ := h
  refine ⟨before, later ++ [turn], ?_, hrunning, hread, hlength, ?_⟩
  · rw [hturns, List.append_assoc, List.cons_append]
  · rw [course_concat, hstore, hleft]

/-- The last event that was obtained is the last one that the loop has read. -/
theorem hasReadLast_of_obtained {opening : Watching} (h : Begins opening) {turns : List Turn}
    {entry : Nat × ChangeEvent}
    (hlast : (Receiver.History.after
      (course settings options opening turns).heard).obtained.getLast? = some entry) :
    HasReadLast settings options opening turns entry := by
  induction turns using List.reverseRecOn with
  | nil => cases hlast
  | append_singleton turns turn ih =>
    rw [course_concat] at hlast
    by_cases hrunning : (course settings options opening turns).watching.phase = .running
    · have hjoins := @joins_course settings options opening h turns
      rw [after_heard_turn hrunning] at hlast
      rcases @reads_or_isQuiet settings options _ turn hrunning with ⟨event, rfl, hevent⟩ | hquiet
      · -- the event that is read in this step is the last one obtained
        obtain ⟨place, hlength, hobtained⟩ :=
          (Receiver.History.tracks_after _).obtained_turn_step (hjoins.receiver ▸ hevent)
        have hentry := hlast.symm.trans (congrArg List.getLast? hobtained)
        rw [List.getLast?_concat] at hentry
        cases hentry
        refine ⟨turns, [], rfl, hrunning, hevent, hlength, ?_⟩
        rw [course_concat, watching_turn]
      · rw [hquiet.obtained _ hjoins.receiver] at hlast
        refine (ih hlast).concat turn ?_
        rw [watching_turn, hquiet.store]
    · -- the run is over, so this turn changes nothing
      have hover : (course settings options opening turns).turn settings options turn
          = course settings options opening turns := if_neg hrunning
      rw [hover] at hlast
      exact (ih hlast).concat turn (by rw [hover])

/-- Nothing that has been heard is taken back. -/
theorem heard_append (opening : Watching) (before later : List Turn) :
    (course settings options opening before).heard
      <+: (course settings options opening (before ++ later)).heard := by
  induction later using List.reverseRecOn with
  | nil => simp
  | append_singleton later turn ih =>
    rw [← List.append_assoc, course_concat, Course.turn]
    split
    · exact ih.trans (List.prefix_append _ _)
    · exact ih

/-- If as much has been published after some turns as in the end, it is the same. -/
theorem publishedIn_eq_of_length {opening : Watching} {before later : List Turn}
    (h : (publishedIn settings options opening before).length
      = (publishedIn settings options opening (before ++ later)).length) :
    publishedIn settings options opening before
      = publishedIn settings options opening (before ++ later) := by
  obtain ⟨rest, hrest⟩ := @heard_append settings options opening before later
  rw [publishedIn, publishedIn, Receiver.History.published_after, Receiver.History.published_after,
    ← hrest, List.flatMap_append] at h ⊢
  exact (List.prefix_append _ _).eq_of_length h

/-- When the receiver has seen everything, and the last event published calls for a reload, the
store is as a reload has left it that came after the event had been published. -/
theorem store_of_isSettled {opening : Watching} (h : Begins opening) {turns : List Turn}
    {event : ChangeEvent}
    (hsettled : (course settings options opening turns).watching.receiver.isSettled = true)
    (hlast : (publishedIn settings options opening turns).getLast? = some event)
    (hreload : event.requiresReload = true) :
    ∃ before later, turns = before ++ .step :: later ∧
      publishedIn settings options opening before = publishedIn settings options opening turns ∧
      (course settings options opening turns).watching.store
        = ((course settings options opening before).watching.store.reload
            (course settings options opening before).watching.disk).2 := by
  have htracks := Receiver.History.tracks_after (course settings options opening turns).heard
  rw [← (@joins_course settings options opening h turns).receiver] at hsettled
  have hobtained := htracks.getLast?_obtained hsettled
  rw [← publishedIn, hlast, Option.map_eq_some_iff] at hobtained
  obtain ⟨entry, hentry, rfl⟩ := hobtained
  -- the last event obtained is the last one published, so nothing was published after its step
  have hreached := htracks.settled hsettled
  rw [Receiver.History.reached, hentry, Option.map_some, Option.getD_some] at hreached
  obtain ⟨before, later, rfl, hrunning, hread, hlength, hstore⟩ := hasReadLast_of_obtained h hentry
  refine ⟨before, later, rfl, publishedIn_eq_of_length (hlength.trans hreached), ?_⟩
  rw [hstore, turn_of_event hrunning hread, store_deal hreload]

end Watching

/-! ## Runs -/

namespace Run

variable {settings : Settings} {environment : Environment} {options : WatchOptions}
  {refuses : Path → Option String} {disk : Disk} {turns : List Watching.Turn}

/-- The loop of a run as its first schema has been emitted. -/
structure Opens (settings : Settings) (environment : Environment) (options : WatchOptions)
    (disk : Disk) (opening : Watching) : Prop where
  begins : Watching.Begins opening
  store_eq : Store.ofLoader { paths := settings.schemaPaths environment } disk = .ok opening.store
  disk_eq : opening.disk = (emitSchema settings options disk opening.store.current).disk

/-- A run fails as it starts, or the notifier refuses to watch, or all that comes after the first
schema comes from the loop. -/
theorem watch_cases (settings : Settings) (environment : Environment) (options : WatchOptions)
    (refuses : Path → Option String) (disk : Disk) (turns : List Watching.Turn) :
    (∃ failure, (watchStart settings environment options disk).failure = some failure ∧
      (watch settings environment options refuses disk turns).failure = some failure) ∨
    (∃ message, (watch settings environment options refuses disk turns).failure
      = some (.unwatchable message)) ∨
    ∃ opening, Opens settings environment options disk opening ∧
      (watch settings environment options refuses disk turns).failure
        = (opening.run settings options turns).2.failure? ∧
      Effect.texts (watch settings environment options refuses disk turns).effects
        = schemaText settings options opening.store.current
          :: Effect.texts (opening.run settings options turns).1 ∧
      (watch settings environment options refuses disk turns).disk
        = (opening.run settings options turns).2.disk := by
  unfold watch
  dsimp only
  cases hstart : (watchStart settings environment options disk).failure with
  | some failure => exact Or.inl ⟨failure, rfl, hstart⟩
  | none =>
    obtain ⟨store, hopen, hdisk, htexts⟩ := texts_watchStart hstart
    rw [hopen]
    dsimp only
    rw [Outcome.failure_after, Outcome.failure_afterLog, Outcome.texts_effects_after,
      Outcome.texts_effects_afterLog, htexts]
    cases (startWatcher refuses (watchStart settings environment options disk).disk
        ((settings.schemaPaths environment).existingDirs disk)).2 with
    | some message => exact Or.inr (Or.inl ⟨message, rfl⟩)
    | none =>
      exact Or.inr (Or.inr
        ⟨⟨store, (watchStart settings environment options disk).disk, {}, false, .running⟩,
          ⟨⟨rfl, rfl⟩, hopen, hdisk⟩, rfl, rfl, rfl⟩)

/-- Behind its first schema a run fails in two ways only: the notifier refuses to watch, or a schema
cannot be written. Neither an error of the notifier nor one of composing ends it. -/
theorem failure_of_watch {failure : Failure}
    (hstart : (watchStart settings environment options disk).failure = none)
    (h : (watch settings environment options refuses disk turns).failure = some failure) :
    (∃ message, failure = .unwatchable message) ∨ ∃ fault, failure = .unwritable fault := by
  rcases watch_cases settings environment options refuses disk turns with
    ⟨_, hfailed, -⟩ | ⟨message, hrefused⟩ | ⟨opening, hopens, hloop, -⟩
  · rw [hstart] at hfailed
    cases hfailed
  · rw [hrefused] at h
    cases h
    exact Or.inl ⟨message, rfl⟩
  · rw [hloop, Watching.run_eq_course, Watching.failure?] at h
    dsimp only at h
    split at h
    · next hphase =>
      cases h
      exact Or.inr (Watching.exists_fault_of_course hopens.begins hphase)
    · cases h
    · cases h

/-- Below the loop there is a session that was opened on the disk of the run; its first steps are
those of emitting the first schema. -/
theorem Opens.reached {opening : Watching}
    (h : Opens settings environment options disk opening) (turns : List Watching.Turn) :
    Session.Reached { paths := settings.schemaPaths environment } disk
      (Watching.emissionSteps settings options opening.store.current
        ++ (Watching.course settings options opening turns).done)
      (Watching.course settings options opening turns).watching.session := by
  refine ⟨opening.store, h.store_eq, ?_⟩
  have hopening : (Session.run ⟨disk, opening.store⟩
      (Watching.emissionSteps settings options opening.store.current)).2 = opening.session := by
    rw [(Watching.run_emission settings options disk opening.store _).1, ← h.disk_eq]
    rfl
  rw [Session.run_append, hopening]
  exact (Watching.joins_course h.begins turns).shows.session.symm

/-- Whatever happens meanwhile, a run that watches and does not fail emits its first schema and then
every schema that a reload composes, in order. The last text emitted is that of the current schema,
the latest one that could be composed. -/
theorem watch_shows_composed
    (h : (watch settings environment options refuses disk turns).failure = none) :
    ∃ opening course, Opens settings environment options disk opening ∧
      course = Watching.course settings options opening turns ∧
      Effect.texts (watch settings environment options refuses disk turns).effects
        = (opening.store.current :: opening.session.schemas course.done).map
            (schemaText settings options) ∧
      (Effect.texts (watch settings environment options refuses disk turns).effects).getLast?
        = some (schemaText settings options course.watching.store.current) ∧
      (watch settings environment options refuses disk turns).disk = course.watching.disk ∧
      Session.IsLatest { paths := settings.schemaPaths environment }
        (disk :: Session.attempts disk
          (Watching.emissionSteps settings options opening.store.current ++ course.done))
        course.watching.store.current := by
  obtain ⟨_, -, hfailed⟩ | ⟨message, hrefused⟩ | ⟨opening, hopens, hfailure, htexts, hdisk⟩ :=
    watch_cases settings environment options refuses disk turns
  · exact absurd (hfailed.symm.trans h) (by simp)
  · exact absurd (hrefused.symm.trans h) (by simp)
  rw [h, eq_comm] at hfailure
  have hshows := (@Watching.joins_course settings options opening hopens.begins turns).shows
  rw [Watching.run_eq_course] at hfailure htexts hdisk
  have hall := hshows.texts
  rw [Watching.emittedOf_of_failure?_eq_none hfailure] at hall
  have hcurrent := Session.current_run_eq opening.session
    (Watching.course settings options opening turns).done
  rw [hshows.session] at hcurrent
  refine ⟨opening, _, hopens, rfl, ?_, ?_, hdisk,
    (Session.follows_of_reached (hopens.reached turns)).latest⟩
  · rw [htexts, hall, List.map_cons]
  · rw [htexts, hall, ← List.map_cons, List.getLast?_map, List.getLast?_cons, Option.map_some]
    exact congrArg (some <| schemaText settings options ·) hcurrent.symm

/-- A change of a fragment file that overtakes the loop is read, and as it does not count as seen it
is read once more: the same schema is emitted twice. -/
example :
    let texts := Effect.texts (watch { partsDir := ⟨"parts"⟩ } { bindings := [] }
      { debounce := defaultDebounce } (fun _ => none) Session.cloudDisk
      [.batch (.changes [⟨⟨"parts/CloudSchema.json"⟩, false⟩]), .step,
       .change (·.write ⟨"parts/CloudSchema.json"⟩ "\x7b\"version\":\"2\"\x7d".toUTF8),
       .batch (.changes [⟨⟨"parts/CloudSchema.json"⟩, false⟩]), .step, .step, .step]).effects
    texts.length = 3 ∧ texts[0]? ≠ texts[1]? ∧ texts[1]? = texts[2]? := by
  decide +kernel

/-- If the receiver has seen everything, and the last event published calls for a reload, then there
was a reload after that event had been published, and the store is still as it has left it. -/
theorem reload_of_isSettled {opening : Watching} {event : ChangeEvent}
    (h : Opens settings environment options disk opening)
    (hsettled : (Watching.course settings options opening turns).watching.receiver.isSettled = true)
    (hlast : (Watching.publishedIn settings options opening turns).getLast? = some event)
    (hreload : event.requiresReload = true) :
    ∃ before later earlier, turns = before ++ .step :: later ∧
      earlier = (Watching.course settings options opening before).watching ∧
      Watching.publishedIn settings options opening before
        = Watching.publishedIn settings options opening turns ∧
      (Watching.course settings options opening turns).watching.store
        = (Store.reload
            { loader := { paths := settings.schemaPaths environment }
              current := earlier.store.current } earlier.disk).2 := by
  obtain ⟨before, later, hturns, hpublished, hstore⟩ :=
    Watching.store_of_isSettled h.begins hsettled hlast hreload
  have hloader := (Session.follows_of_reached (h.reached before)).loader_eq
  exact ⟨before, later, _, hturns, rfl, hpublished, hloader ▸ hstore⟩

end Run

end LayeredSchema
