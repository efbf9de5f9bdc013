import LayeredSchema.Command.Run
import LayeredSchema.Schema.Watch

/-!
# Runs that watch

Behind its first schema a run that watches goes round a loop: it waits for a change of fragment
files, composes again, and emits what comes of it. What happens meanwhile comes from outside: the
notifier hands over batches, somebody changes the disk, the run is interrupted. These are `Turn`s
that follow each other in any order, the steps of the loop among them.

A step is either that of being told of an event, or that of reading one and dealing with it. Dealing
with an event touches the disk and the store only and a batch touches the channel only, so nothing
is lost by letting no batch come in between reading and dealing.
-/

namespace LayeredSchema

/-! ## What is logged -/

/-- The name of a kind as a value that is logged. -/
def Kind.constructorName : Kind → String
  | cloud => "Cloud"
  | metric => "Metric"
  | tableMapping => "TableMapping"

namespace ChangeEvent

/-- An event as a value that is logged. -/
def logText : ChangeEvent → String
  | fragment kind path =>
    "Fragment(" ++ kind.constructorName ++ ", " ++ Text.quoted path.text ++ ")"
  | batch paths => "BatchChange(" ++ quotedList (paths.map Path.text) ++ ")"
  | error message => "Error(" ++ Text.quoted message ++ ")"

/-- The line of the watcher about an event that it publishes. -/
def publishedLine : ChangeEvent → LogLine
  | error message => { level := .error, message := "File watcher error: " ++ message }
  | event => { level := .debug, message := "Fragment change detected: " ++ event.logText }

/-- The line about an event that has been read. -/
def readLine : ChangeEvent → LogLine
  | error message =>
    { level := .warn, message := "Fragment watcher reported an error"
      fields := [("event", (error message).logText)] }
  | event =>
    { level := .info, message := "Fragment files changed, recomposing"
      fields := [("paths", quotedList (event.affectedPaths.map Path.text))] }

end ChangeEvent

/-- The lines about a reload. -/
def Store.reloadLog (store : Store) (disk : Disk) : List LogLine :=
  store.loader.log disk
    ++ match store.loader.compose disk with
      | .ok composition =>
        [{ level := .info, message := "Device schema recomposed"
           fields := [("keys", toString composition.schema.size)] }]
      | .error error =>
        [{ level := .warn, message := "Recompose failed, keeping previous schema"
           fields := [("error", error.report.message)] }]

/-! ## The loop -/

/-- Where a run that watches stands. -/
inductive WatchPhase where
  | running
  /-- It has been interrupted, or the watcher has ended. -/
  | stopped
  | failed (failure : Failure)
  deriving DecidableEq

/-- A run that watches, behind its first schema. -/
structure Watching where
  store : Store
  disk : Disk
  receiver : Receiver := {}
  /-- Whether the watcher has ended, so that it publishes nothing any more. -/
  closed : Bool := false
  phase : WatchPhase := .running

namespace Watching

/-- What happens while a run watches, one thing at a time. -/
inductive Turn where
  /-- The notifier hands a batch over. -/
  | batch (batch : Batch)
  /-- The watcher ends. -/
  | close
  /-- The disk changes. A change that fails leaves it as it is. -/
  | change (edit : Disk → Except Fault Disk)
  /-- The loop goes one step on. -/
  | step
  /-- The run is interrupted. It takes notice while it waits. -/
  | interrupt

/-- Feeds a batch to the watcher, which logs and publishes its event. -/
def feed (watching : Watching) (batch : Batch) : List Effect × Watching :=
  if watching.closed then ([], watching)
  else
    ((batch.event?.toList.map ChangeEvent.publishedLine).map .log,
      { watching with receiver := watching.receiver.feed batch })

/-- Ends the watcher, which logs that. -/
def close (watching : Watching) : List Effect × Watching :=
  if watching.closed then ([], watching)
  else
    ([.log { level := .info, message := "Fragment watcher channel closed, stopping" }],
      { watching with closed := true })

/-- Deals with an event: unless it is an error, the schema is composed again and emitted. If that
fails the schema from before is kept and nothing is emitted; if it cannot be emitted, the run
fails. -/
def deal (settings : Settings) (options : WatchOptions) (watching : Watching)
    (event : ChangeEvent) : List Effect × Watching :=
  if event.requiresReload then
    let lines := event.readLine :: watching.store.reloadLog watching.disk
    match watching.store.reload watching.disk with
    | (.error _, store) => (lines.map .log, { watching with store })
    | (.ok composition, store) =>
      let emitted := Run.emitSchema settings options watching.disk composition
      (lines.map .log ++ emitted.effects,
        { watching with
          store
          disk := emitted.disk
          phase := match emitted.failure with
            | none => .running
            | some failure => .failed failure })
  else ([.log event.readLine], watching)

/-- One step of the loop. It is over once the watcher has ended and there is nothing to see. -/
def step (settings : Settings) (options : WatchOptions) (watching : Watching) :
    List Effect × Watching :=
  match watching.receiver.step with
  | (some event, receiver) => deal settings options { watching with receiver } event
  | (none, receiver) =>
    if watching.closed && watching.receiver.isSettled then
      ([.log { level := .info, message := "Fragment watcher stopped" }],
        { watching with phase := .stopped })
    else ([], { watching with receiver })

/-- One turn: its effects and the run after it. A run that is over does nothing any more. -/
def turn (settings : Settings) (options : WatchOptions) (watching : Watching) (turn : Turn) :
    List Effect × Watching :=
  if watching.phase = .running then
    match turn with
    | .batch batch => watching.feed batch
    | .close => watching.close
    | .change edit =>
      match edit watching.disk with
      | .ok disk => ([], { watching with disk })
      | .error _ => ([], watching)
    | .step => watching.step settings options
    | .interrupt =>
      if watching.receiver.told then ([], watching)
      else
        ([.log { level := .info, message := "Interrupted, stopping watch" }],
          { watching with phase := .stopped })
  else ([], watching)

/-- The effects of some turns and the run after them. -/
def run (settings : Settings) (options : WatchOptions) (watching : Watching) :
    List Turn → List Effect × Watching
  | [] => ([], watching)
  | first :: rest =>
    ((watching.turn settings options first).1
        ++ ((watching.turn settings options first).2.run settings options rest).1,
      ((watching.turn settings options first).2.run settings options rest).2)

/-- The failure of a run, if it has failed. -/
def failure? (watching : Watching) : Option Failure :=
  match watching.phase with
  | .failed failure => some failure
  | .running | .stopped => none

end Watching

namespace Run

/-- Has directories watched, those that exist. The notifier may refuse one, and says why; then that
is the end of it. -/
def startWatcher (refuses : Path → Option String) (disk : Disk) :
    List Path → List LogLine × Option String
  | [] => ([], none)
  | dir :: rest =>
    let (lines, refusal) := startWatcher refuses disk rest
    if disk.holds dir then
      let line : LogLine :=
        { level := .info, message := "Watching fragment directory: " ++ dir.text }
      match refuses dir with
      | some message => ([line], some message)
      | none => (line :: lines, refusal)
    else
      let line : LogLine :=
        { level := .warn
          message := "Fragment directory does not exist, skipping watch: " ++ dir.text }
      (line :: lines, refusal)

/-- Composes and emits the schema, has the directories watched, and goes through some turns. -/
def watch (settings : Settings) (environment : Environment) (options : WatchOptions)
    (refuses : Path → Option String) (disk : Disk) (turns : List Watching.Turn) : Outcome :=
  let loader : Loader := { paths := settings.schemaPaths environment }
  let start := watchStart settings environment options disk
  match start.failure, Store.ofLoader loader disk with
  | none, .ok store =>
    let watcher := startWatcher refuses start.disk (loader.paths.existingDirs disk)
    let outcome : Outcome :=
      match watcher.2 with
      | some message => fail start.disk (.unwatchable message)
      | none =>
        let ending := Watching.run settings options { store, disk := start.disk } turns
        { effects := ending.1, failure := ending.2.failure?, disk := ending.2.disk }
    (outcome.afterLog watcher.1).after start.effects
  | _, _ => start

end Run

end LayeredSchema
