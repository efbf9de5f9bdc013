import LayeredSchema.Schema.Paths

/-!
# Changes of fragment files

A notifier hands over batches of changed paths, or an error. A batch with fragment files becomes
one event. The receiver sees events through a channel that holds the latest one only. It waits in
two steps: first it is told that there is an event which it has not seen, and then it reads the one
that is the latest by then.
-/

namespace LayeredSchema

/-- What a receiver learns about fragment files. -/
inductive ChangeEvent where
  /-- One fragment file has changed. -/
  | fragment (kind : Kind) (path : Path)
  /-- Several fragment files have changed. -/
  | batch (paths : List Path)
  /-- The notifier has failed. -/
  | error (message : String)
  deriving DecidableEq

namespace ChangeEvent

/-- Whether the schema should be composed again. -/
def requiresReload : ChangeEvent → Bool
  | error _ => false
  | _ => true

/-- The files that have changed. -/
def affectedPaths : ChangeEvent → List Path
  | fragment _ path => [path]
  | batch paths => paths
  | error _ => []

end ChangeEvent

/-- A change of a path, which may still be going on. -/
structure PathEvent where
  path : Path
  continuous : Bool := false
  deriving DecidableEq

/-- What a notifier hands over at a time. -/
inductive Batch where
  | changes (events : List PathEvent)
  | failure (message : String)
  deriving DecidableEq

/-- The kind of fragment that a changed path holds: its extension must be one of those looked for,
and its stem that of a kind. -/
def classifyPath (path : Path) : Option Kind :=
  match path.extension? with
  | none => none
  | some extension =>
    if SourceFormat.extensions.contains extension then Kind.ofPath? path else none

/-- The changed paths that hold fragments, with their kinds. -/
def classified (paths : List Path) : List (Kind × Path) :=
  paths.filterMap fun path => (classifyPath path).map (·, path)

/-- The event of changed paths. -/
def classifyPaths (paths : List Path) : Option ChangeEvent :=
  match classified paths with
  | [] => none
  | [(kind, path)] => some (.fragment kind path)
  | several => some (.batch (several.map Prod.snd))

/-- The event that a batch publishes. -/
def Batch.event? : Batch → Option ChangeEvent
  | changes events => classifyPaths (events.map PathEvent.path)
  | failure message => some (.error message)

/-- The channel from the watcher to its receiver: the latest event, and whether it counts as seen.
An event is seen once the receiver has been told of it. -/
structure Channel where
  latest : Option ChangeEvent := none
  seen : Bool := true
  deriving DecidableEq

namespace Channel

/-- Replaces the latest event by a new one. -/
def publish (_ : Channel) (event : ChangeEvent) : Channel :=
  { latest := some event, seen := false }

/-- Publishes the event of a batch, if it has one. -/
def feed (channel : Channel) (batch : Batch) : Channel :=
  match batch.event? with
  | some event => channel.publish event
  | none => channel

/-- Tells the receiver that there is an event which it has not seen. From then on the event counts
as seen. Without such an event the receiver has to wait. -/
def changed? (channel : Channel) : Option Channel :=
  if channel.seen then none else some { channel with seen := true }

/-- The latest event. Looking at it does not make it seen. -/
def borrow (channel : Channel) : Option ChangeEvent :=
  channel.latest

/-- What the receiver obtains if nothing is published while it looks. -/
def receive (channel : Channel) : Option ChangeEvent × Channel :=
  match channel.changed? with
  | some told => (told.borrow, told)
  | none => (none, channel)

end Channel

/-- The receiver at the channel. Between being told of an event and reading one it is `told`, and
the watcher may publish in between. -/
structure Receiver where
  channel : Channel := {}
  told : Bool := false
  deriving DecidableEq

namespace Receiver

/-- The receiver after the watcher was fed a batch. -/
def feed (receiver : Receiver) (batch : Batch) : Receiver :=
  { receiver with channel := receiver.channel.feed batch }

/-- One step of waiting for a change: the event that is read, if one is, and the receiver after it.
If the channel turns out to be empty the receiver waits again. -/
def step (receiver : Receiver) : Option ChangeEvent × Receiver :=
  if receiver.told then (receiver.channel.borrow, { receiver with told := false })
  else
    match receiver.channel.changed? with
    | some channel => (none, { channel, told := true })
    | none => (none, receiver)

/-- Whether the receiver has seen everything there is to see: it waits, and there is no event that
it has not been told of. -/
def isSettled (receiver : Receiver) : Bool :=
  !receiver.told && receiver.channel.changed?.isNone

end Receiver

/-- The directories handed to the notifier: those that exist. -/
def watchedDirs (disk : Disk) (dirs : List Path) : List Path :=
  dirs.filter disk.holds

/-- How long changes are gathered before they are handed over, in milliseconds. -/
def defaultDebounce : Nat := 500

end LayeredSchema
