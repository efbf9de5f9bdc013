import LayeredSchema.Command.Line
import LayeredSchema.Log
import LayeredSchema.Schema.Report
import LayeredSchema.Schema.Store
import LayeredSchema.Settings.File

/-!
# Runs of the program

A run is a function of the words of the command line, the environment and the disk. It gives a
sequence of effects, the disk that they leave behind, and a failure or none.
-/

namespace LayeredSchema

/-- What a run does to the world outside. -/
inductive Effect where
  | log (line : LogLine)
  | print (text : String)
  | write (path : Path) (text : String)
  deriving DecidableEq

/-- Why a run fails. -/
inductive Failure where
  | usage (fault : UsageFault)
  | settings (error : Settings.LoadError)
  | schema (error : SchemaError)
  /-- The log or the schema cannot be written. -/
  | unwritable (fault : Fault)
  /-- A check has found something, and warnings are denied. -/
  | problemsFound
  /-- No directory can be watched. -/
  | nothingToWatch
  /-- The notifier refuses to watch a directory. -/
  | unwatchable (message : String)
  deriving DecidableEq

namespace Failure

/-- The wording of a failure. -/
def message : Failure → String
  | usage fault => fault.name
  | settings (.unreadable fault) => fault.message
  | settings .malformed => "malformed configuration file"
  | schema error => error.report.message
  | unwritable fault => fault.message
  | problemsFound => "device schema check found problems"
  | nothingToWatch => "no fragment directory exists to watch"
  | unwatchable message => message

/-- The exit code of a run that fails. -/
def exitCode : Failure → Nat
  | usage fault => fault.exitCode
  | _ => 1

end Failure

/-- What comes of a run. -/
structure Outcome where
  effects : List Effect := []
  failure : Option Failure := none
  disk : Disk

namespace Outcome

/-- The outcome behind effects that come first. -/
def after (outcome : Outcome) (effects : List Effect) : Outcome :=
  { outcome with effects := effects ++ outcome.effects }

/-- The outcome behind lines of the log. -/
def afterLog (outcome : Outcome) (lines : List LogLine) : Outcome :=
  outcome.after (lines.map .log)

/-- The exit code. -/
def exitCode (outcome : Outcome) : Nat :=
  match outcome.failure with
  | some failure => failure.exitCode
  | none => 0

/-- The text on the standard output, the log apart. -/
def stdout (outcome : Outcome) : String :=
  String.join <| outcome.effects.map fun
    | .print text => text
    | _ => ""

end Outcome

/-- The least level that is logged. -/
def isLogged (verbose : Bool) (line : LogLine) : Bool :=
  verbose || line.level ≠ .debug

namespace Run

/-- The version that the program reports. -/
def versionText : String := "device-schema 0.1.0\n"

/-- Fails. -/
def fail (disk : Disk) (failure : Failure) : Outcome :=
  { failure := some failure, disk }

/-- Writes a text to a file, or prints it if there is none. -/
def emit (disk : Disk) (text : String) (output : Option Path) : Outcome :=
  match output with
  | none => { effects := [.print text], disk }
  | some path =>
    match disk.write path text.toUTF8 with
    | .error fault => fail disk (.unwritable fault)
    | .ok disk =>
      { effects :=
          [.write path text,
           .log { level := .info, message := "Composed schema written"
                  fields := [("path", path.text)] }]
        disk }

/-- The format to write in: the one asked for, else the one set. -/
def formatOf (settings : Settings) (format : Option OutputFormat) : OutputFormat :=
  format.getD settings.format

/-- Composes the schema and emits it. -/
def compose (settings : Settings) (environment : Environment) (options : ComposeOptions)
    (disk : Disk) : Outcome :=
  let loader : Loader := ⟨settings.schemaPaths environment, options.requireAll⟩
  let outcome :=
    match loader.compose disk with
    | .error error => fail disk (.schema error)
    | .ok composition =>
      match composition.output options.strict with
      | .error error => fail disk (.schema error)
      | .ok value =>
        let text := (formatOf settings options.format).render value settings.pretty
        emit disk text options.output
  outcome.afterLog (loader.log disk)

/-- Checks the fragments and prints the report. -/
def check (settings : Settings) (environment : Environment) (options : CheckOptions)
    (disk : Disk) : Outcome :=
  let loader : Loader := { paths := settings.schemaPaths environment }
  let outcome :=
    match CheckReport.build loader disk with
    | .error error => fail disk (.schema error)
    | .ok report =>
      { effects := [.print (report.render options.format settings.pretty)]
        failure :=
          if options.denyWarnings && !report.isClean then some .problemsFound else none
        disk }
  outcome.afterLog (loader.log disk)

/-- Emits the base layer. -/
def defaults (settings : Settings) (format : Option OutputFormat) (disk : Disk) : Outcome :=
  emit disk ((formatOf settings format).render (.ofMapping Defaults.base) settings.pretty) none

/-- The lines about directories that do not exist. -/
def missingDirLog (paths : SchemaPaths) (disk : Disk) : List LogLine :=
  ((paths.tiers.map Prod.fst).filter fun dir => !disk.isDirectory dir).map fun dir =>
    { level := .warn
      message := "Fragment directory does not exist; restart watch after creating it"
      fields := [("dir", dir.text)] }

/-- The text of a schema that was composed while watching. -/
def schemaText (settings : Settings) (options : WatchOptions) (composition : Composition) :
    String :=
  (formatOf settings options.format).render (.ofMapping composition.schema) settings.pretty

/-- Emits a schema that was composed while watching. -/
def emitSchema (settings : Settings) (options : WatchOptions) (disk : Disk)
    (composition : Composition) : Outcome :=
  emit disk (schemaText settings options composition) options.output

/-- Composes the schema as watching starts, and emits it. What comes after that is `watch`. -/
def watchStart (settings : Settings) (environment : Environment) (options : WatchOptions)
    (disk : Disk) : Outcome :=
  let loader : Loader := { paths := settings.schemaPaths environment }
  let outcome :=
    if (loader.paths.existingDirs disk).isEmpty then fail disk .nothingToWatch
    else
      let opened :=
        match Store.ofLoader loader disk with
        | .error error => fail disk (.schema error)
        | .ok store => emitSchema settings options disk store.current
      opened.afterLog (loader.log disk)
  outcome.afterLog (missingDirLog loader.paths disk)

/-- Runs a command; without one, the schema is composed and printed. A run that watches ends with
its first schema here: what comes after that is up to a notifier, see `watch`. -/
def command (settings : Settings) (environment : Environment) (command : Option Command)
    (disk : Disk) : Outcome :=
  match command with
  | none => compose settings environment {} disk
  | some (.compose options) => compose settings environment options disk
  | some (.check options) => check settings environment options disk
  | some (.defaults format) => defaults settings format disk
  | some (.watch options) => watchStart settings environment options disk

/-- The settings with the directories that the command line names. -/
def withArguments (settings : Settings) (arguments : Arguments) : Settings :=
  { settings with
    partsDir := (arguments.partsDir.map Path.mk).getD settings.partsDir
    userDir := (arguments.userDir.map Path.mk).or settings.userDir }

/-- The line about a format in the environment that is not known. -/
def overrideLog (settings : Settings) (environment : Environment) : List LogLine :=
  (settings.overrideWarning? environment.get?).toList.map fun warning =>
    { level := .warn, message := warning.message }

/-- The line about the settings in force. -/
def settingsLog (settings : Settings) : LogLine :=
  { level := .debug, message := "Configuration loaded"
    fields := [("parts_dir", settings.partsDir.text)] }

/-- Loads the settings and runs the command. -/
def configured (arguments : Arguments) (environment : Environment) (disk : Disk) : Outcome :=
  match Settings.loadFile disk (arguments.config.map Path.mk) with
  | .error error => fail disk (.settings error)
  | .ok file =>
    let settings := withArguments (file.overrideBy environment.get?) arguments
    (command settings environment arguments.command disk).afterLog
      (overrideLog file environment ++ [settingsLog settings])

/-- The disk with the log file, which is made if it is not there. -/
def openLog (target : LogTarget) (disk : Disk) : Except Fault Disk :=
  match target with
  | .file path =>
    match disk.find path with
    | .ok (.file _) => .ok disk
    | _ => disk.write path ByteArray.empty
  | _ => .ok disk

/-- Runs with arguments that have been read. The log is opened first, and its lines are effects of
the run: they go to the log behind the run's back and do not reach the disk that the run reads. So
a log that goes to a file which the run reads as well, a candidate for a fragment or the
configuration, is out of the picture from its first line on. -/
def withLog (arguments : Arguments) (environment : Environment) (disk : Disk) : Outcome :=
  match openLog (LogTarget.ofText arguments.log) disk with
  | .error fault => fail disk (.unwritable fault)
  | .ok disk => configured arguments environment disk

/-- Reads the arguments and runs with them. -/
def ofWords (words : List String) (environment : Environment) (disk : Disk) : Outcome :=
  match Arguments.ofWords words with
  | .ok arguments => withLog arguments environment disk
  | .error .displayVersion =>
    { effects := [.print versionText], failure := some (.usage .displayVersion), disk }
  | .error fault => fail disk (.usage fault)

end Run

/-! ## What is logged -/

namespace Outcome

/-- The lines among effects that are logged. -/
def loggedLines (verbose : Bool) (effects : List Effect) : List LogLine :=
  effects.filterMap fun
    | .log line => if isLogged verbose line then some line else none
    | _ => none

/-- The effects behind the last one that overwrites the file at a location. -/
def sinceOverwritten (disk : Disk) (location : Location) : List Effect → List Effect
  | [] => []
  | effect :: rest =>
    let overwrites := fun
      | Effect.write path _ => decide ((disk.locate path).toOption = some location)
      | _ => false
    if rest.any overwrites then sinceOverwritten disk location rest
    else if overwrites effect then rest
    else effect :: rest

/-- The lines of the log that a run leaves in a file, if that is the file the log goes to. -/
def linesInFile (outcome : Outcome) (arguments : Arguments) (path : Path) : List LogLine :=
  match LogTarget.ofText arguments.log, outcome.disk.locate path with
  | .file target, .ok location =>
    if (outcome.disk.locate target).toOption = some location then
      loggedLines arguments.verbose (sinceOverwritten outcome.disk location outcome.effects)
    else []
  | _, _ => []

end Outcome

end LayeredSchema
