import LayeredSchema.Command.Footprint

/-!
# The program

The outer layer takes a picture of the part of the disk that a run looks at, asks `Run.ofWords` for
the outcome, and carries out its effects one by one. It decides nothing.
-/

namespace LayeredSchema

namespace Machine

/-! ## Looking -/

/-- The variables that a run looks at. -/
def variableNames : List String :=
  ["HOME", Environment.partsDirVariable, Environment.userDirVariable, Environment.formatVariable]

/-- The environment of the program. -/
def environment : IO Environment := do
  let bindings ← variableNames.filterMapM fun name => do
    return (← IO.getEnv name).map (name, ·)
  return { bindings }

/-- What stands at a path; anything but a file or a directory counts as nothing. A file that cannot
be opened is there all the same. -/
def entryAt (text : String) : IO (Option DiskEntry) := do
  try
    let place ← IO.FS.realPath text
    match (← place.metadata).type with
    | .dir => return some .directory
    | .file =>
      try return some (.file (← IO.FS.readBinFile place))
      catch _ => return some .locked
    | _ => return none
  catch _ => return none

/-- Adds to a picture of the disk what stands at a path and on the way to it. -/
def observe (disk : Disk) (path : Path) : IO Disk :=
  (List.range path.pieces.length).foldlM
    (fun disk index => do
      let walked := path.pieces.take (index + 1)
      match ← entryAt (String.ofList (List.intercalate ['/'] walked)) with
      | some entry => return disk.set (walked.foldl Disk.step (disk.start path)) entry
      | none => return disk)
    disk

/-- The working directory and the directories above it. -/
def surroundings : IO Disk := do
  let names := (Path.mk (← IO.currentDir).toString).components
  let above := (List.range (names.length + 1)).map fun count => names.take count
  return Disk.ofDirectories names above

/-- The part of the disk that a run looks at: what its arguments name, then what the settings found
there lead to. -/
def picture (words : List String) (environment : Environment) : IO Disk := do
  let disk ← surroundings
  let disk ← (Run.footprint words environment disk).foldlM observe disk
  (Run.footprint words environment disk).foldlM observe disk

/-! ## Acting -/

/-- Writes a line of the log to its target. -/
def writeLine (target : LogTarget) (line : LogLine) : IO Unit :=
  match target with
  | .off => pure ()
  | .stdout => IO.println line.text
  | .stderr => IO.eprintln line.text
  | .file path => do
    let handle ← IO.FS.Handle.mk path.text .append
    handle.putStrLn line.text

/-- Carries out an effect. -/
def perform (verbose : Bool) (target : LogTarget) : Effect → IO Unit
  | .log line => if isLogged verbose line then writeLine target line else pure ()
  | .print text => IO.print text
  | .write path text => IO.FS.writeFile path.text text

/-- Makes the file of the log, if the log goes to one. -/
def prepareLog : LogTarget → IO Unit
  | .file path => do
    let _ ← IO.FS.Handle.mk path.text .append
  | .off | .stdout | .stderr => pure ()

/-- Carries out the effects of an outcome. -/
def performAll (words : List String) (outcome : Outcome) : IO Unit :=
  match Arguments.ofWords words with
  | .error _ => outcome.effects.forM (perform false .off)
  | .ok arguments =>
    let target := LogTarget.ofText arguments.log
    match Run.openLog target outcome.disk with
    | .error _ => pure ()
    | .ok _ => do
      prepareLog target
      outcome.effects.forM (perform arguments.verbose target)

end Machine

end LayeredSchema

open LayeredSchema in
/-- Runs the program on the words of the command line. -/
def main (words : List String) : IO UInt32 := do
  let environment ← Machine.environment
  let outcome := Run.ofWords words environment (← Machine.picture words environment)
  Machine.performAll words outcome
  if let some failure := outcome.failure then
    if failure.exitCode ≠ 0 then IO.eprintln ("Error: " ++ failure.message)
  return UInt32.ofNat outcome.exitCode
