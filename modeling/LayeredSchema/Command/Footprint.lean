import LayeredSchema.Command.Run

/-!
# The paths that a run looks at

A run sees the disk only at the paths that its arguments name and at those that its settings lead
to. Settings may come from a file, so the second part is known once that file is.
-/

namespace LayeredSchema

/-- The file that a command writes to. -/
def Command.output? : Command → Option Path
  | .compose options => options.output
  | .watch options => options.output
  | .check _ | .defaults _ => none

/-- The file that the log goes to. -/
def LogTarget.file? : LogTarget → Option Path
  | .file path => some path
  | .off | .stdout | .stderr => none

/-- The paths that arguments name: the configuration file, the log and the output. -/
def Arguments.paths (arguments : Arguments) : List Path :=
  (arguments.config.map Path.mk).getD Settings.defaultFile
    :: ((LogTarget.ofText arguments.log).file?.toList
      ++ (arguments.command.bind Command.output?).toList)

/-- The directories of fragments, and every file that a fragment may come from. -/
def SchemaPaths.all (paths : SchemaPaths) : List Path :=
  paths.tiers.map Prod.fst
    ++ Kind.all.flatMap fun kind => (paths.candidates kind).map FoundFile.path

namespace Run

/-- The paths that a run looks at, as far as the settings can be read from the disk. -/
def footprint (words : List String) (environment : Environment) (disk : Disk) : List Path :=
  match Arguments.ofWords words with
  | .error _ => []
  | .ok arguments =>
    arguments.paths
      ++ match Settings.loadOrDefault disk environment (arguments.config.map Path.mk) with
        | .error _ => []
        | .ok settings => ((withArguments settings arguments).schemaPaths environment).all

end Run

end LayeredSchema
