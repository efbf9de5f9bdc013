import LayeredSchema.Disk.Basic
import LayeredSchema.Document.Format
import LayeredSchema.Schema.Kind

/-!
# Where fragments are looked for

Fragments live in two tiers of directories, and a file of the user tier comes before one of the
project tier. Within a directory the extensions have an order.
-/

namespace LayeredSchema

/-- The tiers of directories. -/
inductive Tier where
  | user
  | project
  deriving DecidableEq

/-- The name of a tier. -/
def Tier.name : Tier → String
  | user => "user"
  | project => "project"

/-- The directories of the tiers. -/
structure SchemaPaths where
  projectDir : Option Path
  userDir : Option Path
  deriving DecidableEq

/-- A file that holds the fragment of a kind. -/
structure FoundFile where
  kind : Kind
  path : Path
  tier : Tier
  deriving DecidableEq

namespace SchemaPaths

/-- The project directory unless another one is given. -/
def defaultPartsDir : Path := ⟨"schemas/parts"⟩

/-- The directories with their tiers, highest precedence first. -/
def tiers (paths : SchemaPaths) : List (Path × Tier) :=
  (paths.userDir.map (·, Tier.user)).toList ++ (paths.projectDir.map (·, Tier.project)).toList

/-- The directories that exist, highest precedence first. -/
def existingDirs (paths : SchemaPaths) (disk : Disk) : List Path :=
  (paths.tiers.map Prod.fst).filter disk.isDirectory

/-- The file of a kind with an extension in a directory. -/
def candidate (dir : Path) (kind : Kind) (extension : String) : Path :=
  dir.join ⟨kind.stem ++ "." ++ extension⟩

/-- The files that a fragment of a kind may come from, in the order in which they are tried. -/
def candidates (paths : SchemaPaths) (kind : Kind) : List FoundFile :=
  paths.tiers.flatMap fun (dir, tier) =>
    SourceFormat.extensions.map fun extension => ⟨kind, candidate dir kind extension, tier⟩

end SchemaPaths

end LayeredSchema
