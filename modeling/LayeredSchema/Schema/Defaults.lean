import LayeredSchema.Document.Value

/-!
# The base layer

Every device schema starts from the same four keys.
-/

namespace LayeredSchema.Defaults

/-- The name of the base layer in provenance. -/
def layerName : String := "defaults"

/-- The version of a schema that no fragment gives one. -/
def version : String := "latest"

/-- The description of a schema that no fragment gives one. -/
def description : String := "Default Device Cloud Schema"

/-- The base layer. -/
def base : Mapping where
  entries :=
    [("version", .string version), ("description", .string description),
     ("process", .object []), ("models", .object [])]
  distinct := by decide

end LayeredSchema.Defaults
