import LayeredSchema.Schema.Loader

/-!
# A schema kept current

A `Store` holds the last schema that could be composed. Reloading replaces it if composing
succeeds and leaves it as it is otherwise.
-/

namespace LayeredSchema

/-- A loader with the schema that it composed last. -/
structure Store where
  loader : Loader
  current : Composition

namespace Store

/-- A store with the schema on the disk. -/
def ofLoader (loader : Loader) (disk : Disk) : Except SchemaError Store :=
  (loader.compose disk).map fun current => { loader, current }

/-- Composes again. The store keeps its schema if that fails. -/
def reload (store : Store) (disk : Disk) : Except SchemaError Composition × Store :=
  match store.loader.compose disk with
  | .ok current => (.ok current, { store with current })
  | .error error => (.error error, store)

end Store

end LayeredSchema
