import LayeredSchema.Schema.Defaults
import LayeredSchema.Schema.Fragment

/-!
# Composition of layers

Layers are applied in order onto a base. A key written by a later layer replaces the earlier value
as a whole, nested mappings included, and keeps its place. Beside the schema, a `Composition`
records for every key which layers wrote it.
-/

namespace LayeredSchema

namespace Mapping

/-- Writes every entry of a layer over a mapping. -/
def overlay (base layer : Mapping) : Mapping :=
  base.insertAll layer.entries

/-- Writes layers over a base in order. -/
def compose (base : Mapping) (layers : List Mapping) : Mapping :=
  layers.foldl overlay base

end Mapping

/-- A key that more than one layer writes, with these layers in order. -/
structure Overlap where
  key : String
  layers : List String
  deriving DecidableEq

/-- The number of writers that are not the base layer. -/
def Overlap.fragmentWriters (overlap : Overlap) : Nat :=
  (overlap.layers.filter (· ≠ Defaults.layerName)).length

/-- A composed schema with the layers that wrote each of its keys, in order. -/
structure Composition where
  schema : Mapping
  writers : OrderedMap (List String)
  deriving DecidableEq

namespace Composition

/-- The composition of a base alone. -/
def ofBase (base : Mapping) : Composition :=
  { schema := base, writers := base.map fun _ _ => [Defaults.layerName] }

/-- Adds a writer to the history of a key. -/
def recordWriter (writers : OrderedMap (List String)) (layer key : String) :
    OrderedMap (List String) :=
  writers.insert key ((writers.get? key).getD [] ++ [layer])

/-- Writes a fragment over a composition. -/
def apply (composition : Composition) (fragment : Fragment) : Composition :=
  { schema := Mapping.overlay composition.schema fragment.body
    writers := fragment.keys.foldl (fun writers key => recordWriter writers fragment.name key)
      composition.writers }

/-- Composes fragments over a base, in order. -/
def compose (base : Mapping) (fragments : List Fragment) : Composition :=
  fragments.foldl apply (ofBase base)

/-- The value of a key. -/
def get? (composition : Composition) (key : String) : Option Value :=
  composition.schema.get? key

/-- The layer whose value a key has. -/
def sourceOf? (composition : Composition) (key : String) : Option String :=
  (composition.writers.get? key).bind List.getLast?

/-- The keys that more than one layer wrote, in increasing order. -/
def overlaps (composition : Composition) : List Overlap :=
  ((composition.writers.entries.filter fun entry => 1 < entry.2.length).map
    fun entry => ⟨entry.1, entry.2⟩).mergeSort fun a b => decide (a.key ≤ b.key)

/-- The overlaps with more than one writer above the base. -/
def fragmentOverlaps (composition : Composition) : List Overlap :=
  composition.overlaps.filter fun overlap => 1 < overlap.fragmentWriters

end Composition

/-- What is to be composed: a base and fragments in order. -/
structure Composer where
  base : Mapping
  fragments : List Fragment := []

namespace Composer

/-- A composer over the defaults. -/
def ofDefaults : Composer := { base := Defaults.base }

/-- A composer over a base of its own. -/
def ofBase (base : Mapping) : Composer := { base }

/-- Appends a fragment. -/
def add (composer : Composer) (fragment : Fragment) : Composer :=
  { composer with fragments := composer.fragments ++ [fragment] }

/-- Appends the fragments of a set in merge order. -/
def addSet (composer : Composer) (fragments : FragmentSet) : Composer :=
  { composer with fragments := composer.fragments ++ fragments.inOrder }

/-- The composition. -/
def compose (composer : Composer) : Composition :=
  Composition.compose composer.base composer.fragments

end Composer

end LayeredSchema
