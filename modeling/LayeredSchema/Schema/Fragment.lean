import LayeredSchema.Error
import LayeredSchema.Schema.Kind

/-!
# Fragments

A fragment is a named partial schema. A `FragmentSet` has one slot for each kind.
-/

namespace LayeredSchema

/-- A named partial schema, with the file it was read from. -/
structure Fragment where
  name : String
  body : Mapping
  source : Option Path := none
  deriving DecidableEq

namespace Fragment

/-- A fragment from a value, which must be a mapping. -/
def ofValue (name : String) (value : Value) : Except SchemaError Fragment :=
  match value.mapping? with
  | some body => .ok { name, body }
  | none => .error (.notMapping name value none)

/-- The fragment with the file it was read from. -/
def withSource (fragment : Fragment) (path : Path) : Fragment :=
  { fragment with source := some path }

/-- The top-level keys that the fragment defines. -/
def keys (fragment : Fragment) : List String :=
  fragment.body.keys

end Fragment

/-- At most one fragment of each kind. -/
structure FragmentSet where
  cloud : Option Fragment := none
  metric : Option Fragment := none
  tableMapping : Option Fragment := none
  deriving DecidableEq

namespace FragmentSet

/-- The set without fragments. -/
def empty : FragmentSet := {}

/-- Puts a fragment into the slot of a kind. -/
def set (fragments : FragmentSet) (kind : Kind) (fragment : Fragment) : FragmentSet :=
  match kind with
  | .cloud => { fragments with cloud := some fragment }
  | .metric => { fragments with metric := some fragment }
  | .tableMapping => { fragments with tableMapping := some fragment }

/-- The fragment of a kind. -/
def get? (fragments : FragmentSet) : Kind → Option Fragment
  | .cloud => fragments.cloud
  | .metric => fragments.metric
  | .tableMapping => fragments.tableMapping

/-- The fragment of a kind, which must be there. -/
def require (fragments : FragmentSet) (kind : Kind) : Except SchemaError Fragment :=
  match fragments.get? kind with
  | some fragment => .ok fragment
  | none => .error (.fragmentNotFound kind.name none)

/-- The fragments that are there, in merge order. -/
def inOrder (fragments : FragmentSet) : List Fragment :=
  Kind.all.filterMap fragments.get?

/-- The kinds without a fragment, in merge order. -/
def missing (fragments : FragmentSet) : List Kind :=
  Kind.all.filter fun kind => (fragments.get? kind).isNone

@[simp] theorem get?_set_self (fragments : FragmentSet) (kind : Kind) (fragment : Fragment) :
    (fragments.set kind fragment).get? kind = some fragment := by
  cases kind <;> rfl

@[simp] theorem get?_set_of_ne (fragments : FragmentSet) {kind other : Kind}
    (fragment : Fragment) (h : other ≠ kind) :
    (fragments.set kind fragment).get? other = fragments.get? other := by
  cases kind <;> cases other <;> first | rfl | exact absurd rfl h

end FragmentSet

end LayeredSchema
