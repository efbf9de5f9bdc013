import LayeredSchema.Disk.Path

/-!
# Kinds of fragments

A device schema is made of three fragments. Their declaration order is the order in which they are
merged: a later kind wins over an earlier one.
-/

namespace LayeredSchema

/-- The fragments of a device schema, lowest precedence first. -/
inductive Kind where
  /-- Models and processing rules of the cloud side. -/
  | cloud
  /-- Definitions of metrics. -/
  | metric
  /-- The mapping of tables: indexes, parameters and models. -/
  | tableMapping
  deriving DecidableEq

namespace Kind

/-- All kinds in merge order. -/
def all : List Kind := [cloud, metric, tableMapping]

/-- The place of a kind in merge order. -/
def index : Kind → Nat
  | cloud => 0
  | metric => 1
  | tableMapping => 2

/-- The name of the layer that a fragment of the kind makes. -/
def name : Kind → String
  | cloud => "cloud"
  | metric => "metric"
  | tableMapping => "table-mapping"

/-- The stem of the files that hold fragments of the kind. -/
def stem : Kind → String
  | cloud => "CloudSchema"
  | metric => "MetricSchema"
  | tableMapping => "OneTable"

/-- The kind of a layer name. -/
def ofName? (name : String) : Option Kind :=
  all.find? fun kind => kind.name = name

/-- The kind whose files a path could be one of, by its stem. -/
def ofPath? (path : Path) : Option Kind :=
  path.stem?.bind fun stem => all.find? fun kind => kind.stem = stem

/-- The kinds of a list in merge order, repetitions kept. -/
def sort (kinds : List Kind) : List Kind :=
  all.flatMap fun kind => kinds.filter (· = kind)

end Kind

end LayeredSchema
