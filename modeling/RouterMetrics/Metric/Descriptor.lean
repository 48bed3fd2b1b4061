/-! Descriptors: the name, help, kind and label names that samples of one metric share. -/

namespace RouterMetrics.Metric

/-- A value that goes up and down, or one that only grows. -/
inductive Kind where
  | gauge
  | counter
deriving Repr, DecidableEq

/-- What is the same for all samples of a metric. -/
structure Descriptor where
  name : String
  help : String
  labels : List String
  kind : Kind
deriving Repr, DecidableEq

/-- What the name of every metric starts with. -/
def rootName : String := "mikrotik"

/-- A name made of its parts; empty parts are left out and hyphens are written as underscores. -/
def joinedName (group name : String) : String :=
  let parts := [rootName, group, name].filter fun part => !part.isEmpty
  String.ofList (("_".intercalate parts).toList.map fun c => if c == '-' then '_' else c)

/-- The descriptor of a metric in a group. -/
def describe (group name help : String) (labels : List String) (kind : Kind := .gauge) :
    Descriptor :=
  ⟨joinedName group name, help, labels, kind⟩

/-- The labels that tell devices apart. -/
def deviceLabels : List String := ["name", "address"]

end RouterMetrics.Metric
