import RouterMetrics.Collector.Basic

/-! Resources of the system: processor, memory, disk, uptime and version. -/

namespace RouterMetrics.Collector

open RouterMetrics.Metric

namespace Resource

/-- The metrics of the system. -/
def metrics : List Property :=
  ["free-memory", "total-memory", "cpu-load", "free-hdd-space", "total-hdd-space",
    "cpu-frequency", "bad-blocks", "cpu-count"].map
      (fun property => gauge "system" property deviceLabels) ++
  [counter "system" "uptime" deviceLabels ⟨"uptime_seconds", ""⟩ durationValue]

/-- The board and its version. -/
def versionDescriptor : Descriptor :=
  describe "system" "routeros" "Board and system version"
    (deviceLabels ++ ["board_name", "version"])

/-- Asks for the resources. -/
def request : List String :=
  ["/system/resource/print",
    propertyList
      ["free-memory", "total-memory", "cpu-load", "free-hdd-space", "total-hdd-space",
        "cpu-frequency", "bad-blocks", "uptime", "cpu-count", "board-name", "version"]]

/-- Reads one row: its version first, then its metrics. -/
def collectRow (target : Target) (row : Wire.Sentence) : Collecting Unit := do
  let labels := target.scope.labels ++ [some (row.get "board-name"), some (row.get "version")]
  emitting (emit ⟨versionDescriptor, 1.0, labels⟩)
  collectMetrics metrics row.attributes target.scope

/-- Reads the rows up to the first with a fault. -/
def collect (target : Target) : Collecting Unit := do
  let reply ← query request
  reply.rows.forM (collectRow target)

/-- System resources. -/
def collector : Collector where
  name := "resource"
  summary := "system resources and RouterOS version"
  descriptors := metrics.flatMap Property.descriptors ++ [versionDescriptor]
  collect := collect

end Resource

end RouterMetrics.Collector
