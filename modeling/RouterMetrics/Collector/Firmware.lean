import RouterMetrics.Collector.Basic

/-! Installed packages and their versions. -/

namespace RouterMetrics.Collector

open RouterMetrics.Metric

namespace Firmware

/-- The labels of a package. -/
def labels : List String :=
  deviceLabels ++ ["devicename", "package", "disabled", "version", "build_time"]

/-- The metric of a package. -/
def metrics : List Property :=
  [presence "system" "version" labels ⟨"package", "system packages version"⟩]

/-- Asks for the packages. -/
def request : List String := ["/system/package/getall"]

/-- The scope of one package. -/
def packageScope (scope : Scope) (row : Wire.Sentence) : Scope :=
  scope.withLabels
    [some scope.device, some (row.get "name"), some (row.get "disabled"),
      some (row.get "version"), some (row.get "build-time")]

/-- Reads every package. -/
def collect (target : Target) : Collecting Unit := do
  let reply ← query request
  collectEach reply.rows fun row =>
    collectMetrics metrics row.attributes (packageScope target.scope row)

/-- Package versions. -/
def collector : Collector where
  name := "firmware"
  summary := "installed package versions"
  descriptors := metrics.flatMap Property.descriptors
  collect := collect

end Firmware

end RouterMetrics.Collector
