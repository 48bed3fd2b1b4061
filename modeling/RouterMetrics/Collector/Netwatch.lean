import RouterMetrics.Collector.Basic

/-! States of watched hosts. -/

namespace RouterMetrics.Collector

open RouterMetrics.Metric

namespace Netwatch

/-- The metrics of a host. -/
def metrics : List Property :=
  [states "netwatch" "status" (deviceLabels ++ ["host", "comment"]) ["up", "down", "unknown"]]

/-- Asks for the watched hosts. -/
def request : List String :=
  ["/tool/netwatch/print", "?disabled=false", propertyList ["host", "comment", "status"]]

/-- Reads every host. -/
def collect (target : Target) : Collecting Unit := do
  let reply ← query request
  collectEach reply.rows fun row =>
    collectMetrics metrics row.attributes
      (target.scope.withLabelsFrom row.attributes ["host", "comment"])

/-- Watched hosts. -/
def collector : Collector where
  name := "netwatch"
  summary := "netwatch host status"
  descriptors := metrics.flatMap Property.descriptors
  collect := collect

end Netwatch

end RouterMetrics.Collector
