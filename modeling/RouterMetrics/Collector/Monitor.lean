import RouterMetrics.Collector.Basic

/-! State, rate and duplex of Ethernet links. -/

namespace RouterMetrics.Collector

open RouterMetrics.Metric

namespace Monitor

/-- The labels of a link. -/
def labels : List String := deviceLabels ++ ["interface"]

/-- The metrics of a link. -/
def metrics : List Property :=
  [gauge "monitor" "status" labels ⟨"", ""⟩ linkStatusValue,
    gauge "monitor" "rate" labels ⟨"", ""⟩ rateValue,
    gauge "monitor" "full-duplex" labels ⟨"", ""⟩ flagValue]

/-- Asks for the interfaces in use. -/
def namesRequest : List String :=
  ["/interface/ethernet/print", "?disabled=false", propertyList ["name"]]

/-- Asks for the links of the named interfaces. -/
def linksRequest (names : List String) : List String :=
  ["/interface/ethernet/monitor", "=numbers=" ++ ",".intercalate names, "=once=",
    propertyList ["name", "status", "rate", "full-duplex"]]

/-- Reads the links of all interfaces with a name. -/
def collect (target : Target) : Collecting Unit := do
  let reply ← query namesRequest
  let names := presentNames reply.rows
  if names.isEmpty then return ()
  let reply ← query (linksRequest names)
  collectEach reply.rows fun row =>
    collectMetrics metrics row.attributes (target.scope.withLabels [some (row.get "name")])

/-- Ethernet links. -/
def collector : Collector where
  name := "monitor"
  summary := "ethernet link status, rate and duplex"
  descriptors := metrics.flatMap Property.descriptors
  collect := collect

end Monitor

end RouterMetrics.Collector
