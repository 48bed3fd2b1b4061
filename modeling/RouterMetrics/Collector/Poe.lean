import RouterMetrics.Collector.Basic

/-! Current, voltage and power of powered ports. -/

namespace RouterMetrics.Collector

open RouterMetrics.Metric

namespace Poe

/-- The labels of a port. -/
def labels : List String := deviceLabels ++ ["interface"]

/-- The metrics of a port. -/
def metrics : List Property :=
  [gauge "poe" "poe-out-current" labels ⟨"current", "current in mA"⟩,
    gauge "poe" "poe-out-power" labels ⟨"wattage", "power in W"⟩,
    gauge "poe" "poe-out-voltage" labels ⟨"voltage", "voltage in V"⟩]

/-- Asks for the powered ports. -/
def namesRequest : List String := ["/interface/ethernet/poe/print", propertyList ["name"]]

/-- Asks for the output of the named ports. -/
def outputRequest (names : List String) : List String :=
  ["/interface/ethernet/poe/monitor", "=numbers=" ++ ",".intercalate names, "=once=",
    propertyList ["name", "poe-out-current", "poe-out-voltage", "poe-out-power"]]

/-- Reads the output of all ports with a name. -/
def collect (target : Target) : Collecting Unit := do
  let reply ← query namesRequest
  let names := presentNames reply.rows
  if names.isEmpty then return ()
  let reply ← query (outputRequest names)
  collectEach (reply.rows.filter fun row => row.attributes.contains "name") fun row =>
    collectMetrics metrics row.attributes (target.scope.withLabels [some (row.get "name")])

/-- Powered ports. -/
def collector : Collector where
  name := "poe"
  summary := "PoE output current, voltage and power"
  descriptors := metrics.flatMap Property.descriptors
  collect := collect

end Poe

end RouterMetrics.Collector
