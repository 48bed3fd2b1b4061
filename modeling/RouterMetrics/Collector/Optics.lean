import RouterMetrics.Collector.Basic

/-! Diagnostics of optical modules. -/

namespace RouterMetrics.Collector

open RouterMetrics.Metric

namespace Optics

/-- The labels of a module. -/
def labels : List String := deviceLabels ++ ["interface"]

/-- The metrics of a module. -/
def metrics : List Property :=
  [gauge "optics" "sfp-rx-loss" labels ⟨"", "RX status"⟩ flagValue,
    gauge "optics" "sfp-tx-fault" labels ⟨"", "TX status"⟩ flagValue,
    gauge "optics" "sfp-rx-power" labels ⟨"", "RX power in dBM"⟩,
    gauge "optics" "sfp-tx-power" labels ⟨"", "TX power in dBM"⟩,
    gauge "optics" "sfp-temperature" labels ⟨"", "temperature in degree celsius"⟩,
    gauge "optics" "sfp-tx-bias-current" labels ⟨"", "bias is milliamps"⟩,
    gauge "optics" "sfp-supply-voltage" labels]

/-- Asks for the interfaces in use. -/
def namesRequest : List String :=
  ["/interface/ethernet/print", "?disabled=false", propertyList ["name", "default-name"]]

/-- Asks for the modules of the named interfaces. -/
def modulesRequest (names : List String) : List String :=
  ["/interface/ethernet/monitor", "=numbers=" ++ ",".intercalate names, "=once=",
    propertyList
      ["name", "sfp-rx-loss", "sfp-tx-fault", "sfp-temperature", "sfp-supply-voltage",
        "sfp-rx-power", "sfp-tx-power", "sfp-tx-bias-current"]]

/-- Whether an interface has an optical module, by its name or by the name it came with. -/
def isOptical (row : Wire.Sentence) : Bool :=
  (row.get "name").startsWith "sfp" || (row.get "default-name").startsWith "sfp"

/-- The names of the optical interfaces; one of them may have none. -/
def opticalNames (rows : List Wire.Sentence) : List (Option String) :=
  (rows.filter isOptical).map fun row => row.get? "name"

/-- Reads the modules of all optical interfaces. -/
def collect (target : Target) : Collecting Unit := do
  let reply ← query namesRequest
  let names := opticalNames reply.rows
  if names.isEmpty then return ()
  let some names := names.mapM id | throw .missingName
  let reply ← query (modulesRequest names)
  collectEach (reply.rows.filter fun row => row.attributes.contains "name") fun row =>
    collectMetrics metrics row.attributes (target.scope.withLabels [some (row.get "name")])

/-- Optical modules. -/
def collector : Collector where
  name := "optics"
  summary := "SFP module diagnostics"
  descriptors := metrics.flatMap Property.descriptors
  collect := collect

end Optics

end RouterMetrics.Collector
