import RouterMetrics.Collector.Basic

/-! Voltage and temperatures of the hardware. -/

namespace RouterMetrics.Collector

open RouterMetrics.Metric

namespace Health

/-- The metrics of the sensors. -/
def metrics : List Property :=
  [gauge "health" "voltage" deviceLabels ⟨"", "Input voltage to the RouterOS board, in volts"⟩,
    gauge "health" "temperature" deviceLabels
      ⟨"", "Temperature of RouterOS board, in degrees Celsius"⟩,
    gauge "health" "cpu-temperature" deviceLabels
      ⟨"", "Temperature of RouterOS CPU, in degrees Celsius"⟩]

/-- Asks for the sensors. -/
def request : List String := ["/system/health/print"]

/-- The sensors of a row: version 7 gives a row for each sensor, with its name and its value. -/
def sensors (attributes : Wire.Attributes) : Wire.Attributes :=
  match attributes.get? "name", attributes.get? "value" with
  | some name, some value => .ofList [(name, value)]
  | _, _ => attributes

/-- Reads every row. -/
def collect (target : Target) : Collecting Unit := do
  let reply ← query request
  collectEach reply.rows fun row =>
    collectMetrics metrics (sensors row.attributes) target.scope

/-- Hardware health. -/
def collector : Collector where
  name := "health"
  summary := "board voltage and temperatures"
  descriptors := metrics.flatMap Property.descriptors
  collect := collect

end Health

end RouterMetrics.Collector
