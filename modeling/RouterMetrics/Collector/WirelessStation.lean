import RouterMetrics.Collector.Basic

/-! Signal and traffic of registered wireless stations. -/

namespace RouterMetrics.Collector

open RouterMetrics.Metric

namespace WirelessStation

/-- The labels of a station. -/
def labels : List String := deviceLabels ++ ["interface", "mac_address"]

/-- The metrics of a station. -/
def metrics : List Property :=
  [gauge "wlan_station" "signal-to-noise" labels, gauge "wlan_station" "signal-strength" labels,
    traffic "wlan_station" "packets" labels, traffic "wlan_station" "bytes" labels,
    traffic "wlan_station" "frames" labels]

/-- Asks for the registered stations. -/
def request : List String :=
  ["/interface/wireless/registration-table/print",
    propertyList
      ["interface", "mac-address", "signal-to-noise", "signal-strength", "packets", "bytes",
        "frames"]]

/-- Reads every station. -/
def collect (target : Target) : Collecting Unit := do
  let reply ← query request
  collectEach reply.rows fun row =>
    collectMetrics metrics row.attributes
      (target.scope.withLabelsFrom row.attributes ["interface", "mac-address"])

/-- Wireless stations. -/
def collector : Collector where
  name := "wlansta"
  summary := "wireless station signal and traffic"
  descriptors := metrics.flatMap Property.descriptors
  collect := collect

end WirelessStation

end RouterMetrics.Collector
