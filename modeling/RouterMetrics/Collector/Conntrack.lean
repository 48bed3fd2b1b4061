import RouterMetrics.Collector.Basic

/-! The size of the connection tracking table. -/

namespace RouterMetrics.Collector

open RouterMetrics.Metric

namespace Conntrack

/-- The metrics of the tracking table. -/
def metrics : List Property :=
  let group := "ip_firewall_connection_tracking"
  [gauge group "total-entries" deviceLabels ⟨"entries", "Number of tracked connections"⟩,
    gauge group "max-entries" deviceLabels ⟨"max_entries", "Conntrack table capacity"⟩]

/-- Asks for the table's size and capacity. -/
def request : List String :=
  ["/ip/firewall/connection/tracking/print", propertyList ["total-entries", "max-entries"]]

/-- Reads the first row of the reply. -/
def collect (target : Target) : Collecting Unit := do
  let reply ← query request
  match reply.rows with
  | [] => return ()
  | row :: _ => collectMetrics metrics row.attributes target.scope

/-- Connection tracking entries. -/
def collector : Collector where
  name := "conntrack"
  summary := "connection tracking entries"
  descriptors := metrics.flatMap Property.descriptors
  collect := collect

end Conntrack

end RouterMetrics.Collector
