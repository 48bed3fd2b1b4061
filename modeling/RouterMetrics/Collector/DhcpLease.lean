import RouterMetrics.Collector.Basic

/-! Bound DHCP leases, one series for each lease. -/

namespace RouterMetrics.Collector

open RouterMetrics.Metric

namespace DhcpLease

/-- The labels of a lease. -/
def labels : List String :=
  deviceLabels ++ ["activemacaddress", "server", "status", "activeaddress", "hostname", "comment"]

/-- The metric of a lease. -/
def metrics : List Property :=
  [gauge "dhcp" "status" labels ⟨"leases_metrics", "number of metrics"⟩ constantValue]

/-- Asks for the bound leases. -/
def request : List String :=
  ["/ip/dhcp-server/lease/print", "?status=bound",
    propertyList
      ["active-mac-address", "server", "status", "active-address", "host-name", "comment"]]

/-- The scope of one lease. -/
def leaseScope (scope : Scope) (row : Wire.Sentence) : Scope :=
  scope.withLabels
    [some (row.get "active-mac-address"), some (row.get "server"), some (row.get "status"),
      some (row.get "active-address"), some (hostName (row.get "host-name")),
      some (row.get "comment")]

/-- Reads every lease. -/
def collect (target : Target) : Collecting Unit := do
  let reply ← query request
  collectEach reply.rows fun row =>
    collectMetrics metrics row.attributes (leaseScope target.scope row)

/-- Bound leases. -/
def collector : Collector where
  name := "dhcpl"
  summary := "bound DHCP leases"
  descriptors := metrics.flatMap Property.descriptors
  collect := collect

end DhcpLease

end RouterMetrics.Collector
