import RouterMetrics.Collector.Basic

/-! The number of active leases of each DHCP server. -/

namespace RouterMetrics.Collector

open RouterMetrics.Metric

namespace Dhcp

/-- The number of active leases. -/
def activeLeases : Property :=
  count "dhcp" "leases_active" (deviceLabels ++ ["server"])
    "number of active leases per DHCP server"

/-- Asks for the servers in use. -/
def serversRequest : List String :=
  ["/ip/dhcp-server/print", "?disabled=false", propertyList ["name"]]

/-- Asks how many leases of a server are active. -/
def leasesRequest (server : String) : List String :=
  ["/ip/dhcp-server/lease/print", "?server=" ++ server, "=active=", "=count-only="]

/-- Counts the leases of one server. -/
def collectServer (target : Target) (server : String) : Collecting Unit := do
  let reply ← query (leasesRequest server)
  emitting (activeLeases.collect reply.done.attributes (target.scope.withLabels [some server]))

/-- Counts the leases of every server with a name. -/
def collect (target : Target) : Collecting Unit := do
  let reply ← query serversRequest
  collectEach (presentNames reply.rows) (collectServer target)

/-- Active leases of DHCP servers. -/
def collector : Collector where
  name := "dhcp"
  summary := "active leases per DHCP server"
  descriptors := activeLeases.descriptors
  collect := collect

end Dhcp

end RouterMetrics.Collector
