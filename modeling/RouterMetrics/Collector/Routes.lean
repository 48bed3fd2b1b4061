import RouterMetrics.Collector.Basic

/-! The size of the routing tables, in all and by protocol. -/

namespace RouterMetrics.Collector

open RouterMetrics.Metric

namespace Routes

/-- The protocols by which routes are told apart. -/
def protocols : List String := ["bgp", "static", "ospf", "dynamic", "connect", "rip"]

/-- The number of routes. -/
def total : Property :=
  count "" "routes" (deviceLabels ++ ["ip_version"]) "number of routes in RIB"

/-- The number of routes of a protocol. -/
def ofProtocol : Property :=
  count "routes" "protocol" (deviceLabels ++ ["ip_version", "protocol"])
    "number of routes per protocol in RIB"

/-- Asks how many routes in use there are, of all or as the filters say. -/
def countRequest (topic : String) (filters : List String) : List String :=
  ["/" ++ topic ++ "/route/print", "?disabled=false"] ++ filters ++ ["=count-only="]

/-- Counts the routes of one version. -/
def collectVersion (target : Target) (version topic : String) : Collecting Unit := do
  let reply ← query (countRequest topic [])
  emitting (total.collect reply.done.attributes (target.scope.withLabels [some version]))
  protocols.forM fun protocol => do
    let reply ← query (countRequest topic ["?" ++ protocol])
    emitting (ofProtocol.collect reply.done.attributes
      (target.scope.withLabels [some version, some protocol]))

/-- Counts the routes of both versions, unless the device has no IPv6. -/
def collect (target : Target) : Collecting Unit := do
  collectVersion target "4" "ip"
  unless target.ipv6Disabled do collectVersion target "6" "ipv6"

/-- Routing tables. -/
def collector : Collector where
  name := "routes"
  summary := "IPv4/IPv6 route counts per protocol"
  descriptors := total.descriptors ++ ofProtocol.descriptors
  collect := collect

end Routes

end RouterMetrics.Collector
