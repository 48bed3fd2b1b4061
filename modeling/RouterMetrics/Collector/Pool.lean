import RouterMetrics.Collector.Basic

/-! Use of IPv4 and IPv6 address pools. -/

namespace RouterMetrics.Collector

open RouterMetrics.Metric

namespace Pool

/-- The labels of a pool. -/
def labels : List String := deviceLabels ++ ["ip_version", "pool"]

/-- The number of addresses in use. -/
def usedDescriptor : Descriptor :=
  describe "ip_pool" "pool_used" "number of used IP/prefixes in a pool" labels

/-- The metrics of a pool. -/
def metrics : List Property :=
  [gauge "ip_pool" "total" labels ⟨"pool_size", "number of IP/prefixes in a pool"⟩,
    .number "used" usedDescriptor numberValue]

/-- Asks for the IPv4 pools. -/
def ipv4Request : List String := ["/ip/pool/print", propertyList ["name", "total", "used"]]

/-- Asks for the prefixes that are taken from IPv6 pools, which have no summary. -/
def ipv6Request : List String := ["/ipv6/pool/used/print", propertyList ["pool"]]

/-- Reads every IPv4 pool. -/
def collectIpv4 (target : Target) : Collecting Unit := do
  let reply ← query ipv4Request
  collectEach reply.rows fun row =>
    collectMetrics metrics row.attributes
      (target.scope.withLabels [some "v4", some (row.get "name")])

/-- How often each text occurs, in the order of first occurrence. -/
def tally (texts : List String) : OrderedMap String Nat :=
  texts.foldl (fun counts text => counts.put text (counts.getD text 0 + 1)) .empty

/-- Counts the prefixes of every IPv6 pool. -/
def collectIpv6 (target : Target) : Collecting Unit := do
  let reply ← query ipv6Request
  (tally (reply.rows.map fun row => row.get "pool")).entries.forM fun (pool, used) =>
    emitting (emit ⟨usedDescriptor, Decimal.nearestDouble false used 1,
      (target.scope.withLabels [some "v6", some pool]).labels⟩)

/-- Reads the pools of both versions, unless the device has no IPv6. -/
def collect (target : Target) : Collecting Unit := do
  collectIpv4 target
  unless target.ipv6Disabled do collectIpv6 target

/-- Address pools. -/
def collector : Collector where
  name := "pools"
  summary := "IPv4/IPv6 address pool usage"
  descriptors := metrics.flatMap Property.descriptors
  collect := collect

end Pool

end RouterMetrics.Collector
