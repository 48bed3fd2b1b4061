import RouterMetrics.Collector.Basic

/-! Traffic, errors and state of interfaces. -/

namespace RouterMetrics.Collector

open RouterMetrics.Metric

namespace Interface

/-- The labels of an interface. -/
def labels : List String := deviceLabels ++ ["interface", "type", "comment", "slave"]

/-- What an interface counts. -/
def counted : List String :=
  ["rx-byte", "tx-byte", "rx-packet", "tx-packet", "rx-error", "tx-error", "rx-drop", "tx-drop",
    "link-downs", "tx-queue-drop"]

/-- The metrics of an interface. -/
def metrics : List Property :=
  [gauge "interface" "actual-mtu" labels,
    gauge "interface" "running" labels ⟨"", ""⟩ flagValue,
    gauge "interface" "disabled" labels ⟨"", ""⟩ flagValue] ++
  counted.map fun property => counter "interface" property labels

/-- Asks for the interfaces in use. -/
def request : List String :=
  ["/interface/print", "?disabled=false",
    propertyList
      (["name", "type", "disabled", "comment", "slave", "actual-mtu", "running"] ++ counted)]

/-- Reads every interface but the loopback. -/
def collect (target : Target) : Collecting Unit := do
  let reply ← query request
  collectEach reply.rows fun row =>
    if row.get? "name" == some "lo" then pure ()
    else
      collectMetrics metrics row.attributes
        (target.scope.withLabelsFrom row.attributes ["name", "type", "comment", "slave"])

/-- Interface traffic and state. -/
def collector : Collector where
  name := "interface"
  summary := "interface traffic and state"
  descriptors := metrics.flatMap Property.descriptors
  collect := collect

end Interface

end RouterMetrics.Collector
