import RouterMetrics.Collector.Basic

/-! Totals of the queue monitor and traffic of simple queues. -/

namespace RouterMetrics.Collector

open RouterMetrics.Metric

namespace Queue

/-- The labels of a simple queue. -/
def labels : List String := deviceLabels ++ ["simple_queue_name", "queue", "comment"]

/-- The totals of the queue monitor. -/
def totals : List Property :=
  [gauge "queue" "queued-bytes" deviceLabels, gauge "queue" "queued-packets" deviceLabels]

/-- The metrics of a simple queue, which writes upload and download on two sides of a slash. -/
def metrics : List Property :=
  ["packets", "bytes", "queued-packets", "queued-bytes"].map fun property =>
    traffic "simple_queue" property labels ⟨"", ""⟩ slashPair

/-- Asks for the totals. -/
def totalsRequest : List String :=
  ["/queue/monitor", "=once=", propertyList ["queued-packets", "queued-bytes"]]

/-- Asks for the simple queues in use. -/
def queuesRequest : List String :=
  ["/queue/simple/print", "?disabled=false",
    propertyList
      ["name", "queue", "comment", "bytes", "packets", "queued-bytes", "queued-packets"]]

/-- Reads the totals. -/
def collectTotals (target : Target) : Collecting Unit := do
  let reply ← query totalsRequest
  match reply.rows with
  | [] => return ()
  | row :: _ => collectMetrics totals row.attributes target.scope

/-- Reads every simple queue. -/
def collectQueues (target : Target) : Collecting Unit := do
  let reply ← query queuesRequest
  collectEach reply.rows fun row =>
    collectMetrics metrics row.attributes
      (target.scope.withLabelsFrom row.attributes ["name", "queue", "comment"])

/-- Reads the totals and the simple queues, whatever becomes of the totals. -/
def collect (target : Target) : Collecting Unit :=
  collectEach [collectTotals, collectQueues] fun part => part target

/-- Queues. -/
def collector : Collector where
  name := "queue"
  summary := "queue monitor and simple queue traffic"
  descriptors := (metrics ++ totals).flatMap Property.descriptors
  collect := collect

end Queue

end RouterMetrics.Collector
