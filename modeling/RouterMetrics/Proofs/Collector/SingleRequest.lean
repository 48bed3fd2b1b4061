import RouterMetrics.Collector.Registry
import RouterMetrics.Proofs.Collector.Sampled

/-! The collectors that make one request and read the rows of its reply. -/

namespace RouterMetrics.Collector

open RouterMetrics.Metric

namespace Conntrack

/-- All metrics have the labels of the device only. -/
theorem metrics_labels : ∀ descriptor ∈ metrics.flatMap Property.descriptors,
    descriptor.labels.length = 2 := by decide

/-- No metric goes beyond the range of doubles. -/
theorem metrics_bounded : ∀ metric ∈ metrics, metric.Bounded := by
  simp [metrics, Metric.gauge, Property.Bounded, numberValue_neverOverflows]

/-- Asks for the table and reads the first row. -/
def scripted {target : Target} (plain : target.Plain) :
    Scripted (conductOf collector.descriptors target (· = request) IsGathered) (collect target) :=
  .bind (.query rfl) fun reply =>
    -- A device without rows is left without samples, and without a fault.
    match reply.rows with
    | [] => .pure ()
    | row :: _ => .row [] row.attributes plain metrics_labels metrics_bounded valued_nil
        (fun _ member => member) conductOf_adds isGathered_heading

end Conntrack

namespace DhcpLease

/-- The metric has the labels of a lease. -/
theorem metrics_labels : ∀ descriptor ∈ metrics.flatMap Property.descriptors,
    descriptor.labels.length = 8 := by decide

theorem metrics_bounded : ∀ metric ∈ metrics, metric.Bounded := by
  simp [metrics, Metric.gauge, Property.Bounded, constantValue_neverOverflows]

/-- Asks for the leases and reads every row. -/
def scripted (target : Target) :
    Scripted (conductOf collector.descriptors target (· = request) IsGathered) (collect target) :=
  .bind (.query rfl) fun reply =>
    -- A fault of one row is gathered, so that the other rows are read.
    .collectEach reply.rows isGathered_heading fun row =>
      .row _ row.attributes rfl metrics_labels metrics_bounded (by simp) (fun _ member => member)
        conductOf_adds fun _ => .inl rfl

end DhcpLease

namespace Firmware

/-- The metric has the labels of a package. -/
theorem metrics_labels : ∀ descriptor ∈ metrics.flatMap Property.descriptors,
    descriptor.labels.length = 7 := by decide

theorem metrics_bounded : ∀ metric ∈ metrics, metric.Bounded := by
  simp [metrics, presence, Property.Bounded]

/-- Asks for the packages and reads every row. -/
def scripted (target : Target) :
    Scripted (conductOf collector.descriptors target (· = request) IsGathered) (collect target) :=
  .bind (.query rfl) fun reply =>
    .collectEach reply.rows isGathered_heading fun row =>
      .row _ row.attributes rfl metrics_labels metrics_bounded (by simp) (fun _ member => member)
        conductOf_adds fun _ => .inl rfl

end Firmware

namespace Health

/-- All metrics have the labels of the device only. -/
theorem metrics_labels : ∀ descriptor ∈ metrics.flatMap Property.descriptors,
    descriptor.labels.length = 2 := by decide

theorem metrics_bounded : ∀ metric ∈ metrics, metric.Bounded := by
  simp [metrics, Metric.gauge, Property.Bounded, numberValue_neverOverflows]

/-- Asks for the sensors and reads every row. -/
def scripted {target : Target} (plain : target.Plain) :
    Scripted (conductOf collector.descriptors target (· = request) IsGathered) (collect target) :=
  .bind (.query rfl) fun reply =>
    .collectEach reply.rows isGathered_heading fun row =>
      .row [] (sensors row.attributes) plain metrics_labels metrics_bounded valued_nil
        (fun _ member => member) conductOf_adds fun _ => .inl rfl

end Health

namespace Interface

/-- All metrics have the labels of an interface. -/
theorem metrics_labels : ∀ descriptor ∈ metrics.flatMap Property.descriptors,
    descriptor.labels.length = 6 := by decide

theorem metrics_bounded : ∀ metric ∈ metrics, metric.Bounded := by
  simp [metrics, counted, Metric.gauge, counter, Property.Bounded, numberValue_neverOverflows,
    flagValue_neverOverflows]

/-- Asks for the interfaces and reads every row but that of the loopback. -/
def scripted (target : Target) :
    Scripted (conductOf collector.descriptors target (· = request) IsGathered) (collect target) :=
  .bind (.query rfl) fun reply =>
    .collectEach reply.rows isGathered_heading fun row =>
      -- The row of the loopback is passed over.
      .ite (.pure ())
        (.row _ row.attributes rfl metrics_labels metrics_bounded (by simp)
          (fun _ member => member) conductOf_adds fun _ => .inl rfl)

end Interface

namespace Netwatch

/-- All metrics have the labels of a host. -/
theorem metrics_labels : ∀ descriptor ∈ metrics.flatMap Property.descriptors,
    descriptor.labels.length = 4 := by decide

theorem metrics_bounded : ∀ metric ∈ metrics, metric.Bounded := by
  simp [metrics, states, Property.Bounded]

/-- Asks for the hosts and reads every row. -/
def scripted (target : Target) :
    Scripted (conductOf collector.descriptors target (· = request) IsGathered) (collect target) :=
  .bind (.query rfl) fun reply =>
    .collectEach reply.rows isGathered_heading fun row =>
      .row _ row.attributes rfl metrics_labels metrics_bounded (by simp) (fun _ member => member)
        conductOf_adds fun _ => .inl rfl

end Netwatch

namespace WirelessStation

/-- All metrics have the labels of a station. -/
theorem metrics_labels : ∀ descriptor ∈ metrics.flatMap Property.descriptors,
    descriptor.labels.length = 4 := by decide

theorem metrics_bounded : ∀ metric ∈ metrics, metric.Bounded := by
  simp [metrics, Metric.gauge, traffic, Property.Bounded, numberValue_neverOverflows, commaPair,
    pairValue_neverOverflows]

/-- Asks for the stations and reads every row. -/
def scripted (target : Target) :
    Scripted (conductOf collector.descriptors target (· = request) IsGathered) (collect target) :=
  .bind (.query rfl) fun reply =>
    .collectEach reply.rows isGathered_heading fun row =>
      .row _ row.attributes rfl metrics_labels metrics_bounded (by simp) (fun _ member => member)
        conductOf_adds fun _ => .inl rfl

end WirelessStation

end RouterMetrics.Collector
