import RouterMetrics.Collector.Registry
import RouterMetrics.Proofs.Metric.Offer

/-!
What comes of a row whose texts are converted, whatever the texts.

Main statement: converters reject texts, and only durations can be beyond the range of doubles
instead; a row comes to all its metrics unless one of them reads such a duration.
-/

namespace RouterMetrics.Collector

open RouterMetrics.Metric

/-- The metrics that registered collectors read from the same row. -/
def registeredMetrics : List (List Property) :=
  [Resource.metrics, Interface.metrics, Health.metrics, DhcpLease.metrics, Pool.metrics,
    Conntrack.metrics, Netwatch.metrics, Firmware.metrics, WirelessStation.metrics,
    [Dhcp.activeLeases], [Routes.total], [Routes.ofProtocol], Queue.totals, Queue.metrics,
    Monitor.metrics, WirelessInterface.metrics, Optics.metrics, Poe.metrics]

/-- All registered metrics have known converters. -/
theorem registeredMetrics_known :
    ∀ metrics ∈ registeredMetrics, ∀ metric ∈ metrics, metric.IsKnown := by
  -- All metrics are written out, each with its converter.
  simp [registeredMetrics, Resource.metrics, Interface.metrics, Interface.counted, Health.metrics,
    DhcpLease.metrics, Pool.metrics, Conntrack.metrics, Netwatch.metrics, Firmware.metrics,
    WirelessStation.metrics, Dhcp.activeLeases, Routes.total, Routes.ofProtocol, Queue.totals,
    Queue.metrics, Monitor.metrics, WirelessInterface.metrics, Optics.metrics, Poe.metrics, Metric.gauge,
    counter, traffic, states, presence, count, Property.IsKnown, Property.plainConverters,
    Property.pairConverters]

section Rows

variable {metrics : List Property} {attributes : Wire.Attributes} {scope : Scope}

/-- The scrape with more samples, and other oddities. -/
def Scrape.gaining (scrape : Scrape) (additions : List Addition) (oddities : List Oddity) : Scrape :=
  { scrape with ledger := ⟨scrape.ledger.additions ++ additions, oddities⟩ }

/-- What comes of a row all of whose metrics have had their turns. -/
def rowOutcome (faults : List ValueFault) (after : Scrape) : EStateM.Result Fault Scrape Unit :=
  match faults with
  | [] => .ok () after
  | fault :: others => .error (.gathered heading ((fault :: others).map .value)) after

/-- A row comes to all its metrics, and fails at the end if one was rejected. -/
theorem collectMetrics_reached
    (inRange : ∀ metric ∈ metrics, metric.fault? attributes scope.labels ≠ some .overflow)
    (scrape : Scrape) :
    ∃ oddities, collectMetrics metrics attributes scope scrape =
      rowOutcome (rowRejections metrics attributes scope.labels)
        (scrape.gaining (rowSamples metrics attributes scope.labels) oddities) := by
  -- What a row does to the ledger is what it does to the scrape.
  obtain ⟨oddities, collected⟩ := collectRow_reached inRange scrape.ledger
  refine ⟨oddities, ?_⟩
  simp only [collectMetrics, emitting, Bind.bind, EStateM.bind, collected]
  cases rowRejections metrics attributes scope.labels <;> rfl

/-- A row ends with the first metric that goes beyond the range of doubles. -/
theorem collectMetrics_stopped {before : List Property} {metric : Property} (after : List Property)
    (inRange : ∀ earlier ∈ before, earlier.fault? attributes scope.labels ≠ some .overflow)
    (beyond : metric.fault? attributes scope.labels = some .overflow) (scrape : Scrape) :
    ∃ oddities, collectMetrics (before ++ metric :: after) attributes scope scrape =
      .error .overflow (scrape.gaining (rowSamples before attributes scope.labels) oddities) := by
  -- What a row does to the ledger is what it does to the scrape.
  obtain ⟨oddities, collected⟩ := collectRow_stopped after inRange beyond scrape.ledger
  refine ⟨oddities, ?_⟩
  simp only [collectMetrics, emitting, Bind.bind, EStateM.bind, collected]
  rfl

/--
Only durations are beyond the range of doubles, and only they keep a row from all its metrics.

All other converters give a value or reject the text, and so does that of durations unless a group of
the duration is beyond the range behind groups within. A row without such a duration adds the samples
of all its metrics, and gathers the rejections; with one it ends there.
-/
theorem converted_unless_beyond (known : ∀ metric ∈ metrics, metric.IsKnown)
    (attributes : Wire.Attributes) (scope : Scope) (scrape : Scrape) :
    (∀ convert ∈ Property.plainConverters, NeverOverflows convert) ∧
      (∀ convert ∈ Property.pairConverters, NeverOverflows convert) ∧
      (∀ text, durationValue text = .error .overflow ↔ GoesBeyond text) ∧
      (∀ metrics ∈ registeredMetrics, ∀ metric ∈ metrics, metric.IsKnown) ∧
      ((∀ metric ∈ metrics, ¬ metric.GoesBeyond attributes) →
        ∃ oddities, collectMetrics metrics attributes scope scrape =
          rowOutcome (rowRejections metrics attributes scope.labels)
            (scrape.gaining (rowSamples metrics attributes scope.labels) oddities)) ∧
      ∀ before metric after, metrics = before ++ metric :: after →
        (∀ earlier ∈ before, ¬ earlier.GoesBeyond attributes) → metric.GoesBeyond attributes →
        ∃ oddities, collectMetrics metrics attributes scope scrape =
          .error .overflow (scrape.gaining (rowSamples before attributes scope.labels) oddities) := by
  refine ⟨Property.plainConverters_neverOverflow, Property.pairConverters_neverOverflow,
    fun text => durationValue_overflows_iff, registeredMetrics_known, ?_⟩
  -- What a metric meets is told by its text alone.
  have iff : ∀ metric ∈ metrics,
      (metric.fault? attributes scope.labels = some .overflow ↔ metric.GoesBeyond attributes) :=
    fun metric member => Property.fault?_eq_overflow_iff_goesBeyond (known metric member)
  refine ⟨fun inRange => ?_, ?_⟩
  · exact collectMetrics_reached (fun metric member overflow =>
      inRange metric member ((iff metric member).mp overflow)) scrape
  · rintro before metric after rfl inRange beyond
    refine collectMetrics_stopped after (fun earlier member overflow =>
      inRange earlier member ((iff earlier ?_).mp overflow)) ((iff metric ?_).mpr beyond) scrape
    · exact List.mem_append_left _ member
    · exact List.mem_append_right _ List.mem_cons_self

/-- An uptime of four hundred digits keeps a row from the count behind it; a text that is none does not. -/
theorem long_uptime_ends_row :
    let metrics := [counter "system" "uptime" deviceLabels ⟨"", ""⟩ durationValue,
      Metric.gauge "system" "cpu-count" deviceLabels]
    let row := fun uptime : String => OrderedMap.mk [("uptime", uptime), ("cpu-count", "x")]
    let scope := Scope.ofDevice "gw1" "10.0.0.1" "resource"
    let scrape : Scrape := ⟨⟨.ofLink (.fresh 0 []), []⟩, .empty⟩
    let long := String.ofList (List.replicate 400 '1' ++ ['s'])
    durationValue long = .error .overflow ∧
      (∃ oddities, collectMetrics metrics (row long) scope scrape =
        .error .overflow (scrape.gaining [] oddities)) ∧
      ∃ oddities, collectMetrics metrics (row "x") scope scrape =
        .error (.gathered heading
            [.value (.badProperty "x" "uptime" (.badDuration "x")),
              .value (.badProperty "x" "cpu-count" (.notNumber "x"))])
          (scrape.gaining [] oddities) := by
  intro metrics row scope scrape long
  have known : ∀ metric ∈ metrics, metric.IsKnown := by
    simp [metrics, counter, Metric.gauge, Property.IsKnown, Property.plainConverters]
  obtain ⟨-, -, overflows, -, -, stopped⟩ := converted_unless_beyond known (row long) scope scrape
  obtain ⟨-, -, -, -, reached, -⟩ := converted_unless_beyond known (row "x") scope scrape
  -- The text is one group of seconds, whose number has no double.
  have beyond : GoesBeyond long := by
    refine ⟨[], ⟨.second, List.replicate 400 1⟩, [], ?_, by simp, by decide +kernel⟩
    rw [String.toList_ofList]
    decide +kernel
  refine ⟨(overflows long).mpr beyond, ?_, ?_⟩
  · -- There is no rate behind the text, and it is not empty.
    have rateless : Property.beforeRate long = long := by
      unfold Property.beforeRate
      rw [String.toList_ofList]
      exact congrArg String.ofList (by decide +kernel)
    have found : Property.textIn? "uptime" (row long) = some long := by
      have some : long.isEmpty = false := by decide +kernel
      simp [row, Property.textIn?, OrderedMap.get?, Option.filter, some]
    exact stopped [] _ _ rfl (by simp)
      ⟨"uptime", _, long, rfl, found, rateless.symm ▸ beyond⟩
  · obtain ⟨oddities, ended⟩ := reached fun metric member =>
      mt (Property.fault?_eq_overflow_iff_goesBeyond (known metric member)).mpr
        ((by decide +kernel : ∀ metric ∈ metrics,
          metric.fault? (row "x") scope.labels ≠ some .overflow) metric member)
    -- Without a number beyond the range both rejections are gathered.
    have faults : rowRejections metrics (row "x") scope.labels =
        [.badProperty "x" "uptime" (.badDuration "x"),
          .badProperty "x" "cpu-count" (.notNumber "x")] := by decide +kernel
    rw [faults] at ended
    exact ⟨oddities, ended⟩

end Rows

end RouterMetrics.Collector
