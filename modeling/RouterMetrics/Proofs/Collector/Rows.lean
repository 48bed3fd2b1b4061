import RouterMetrics.Proofs.Collector.Conversions
import RouterMetrics.Proofs.Metric.Sink

/-!
What comes of many rows that are read by the same metrics.

Main statement: each row gives each metric what it yields for this row alone, in the order of the rows
and then of the metrics. The rejections are gathered row by row, and no row costs another one anything.
-/

namespace RouterMetrics.Metric

open RouterMetrics.Wire (Attributes)

namespace Property

variable {metric : Property} {attributes : Attributes} {scope : Scope}

/-- The samples that a metric yields for a row alone. -/
def yielded (metric : Property) (attributes : Attributes) (scope : Scope) : List Addition :=
  (leftBy (metric.collect attributes scope .empty)).additions

/-- The rejection with which a metric ends for a row alone. -/
def rejected? (metric : Property) (attributes : Attributes) (scope : Scope) : Option ValueFault :=
  match metric.collect attributes scope .empty with
  | .error (.rejected fault) _ => some fault
  | _ => none

/-- A metric fails for a row. -/
def Fails (metric : Property) (attributes : Attributes) (scope : Scope) : Prop :=
  ∃ fault more, metric.collect attributes scope .empty = .error fault more

/-- A metric yields all its samples for a row, or it fails and yields none. -/
structure Whole (metric : Property) (attributes : Attributes) (scope : Scope) : Prop where
  /-- Nothing is left of a metric that fails. -/
  undone : metric.Fails attributes scope → metric.yielded attributes scope = []
  /-- A failure is told by one rejection. -/
  told : metric.Fails attributes scope ↔ metric.rejected? attributes scope ≠ none
  /-- What a row offers to a metric is yielded if the metric does not fail. -/
  done : ¬ metric.Fails attributes scope →
    metric.offer attributes scope.labels = .ok (metric.yielded attributes scope)
  /-- Where there is a sample, there is one for each descriptor. -/
  complete : metric.yielded attributes scope = [] ∨
    ((metric.yielded attributes scope).map Addition.descriptor).Perm metric.descriptors
  /-- All samples stand under the labels of the row. -/
  labelled : ∀ addition ∈ metric.yielded attributes scope, addition.labels = scope.labels

/-- What is yielded for a row alone is what a row has for the metric. -/
theorem yielded_eq (metric : Property) (attributes : Attributes) (scope : Scope) :
    metric.yielded attributes scope = metric.samples attributes scope.labels := by
  -- Samples are added whether there is a fault behind them or not.
  obtain ⟨oddities, collected⟩ := metric.collect_samples attributes scope .empty
  rw [yielded, collected]
  cases metric.fault? attributes scope.labels <;> rfl

/-- A metric fails exactly if something is wrong with what a row offers to it. -/
theorem fails_iff : metric.Fails attributes scope ↔ metric.fault? attributes scope.labels ≠ none := by
  -- The metric ends with the fault that the row has for it.
  obtain ⟨oddities, collected⟩ := metric.collect_samples attributes scope .empty
  rw [Fails, collected]
  cases metric.fault? attributes scope.labels with
  | none => simp
  | some fault => exact iff_of_true ⟨fault, _, rfl⟩ (Option.some_ne_none fault)

/-- A rejection for a row alone is the rejection of what the row offers. -/
theorem rejected?_eq (metric : Property) (attributes : Attributes) (scope : Scope) :
    metric.rejected? attributes scope = metric.rejection? attributes scope.labels := by
  obtain ⟨oddities, collected⟩ := metric.collect_samples attributes scope .empty
  rw [rejected?, collected, rejection?]
  -- A metric ends well, with a rejection, or beyond the range of doubles.
  rcases metric.fault? attributes scope.labels with _ | rejected | _ <;> rfl

/-- A metric that stays in the range of doubles fails only with a rejection. -/
theorem fails_iff_rejected (bounded : metric.Bounded) :
    metric.Fails attributes scope ↔ metric.rejected? attributes scope ≠ none := by
  -- Of both kinds of faults only a rejection is left.
  have inRange : metric.fault? attributes scope.labels ≠ some .overflow :=
    fault?_ne_overflow bounded
  rw [fails_iff, rejected?_eq, rejection?]
  rcases wrong : metric.fault? attributes scope.labels with _ | rejected | _
  · simp
  · simp
  · exact absurd wrong inRange

/-- What a row offers has no sample, or one for each descriptor of the metric. -/
theorem offer_complete {additions : List Addition} {labels : List LabelValue}
    (offered : metric.offer attributes labels = .ok additions) :
    (additions = [] ∨ (additions.map Addition.descriptor).Perm metric.descriptors) ∧
      ∀ addition ∈ additions, addition.labels = labels := by
  -- Each kind of metric offers nothing, or all its samples under the given labels.
  cases metric with
  | number property descriptor convert =>
    simp only [offer] at offered
    cases found : textIn? property attributes with
    | none => simp_all
    | some text =>
      simp only [found] at offered
      cases converted : convert (beforeRate text) with
      | error fault => simp [converted, Except.mapError, Except.map] at offered
      | ok value =>
        simp only [converted, Except.mapError, Except.map, Except.ok.injEq] at offered
        subst offered
        simp [descriptors]
  | traffic property received sent convert =>
    simp only [offer] at offered
    cases found : textIn? property attributes with
    | none => simp_all
    | some text =>
      simp only [found] at offered
      cases converted : convert text with
      | error fault => simp [converted, Except.mapError, Except.map] at offered
      | ok values =>
        simp only [converted, Except.mapError, Except.map, Except.ok.injEq] at offered
        subst offered
        -- What was sent is offered first, while what was received is described first.
        simp [descriptors, List.Perm.swap]
  | state property states =>
    simp only [offer] at offered
    cases found : textIn? property attributes with
    | none => simp_all
    | some text =>
      simp only [found, Except.ok.injEq] at offered
      subst offered
      refine ⟨.inr ?_, ?_⟩
      · simp [descriptors, OrderedMap.values, Function.comp_def]
      · intro addition member
        obtain ⟨entry, -, rfl⟩ := List.mem_map.mp member
        rfl
  | presence property descriptor =>
    simp only [offer, Except.ok.injEq] at offered
    subst offered
    by_cases there : attributes.contains property <;> simp [there, descriptors]

/-- Samples under as many labels as the descriptors of their metric have are accepted. -/
theorem faultless_of_complete {additions : List Addition} {labels : List LabelValue}
    (fits : metric.Fits labels)
    (complete : additions = [] ∨ (additions.map Addition.descriptor).Perm metric.descriptors)
    (labelled : ∀ addition ∈ additions, addition.labels = labels) :
    ∀ addition ∈ additions,
      addition.descriptor ∈ metric.descriptors ∧ addition.fault? = none := by
  intro addition member
  -- Either there are no samples, or there is one for each of the descriptors.
  have described : addition.descriptor ∈ metric.descriptors := by
    rcases complete with rfl | same
    · exact absurd member List.not_mem_nil
    · exact same.mem_iff.mp (List.mem_map_of_mem member)
  refine ⟨described, ?_⟩
  simp [Addition.fault?, labelled addition member, fits _ described]

/-- Under as many labels as its descriptors have, a metric yields all its samples or none. -/
theorem whole (bounded : metric.Bounded) (fits : metric.Fits scope.labels)
    (attributes : Attributes) : metric.Whole attributes scope := by
  have told : metric.Fails attributes scope ↔ metric.rejected? attributes scope ≠ none :=
    fails_iff_rejected bounded
  -- With the right number of labels only the conversion can fail, and then nothing is offered.
  cases offered : metric.offer attributes scope.labels with
  | error fault =>
    have none : metric.yielded attributes scope = [] := by
      rw [yielded_eq, samples, offered]
      rfl
    have failed : metric.Fails attributes scope := fails_iff.mpr (by simp [fault?, offered])
    exact ⟨fun _ => none, told, fun well => absurd failed well, .inl none, by simp [none]⟩
  | ok additions =>
    obtain ⟨complete, labelled⟩ := offer_complete offered
    have passes : ∀ addition ∈ additions, addition.fault? = none :=
      fun addition member => (faultless_of_complete fits complete labelled addition member).2
    -- No addition cuts off those behind it.
    have all : metric.yielded attributes scope = additions := by
      rw [yielded_eq, samples, offered]
      exact List.takeWhile_eq_self_iff.mpr fun addition member => by
        rw [passes addition member]
        rfl
    have well : ¬ metric.Fails attributes scope := by
      rw [fails_iff, not_not, fault?, offered]
      simp only [Option.map_eq_none_iff, List.findSome?_eq_none_iff]
      exact passes
    exact ⟨fun failed => absurd failed well, told, fun _ => by rw [all, offered], by rwa [all],
      by rwa [all]⟩

/-- What is yielded has a value for each label. -/
theorem yielded_faultless (bounded : metric.Bounded) (fits : metric.Fits scope.labels) :
    ∀ addition ∈ metric.yielded attributes scope,
      addition.descriptor ∈ metric.descriptors ∧ addition.fault? = none := by
  -- What is yielded is complete, and stands under the labels of the row.
  have whole := whole bounded fits attributes
  exact faultless_of_complete fits whole.complete whole.labelled

end Property

/-- A sink after additions: nothing but these is added, each to the family of its descriptor. -/
structure Sink.Gains (sink : Sink) (additions : List Addition) (after : Sink) : Prop where
  added : additions.foldlM Sink.add sink = .ok after
  families : ∀ name, after.byName.get? name = familyWith (sink.byName.get? name) (named name additions)
  described : ∀ addition ∈ additions, ∃ family,
    after.byName.get? addition.descriptor.name = some family ∧
      family.descriptor = addition.descriptor

/-- Samples with all their labels go into a sink whose descriptors are those of their names. -/
theorem Sink.exists_gains {sink : Sink} {additions : List Addition} {descriptors : List Descriptor}
    (faultless : ∀ addition ∈ additions,
      addition.descriptor ∈ descriptors ∧ addition.fault? = none)
    (alike : SameByName descriptors)
    (familiar : ∀ descriptor ∈ descriptors, ∀ family,
      sink.byName.get? descriptor.name = some family → family.descriptor = descriptor) :
    ∃ after, sink.Gains additions after := by
  refine ⟨sink.insertAll additions, ?_, sink.get?_insertAll_behind additions, ?_⟩
  · exact foldlM_add (fun addition member => (faultless addition member).2) sink
  · intro addition member
    rw [get?_insertAll_behind]
    have own := (faultless addition member).1
    cases old : sink.byName.get? addition.descriptor.name with
    | some family => exact ⟨_, rfl, familiar _ own family old⟩
    | none =>
      -- The family starts with the first addition of the name, which has the same descriptor.
      have inside : addition ∈ named addition.descriptor.name additions := by
        simpa [named] using member
      obtain ⟨first, others, split⟩ := List.exists_cons_of_ne_nil (List.ne_nil_of_mem inside)
      have firstNamed : first ∈ named addition.descriptor.name additions :=
        split ▸ List.mem_cons_self
      obtain ⟨earlier, same⟩ : first ∈ additions ∧
          first.descriptor.name = addition.descriptor.name := by
        simpa [named] using firstNamed
      refine ⟨_, by rw [split]; rfl, ?_⟩
      exact alike _ (faultless first earlier).1 _ own same

end RouterMetrics.Metric

namespace RouterMetrics.Collector

open RouterMetrics.Metric

/-- How a step ends: well, or with a fault. -/
def ending (fault? : Option Fault) (after : Scrape) : EStateM.Result Fault Scrape Unit :=
  match fault? with
  | none => .ok () after
  | some fault => .error fault after

/-- Faults as the causes of one under the heading; no faults make none. -/
def gathered? : List Fault → Option Fault
  | [] => none
  | fault :: others => some (.gathered heading (fault :: others))

/-- There is a gathered fault exactly if there is a fault to gather. -/
theorem gathered?_eq_none_iff {faults : List Fault} : gathered? faults = none ↔ faults = [] := by
  -- Even one fault is gathered.
  cases faults <;> simp [gathered?]

/-- Gathered faults cost one row only. -/
theorem isOfRow_of_gathered? {faults : List Fault} {fault : Fault}
    (gathered : gathered? faults = some fault) : fault.isOfRow = true := by
  -- What is gathered is told as one fault, which is of a row.
  cases faults with
  | nil => cases gathered
  | cons first others =>
    cases gathered
    rfl

/-- More samples behind others are samples behind both. -/
theorem Scrape.gaining_gaining (scrape : Scrape) (additions later : List Addition)
    (oddities others : List Oddity) :
    (scrape.gaining additions oddities).gaining later others =
      scrape.gaining (additions ++ later) others := by
  -- The later oddities take the place of the earlier ones.
  simp [gaining]

section Loops

variable {ι : Type} {step : ι → Collecting Unit} {samples : ι → List Addition}
  {fault? : ι → Option Fault} {items : List ι}

/-- A loop comes to all its items, whatever faults it gathers on the way. -/
theorem gather_reached
    (each : ∀ item ∈ items, ∀ scrape, ∃ oddities,
      step item scrape = ending (fault? item) (scrape.gaining (samples item) oddities))
    (ofRow : ∀ item ∈ items, ∀ fault, fault? item = some fault → fault.isOfRow = true)
    (scrape : Scrape) :
    ∃ oddities, gather Fault.isOfRow step items scrape =
      .ok (items.filterMap fault?) (scrape.gaining (items.flatMap samples) oddities) := by
  -- The induction is on the items: a fault goes to those of the later ones and ends nothing.
  induction items generalizing scrape with
  | nil =>
    refine ⟨scrape.ledger.oddities, ?_⟩
    simp [gather, Scrape.gaining, Pure.pure, EStateM.pure]
  | cons item items ih =>
    obtain ⟨first, others⟩ := List.forall_mem_cons.mp each
    obtain ⟨firstOfRow, othersOfRow⟩ := List.forall_mem_cons.mp ofRow
    obtain ⟨earlier, own⟩ := first scrape
    obtain ⟨oddities, went⟩ := ih others othersOfRow (scrape.gaining (samples item) earlier)
    rw [Scrape.gaining_gaining] at went
    refine ⟨oddities, ?_⟩
    cases found : fault? item with
    | none =>
      simp only [found, ending] at own
      simp [gather, own, went, found]
    | some fault =>
      simp only [found, ending] at own
      simp [gather, own, firstOfRow fault found, went, found]

/-- A loop that gathers faults adds the samples of all its items and ends with all their faults. -/
theorem collectEach_reached
    (each : ∀ item ∈ items, ∀ scrape, ∃ oddities,
      step item scrape = ending (fault? item) (scrape.gaining (samples item) oddities))
    (ofRow : ∀ item ∈ items, ∀ fault, fault? item = some fault → fault.isOfRow = true)
    (scrape : Scrape) :
    ∃ oddities, collectEach items step scrape =
      ending (gathered? (items.filterMap fault?))
        (scrape.gaining (items.flatMap samples) oddities) := by
  obtain ⟨oddities, went⟩ := gather_reached each ofRow scrape
  refine ⟨oddities, ?_⟩
  -- Behind the last item the faults are gathered, or there are none.
  simp only [collectEach, Bind.bind, EStateM.bind, went]
  cases items.filterMap fault? <;> rfl

end Loops

/-- A row that metrics are read from, and whose samples they are. -/
structure Row where
  attributes : Wire.Attributes
  scope : Scope

section Rows

variable {metrics : List Property} {rows : List Row} {row : Row}

/-- What a row yields to metrics, each of them collected alone. -/
def Row.yielded (metrics : List Property) (row : Row) : List Addition :=
  metrics.flatMap fun metric => metric.yielded row.attributes row.scope

/-- The rejections with which metrics end for a row, each of them collected alone. -/
def Row.rejections (metrics : List Property) (row : Row) : List ValueFault :=
  metrics.filterMap fun metric => metric.rejected? row.attributes row.scope

/-- The fault of a row has the rejections of its metrics as causes. -/
def Row.fault? (metrics : List Property) (row : Row) : Option Fault :=
  gathered? ((row.rejections metrics).map .value)

/-- A row yields what it has for the metrics. -/
theorem Row.yielded_eq (metrics : List Property) (row : Row) :
    row.yielded metrics = rowSamples metrics row.attributes row.scope.labels :=
  -- Each metric yields its part of the row.
  List.flatMap_congr fun metric _ => metric.yielded_eq row.attributes row.scope

/-- The rejections of a row are those of what it has for the metrics. -/
theorem Row.rejections_eq (metrics : List Property) (row : Row) :
    row.rejections metrics = rowRejections metrics row.attributes row.scope.labels :=
  -- Each metric rejects its part of the row.
  List.filterMap_congr fun metric _ => metric.rejected?_eq row.attributes row.scope

/-- A row has no fault exactly if none of the metrics fails for it. -/
theorem Row.fault?_eq_none_iff (bounded : ∀ metric ∈ metrics, metric.Bounded) :
    row.fault? metrics = none ↔
      ∀ metric ∈ metrics, ¬ metric.Fails row.attributes row.scope := by
  -- Within the range a metric fails exactly if it rejects something.
  rw [Row.fault?, gathered?_eq_none_iff, List.map_eq_nil_iff, Row.rejections,
    List.filterMap_eq_nil_iff]
  refine forall₂_congr fun metric member => ?_
  rw [Property.fails_iff_rejected (bounded metric member), not_not]

/-- A row gives all metrics their samples, and ends with the rejections of some of them. -/
theorem collectMetrics_row (bounded : ∀ metric ∈ metrics, metric.Bounded) (row : Row)
    (scrape : Scrape) :
    ∃ oddities, collectMetrics metrics row.attributes row.scope scrape =
      ending (row.fault? metrics) (scrape.gaining (row.yielded metrics) oddities) := by
  -- No metric ends the row early, as none goes beyond the range.
  have inRange : ∀ metric ∈ metrics,
      metric.fault? row.attributes row.scope.labels ≠ some .overflow :=
    fun metric member => Property.fault?_ne_overflow (bounded metric member)
  obtain ⟨oddities, collected⟩ := collectMetrics_reached inRange scrape
  refine ⟨oddities, ?_⟩
  rw [collected, row.yielded_eq, Row.fault?, row.rejections_eq]
  cases rowRejections metrics row.attributes row.scope.labels <;> rfl

/--
Rows lose nothing and add nothing of their own: each metric yields all its samples for a row, or none if
it fails there, and a loop over rows adds exactly these, row by row and metric by metric.

It ends with a fault exactly if some metric fails for some row. Then there is one cause for each such
row, in their order, which holds one rejection for each metric that fails there, in theirs. A sink with
the same descriptors under their names takes all the samples into the families of these descriptors.
-/
theorem rows_accounted {sink : Sink} (bounded : ∀ metric ∈ metrics, metric.Bounded)
    (fits : ∀ row ∈ rows, ∀ metric ∈ metrics, metric.Fits row.scope.labels)
    (alike : SameByName (metrics.flatMap Property.descriptors))
    (familiar : ∀ descriptor ∈ metrics.flatMap Property.descriptors, ∀ family,
      sink.byName.get? descriptor.name = some family → family.descriptor = descriptor)
    (scrape : Scrape) :
    (∀ row ∈ rows, ∀ metric ∈ metrics, metric.Whole row.attributes row.scope) ∧
      (∃ oddities,
        collectEach rows (fun row => collectMetrics metrics row.attributes row.scope) scrape =
          ending (gathered? (rows.filterMap (Row.fault? metrics)))
            (scrape.gaining (rows.flatMap (Row.yielded metrics)) oddities)) ∧
      (gathered? (rows.filterMap (Row.fault? metrics)) ≠ none ↔
        ∃ row ∈ rows, ∃ metric ∈ metrics, metric.Fails row.attributes row.scope) ∧
      ∃ after, sink.Gains (rows.flatMap (Row.yielded metrics)) after := by
  refine ⟨fun row member metric inside =>
    Property.whole (bounded metric inside) (fits row member metric inside) _, ?_, ?_, ?_⟩
  · exact collectEach_reached (fun row _ => collectMetrics_row bounded row)
      (fun row _ fault => isOfRow_of_gathered?) scrape
  · -- Nothing is gathered exactly if no row has a fault, which is if no metric fails for it.
    rw [ne_eq, gathered?_eq_none_iff, List.filterMap_eq_nil_iff]
    simp only [Row.fault?_eq_none_iff bounded]
    push Not
    rfl
  · refine Sink.exists_gains ?_ alike familiar
    intro addition member
    obtain ⟨row, inside, ofRow⟩ := List.mem_flatMap.mp member
    obtain ⟨metric, known, own⟩ := List.mem_flatMap.mp ofRow
    obtain ⟨described, faultless⟩ :=
      Property.yielded_faultless (bounded metric known) (fits row inside metric known) addition own
    exact ⟨List.mem_flatMap.mpr ⟨metric, known, described⟩, faultless⟩

/-- Of three rows two have texts that are no numbers; all the other samples of the three come through. -/
theorem two_bad_rows_accounted :
    let metrics := [Metric.gauge "link" "load" deviceLabels, Metric.traffic "link" "bytes" deviceLabels,
      states "link" "state" deviceLabels ["up", "down"], presence "link" "comment" deviceLabels]
    let row := fun attributes => Row.mk ⟨attributes⟩ (.ofDevice "gw1" "10.0.0.1" "links")
    let rows := [row [("load", "x"), ("bytes", "1,2")], row [("load", "1"), ("state", "up")],
      row [("bytes", "3"), ("load", "y"), ("comment", "")]]
    let load := describe "link" "load" "load for link" deviceLabels
    let sink : Sink := ⟨.ofList [(load.name, ⟨load, []⟩)]⟩
    let scrape : Scrape := ⟨⟨.ofLink (.fresh 0 []), []⟩, .empty⟩
    let added := rows.flatMap (Row.yielded metrics)
    (∃ oddities,
      collectEach rows (fun row => collectMetrics metrics row.attributes row.scope) scrape =
        .error (.gathered heading
          [.gathered heading [.value (.badProperty "x" "load" (.notNumber "x"))],
            .gathered heading [.value (.badProperty "y" "load" (.notNumber "y")),
              .value (.badPairProperty "3" "bytes" (.notPair "3"))]])
          (scrape.gaining added oddities)) ∧
      added.map (fun addition => addition.descriptor.name) =
        ["mikrotik_link_tx_bytes", "mikrotik_link_rx_bytes", "mikrotik_link_load",
          "mikrotik_link_state_up", "mikrotik_link_state_down", "mikrotik_link_comment"] ∧
      ∃ after, sink.Gains added after := by
  intro metrics row rows load sink scrape added
  obtain ⟨-, ⟨oddities, ended⟩, -, gains⟩ := @rows_accounted metrics rows sink
    (by
      simp [metrics, Metric.gauge, Metric.traffic, states, presence, Property.Bounded,
        numberValue_neverOverflows, commaPair, pairValue_neverOverflows])
    (by
      unfold Property.Fits
      decide +kernel)
    (by
      unfold SameByName
      decide +kernel)
    (fun descriptor member family found => by
      have same : (sink.byName.get? descriptor.name).all (·.descriptor = descriptor) :=
        (by decide +kernel : ∀ descriptor ∈ metrics.flatMap Property.descriptors,
          (sink.byName.get? descriptor.name).all (·.descriptor = descriptor)) descriptor member
      simpa [found] using same)
    scrape
  have faults : rows.map (Row.rejections metrics) =
      [[.badProperty "x" "load" (.notNumber "x")], [],
        [.badProperty "y" "load" (.notNumber "y"), .badPairProperty "3" "bytes" (.notPair "3")]] := by
    decide +kernel
  refine ⟨⟨oddities, ?_⟩, ?_, gains⟩
  · -- The faults of the rows are put together of their rejections.
    have gathered : rows.filterMap (Row.fault? metrics) =
        (rows.map (Row.rejections metrics)).filterMap fun rejections =>
          gathered? (rejections.map .value) := List.filterMap_map.symm
    rw [gathered, faults] at ended
    exact ended
  · decide +kernel

end Rows

end RouterMetrics.Collector
