import RouterMetrics.Collector.Registry
import RouterMetrics.Proofs.Collector.Sampled

/-! The collectors that make several requests, some of them with names from earlier replies. -/

namespace RouterMetrics.Collector

open RouterMetrics.Metric

namespace Dhcp

/-- The requests: for the servers in use, and for the leases of a server. -/
def Asks (words : List String) : Prop :=
  words = serversRequest ∨ ∃ server, words = leasesRequest server

/-- The metric has the labels of a server. -/
theorem activeLeases_labels : ∀ descriptor ∈ activeLeases.descriptors,
    descriptor.labels.length = 3 := by decide

/-- A count is not beyond the range of doubles. -/
theorem activeLeases_bounded : activeLeases.Bounded := numberValue_neverOverflows

/-- Asks for the servers, and for the leases of every server with a name. -/
def scripted (target : Target) :
    Scripted (conductOf collector.descriptors target Asks IsGathered) (collect target) :=
  .bind (.query (.inl rfl)) fun reply =>
    .collectEach (presentNames reply.rows) isGathered_heading fun server =>
      -- Each request is made inside the step for its server, whose faults are gathered.
      .bind (.query (.inr ⟨server, rfl⟩)) fun reply =>
        .counted [some server] reply.done.attributes rfl activeLeases_labels activeLeases_bounded
          (by simp) (fun _ member => member) conductOf_adds fun _ => .inl rfl

end Dhcp

namespace Monitor

/-- All metrics have the labels of a link. -/
theorem metrics_labels : ∀ descriptor ∈ metrics.flatMap Property.descriptors,
    descriptor.labels.length = 3 := by decide

/-- No metric goes beyond the range of doubles. -/
theorem metrics_bounded : ∀ metric ∈ metrics, metric.Bounded := by
  -- Rates, flags and the status of a link are read from texts that say no large number.
  simp [metrics, Metric.gauge, Property.Bounded, linkStatusValue_neverOverflows,
    rateValue_neverOverflows, flagValue_neverOverflows]

/-- The requests: for the interfaces in use, and for the links of some interfaces. -/
def Asks (words : List String) : Prop :=
  words = namesRequest ∨ ∃ names, words = linksRequest names

/-- Asks for the interfaces, and for the links of those with a name. -/
def scripted (target : Target) :
    Scripted (conductOf collector.descriptors target Asks IsGathered) (collect target) :=
  .bind (.query (.inl rfl)) fun reply =>
    -- Without names there is nothing to ask for.
    .ite (.pure ()) (.bind (.query (.inr ⟨presentNames reply.rows, rfl⟩)) fun reply =>
      .collectEach reply.rows isGathered_heading fun row =>
        .row _ row.attributes rfl metrics_labels metrics_bounded (by simp)
          (fun _ member => member) conductOf_adds fun _ => .inl rfl)

end Monitor

namespace Optics

/-- All metrics have the labels of a module. -/
theorem metrics_labels : ∀ descriptor ∈ metrics.flatMap Property.descriptors,
    descriptor.labels.length = 3 := by decide

theorem metrics_bounded : ∀ metric ∈ metrics, metric.Bounded := by
  simp [metrics, Metric.gauge, Property.Bounded, numberValue_neverOverflows, flagValue_neverOverflows]

/-- The requests: for the interfaces in use, and for the modules of some interfaces. -/
def Asks (words : List String) : Prop :=
  words = namesRequest ∨ ∃ names, words = modulesRequest names

/-- Faults of rows, or an optical interface without a name. -/
def Fails (fault : Fault) : Prop := IsGathered fault ∨ fault = .missingName

/-- Asks for the modules of some interfaces and reads every row with a name. -/
def scriptedModules (target : Target) (names : List String) :
    Scripted (conductOf collector.descriptors target (· = modulesRequest names) IsGathered) (do
      let reply ← query (modulesRequest names)
      collectEach (reply.rows.filter fun row => row.attributes.contains "name") fun row =>
        collectMetrics metrics row.attributes (target.scope.withLabels [some (row.get "name")])) :=
  .bind (.query rfl) fun reply =>
    .collectEach _ isGathered_heading fun row =>
      .row _ row.attributes rfl metrics_labels metrics_bounded (by simp)
        (fun _ member => member) conductOf_adds fun _ => .inl rfl

/-- Goes on with the names if they are all told. -/
def scriptedNames (target : Target) : (names : Option (List String)) →
    Scripted (conductOf collector.descriptors target Asks Fails) (do
      let some names := names | throw .missingName
      let reply ← query (modulesRequest names)
      collectEach (reply.rows.filter fun row => row.attributes.contains "name") fun row =>
        collectMetrics metrics row.attributes (target.scope.withLabels [some (row.get "name")]))
  | none => .throw (.inr rfl)
  | some names => (scriptedModules target names).mono
      ⟨fun _ asked => .inr ⟨names, asked⟩, fun _ added => added, fun _ => .inl⟩

/-- Asks for the interfaces, and for the modules of the optical ones if they all have a name. -/
def scripted (target : Target) :
    Scripted (conductOf collector.descriptors target Asks Fails) (collect target) :=
  .bind (.query (.inl rfl)) fun reply =>
    .ite (.pure ()) (scriptedNames target ((opticalNames reply.rows).mapM id))

end Optics

namespace Poe

/-- All metrics have the labels of a port. -/
theorem metrics_labels : ∀ descriptor ∈ metrics.flatMap Property.descriptors,
    descriptor.labels.length = 3 := by decide

theorem metrics_bounded : ∀ metric ∈ metrics, metric.Bounded := by
  simp [metrics, Metric.gauge, Property.Bounded, numberValue_neverOverflows]

/-- The requests: for the powered ports, and for the output of some ports. -/
def Asks (words : List String) : Prop :=
  words = namesRequest ∨ ∃ names, words = outputRequest names

/-- Asks for the ports, and for the output of those with a name. -/
def scripted (target : Target) :
    Scripted (conductOf collector.descriptors target Asks IsGathered) (collect target) :=
  .bind (.query (.inl rfl)) fun reply =>
    .ite (.pure ()) (.bind (.query (.inr ⟨presentNames reply.rows, rfl⟩)) fun reply =>
      .collectEach _ isGathered_heading fun row =>
        .row _ row.attributes rfl metrics_labels metrics_bounded (by simp)
          (fun _ member => member) conductOf_adds fun _ => .inl rfl)

end Poe

namespace Pool

/-- All metrics have the labels of a pool. -/
theorem metrics_labels : ∀ descriptor ∈ metrics.flatMap Property.descriptors,
    descriptor.labels.length = 4 := by decide

theorem metrics_bounded : ∀ metric ∈ metrics, metric.Bounded := by
  simp [metrics, Metric.gauge, Property.Bounded, numberValue_neverOverflows]

/-- The requests: for the IPv4 pools, and for the used IPv6 prefixes where there is IPv6. -/
def Asks (target : Target) (words : List String) : Prop :=
  words = ipv4Request ∨ words = ipv6Request ∧ target.ipv6Disabled = false

/-- The requests of a collector of pools, its samples and its faults. -/
def conduct (target : Target) : Conduct :=
  conductOf collector.descriptors target (Asks target) IsGathered

/-- Asks for the IPv4 pools and reads every row. -/
def scriptedIpv4 (target : Target) : Scripted (conduct target) (collectIpv4 target) :=
  .bind (.query (.inl rfl)) fun reply =>
    .collectEach reply.rows isGathered_heading fun row =>
      .row [some "v4", some (row.get "name")] row.attributes rfl metrics_labels metrics_bounded
        (by simp) (fun _ member => member) conductOf_adds fun _ => .inl rfl

/-- Asks for the used prefixes and adds how many there are of each pool. -/
def scriptedIpv6 {target : Target} (enabled : target.ipv6Disabled = false) :
    Scripted (conduct target) (collectIpv6 target) :=
  .bind (.query (.inr ⟨rfl, enabled⟩)) fun _ =>
    .forM _ fun (pool, _) _ =>
      .sample [some "v6", some pool] rfl rfl (by simp)
        (by simp [collector, metrics, Property.descriptors]) conductOf_adds

/-- Asks for the pools of both versions, unless the device has no IPv6. -/
def scripted (target : Target) : Scripted (conduct target) (collect target) :=
  .bind (scriptedIpv4 target) fun _ =>
    -- The case is split here, as the second request is allowed only where there is IPv6.
    if disabled : target.ipv6Disabled = true then
      (Scripted.pure ()).congr (by simp [disabled])
    else (scriptedIpv6 (by simpa using disabled)).congr (by simp [disabled])

end Pool

namespace Queue

/-- All totals have the labels of the device only. -/
theorem totals_labels : ∀ descriptor ∈ totals.flatMap Property.descriptors,
    descriptor.labels.length = 2 := by decide

theorem totals_bounded : ∀ metric ∈ totals, metric.Bounded := by
  simp [totals, Metric.gauge, Property.Bounded, numberValue_neverOverflows]

/-- All metrics have the labels of a simple queue. -/
theorem metrics_labels : ∀ descriptor ∈ metrics.flatMap Property.descriptors,
    descriptor.labels.length = 5 := by decide

theorem metrics_bounded : ∀ metric ∈ metrics, metric.Bounded := by
  -- Both halves of the value are read as numbers.
  simp [metrics, traffic, Property.Bounded, slashPair, pairValue_neverOverflows]

/-- The requests: for the totals, and for the simple queues. -/
def Asks (words : List String) : Prop := words = totalsRequest ∨ words = queuesRequest

/-- The requests of the collector of queues, its samples and its faults. -/
def conduct (target : Target) : Conduct :=
  conductOf collector.descriptors target Asks IsGathered

/-- The samples of totals are samples of queues. -/
theorem totals_described : ∀ descriptor ∈ totals.flatMap Property.descriptors,
    descriptor ∈ collector.descriptors := by
  intro descriptor member
  -- The descriptors of totals stand behind those of simple queues.
  simp only [collector, List.flatMap_append]
  exact List.mem_append_right _ member

/-- The samples of simple queues are samples of queues. -/
theorem metrics_described : ∀ descriptor ∈ metrics.flatMap Property.descriptors,
    descriptor ∈ collector.descriptors := by
  -- The metrics of simple queues stand in front of the totals.
  intro descriptor member
  simp only [collector, List.flatMap_append]
  exact List.mem_append_left _ member

/-- Asks for the totals and reads the first row. -/
def scriptedTotals {target : Target} (plain : target.Plain) :
    Scripted (conduct target).ofRow (collectTotals target) :=
  .bind (.query (.inl rfl)) fun reply =>
    match reply.rows with
    | [] => .pure ()
    | row :: _ => .row [] row.attributes plain totals_labels totals_bounded valued_nil
        totals_described conductOf_adds fun _ => .inl rfl

/-- Asks for the simple queues and reads every row. -/
def scriptedQueues (target : Target) : Scripted (conduct target).ofRow (collectQueues target) :=
  .bind (.query (.inr rfl)) fun reply =>
    .collectEach reply.rows (fun causes => .inl rfl) fun row =>
      .row _ row.attributes rfl metrics_labels metrics_bounded (by simp) metrics_described
        conductOf_adds fun _ => .inl rfl

/-- Asks for the totals and for the simple queues, whatever becomes of the totals. -/
def scripted {target : Target} (plain : target.Plain) :
    Scripted (conduct target) (collect target) where
  script := .collectEach [(scriptedTotals plain).script, (scriptedQueues target).script] id
  performs := by
    -- The two steps are gathered as the scripts of two items are.
    rw [Script.perform_collectEach]
    simp only [collect, collectEach, gather, id, (scriptedTotals plain).performs,
      (scriptedQueues target).performs]
  obeys := by
    refine Script.obeys_collectEach isGathered_heading fun script member => ?_
    simp only [List.mem_cons, List.not_mem_nil, or_false] at member
    rcases member with rfl | rfl
    · exact (scriptedTotals plain).obeys
    · exact (scriptedQueues target).obeys

end Queue

namespace Resource

/-- All metrics have the labels of the device only. -/
theorem metrics_labels : ∀ descriptor ∈ metrics.flatMap Property.descriptors,
    descriptor.labels.length = 2 := by decide

/-- Faults of a row, or an uptime beyond the range of doubles. -/
def Fails (fault : Fault) : Prop := IsGathered fault ∨ fault = .overflow

/-- The requests of the collector of resources, its samples and its faults. -/
def conduct (target : Target) : Conduct :=
  conductOf collector.descriptors target (· = request) Fails

/-- Reads one row. -/
def scriptedRow {target : Target} (plain : target.Plain) (row : Wire.Sentence) :
    Scripted (conduct target) (collectRow target row) :=
  .bind
    (.sample [some (row.get "board-name"), some (row.get "version")] (by rw [plain]; rfl) rfl
      (by simp) (by simp [collector]) conductOf_adds)
    fun _ =>
      .collectMetrics row.attributes
        (fits_of_length metrics_labels (by rw [plain]; rfl))
        (fun descriptor member _ => conductOf_adds _
          (sampled_of_labels [] (List.mem_append_left _ member) (metrics_labels descriptor member)
            plain)
          (valued_of_labels plain (by simp)))
        (fun _ => .inr rfl)
        fun causes => .inl ⟨causes, rfl⟩

/-- Asks for the resources and reads the rows up to the first with a fault. -/
def scripted {target : Target} (plain : target.Plain) :
    Scripted (conduct target) (collect target) :=
  .bind (.query rfl) fun reply => .forM reply.rows fun row _ => scriptedRow plain row

end Resource

namespace Routes

/-- Both metrics have the labels of a version, and one that of a protocol, too. -/
theorem metrics_labels : (∀ descriptor ∈ total.descriptors, descriptor.labels.length = 3) ∧
    ∀ descriptor ∈ ofProtocol.descriptors, descriptor.labels.length = 4 := by decide

/-- A count is not beyond the range of doubles. -/
theorem metrics_bounded : total.Bounded ∧ ofProtocol.Bounded :=
  ⟨numberValue_neverOverflows, numberValue_neverOverflows⟩

/-- The requests: counts of all routes or of those of a protocol, of IPv6 only where there is any. -/
def Asks (target : Target) (words : List String) : Prop :=
  ∃ topic filters, words = countRequest topic filters ∧
    (topic = "ip" ∨ topic = "ipv6" ∧ target.ipv6Disabled = false) ∧
    (filters = [] ∨ ∃ protocol ∈ protocols, filters = ["?" ++ protocol])

/-- A count that is no number. -/
def Fails (fault : Fault) : Prop := ∃ cause, fault = .value cause

/-- The requests of the collector of routes, its samples and its faults. -/
def conduct (target : Target) : Conduct :=
  conductOf collector.descriptors target (Asks target) Fails

/-- Counts the routes of one version. -/
def scriptedVersion {target : Target} (version : String) {topic : String}
    (asked : topic = "ip" ∨ topic = "ipv6" ∧ target.ipv6Disabled = false) :
    Scripted (conduct target) (collectVersion target version topic) :=
  .bind (.query ⟨topic, [], rfl, asked, .inl rfl⟩) fun reply =>
    .bind
      (.counted [some version] reply.done.attributes rfl metrics_labels.1 metrics_bounded.1
        (by simp) (fun _ member => List.mem_append_left _ member) conductOf_adds
        fun fault => ⟨fault, rfl⟩)
      -- One request for each protocol, up to the first count that is no number.
      fun _ => .forM protocols fun protocol member =>
        .bind (.query ⟨topic, _, rfl, asked, .inr ⟨protocol, member, rfl⟩⟩) fun reply =>
          .counted [some version, some protocol] reply.done.attributes rfl metrics_labels.2
            metrics_bounded.2 (by simp) (fun _ member => List.mem_append_right _ member)
            conductOf_adds fun fault => ⟨fault, rfl⟩

/-- Counts the routes of both versions, unless the device has no IPv6. -/
def scripted (target : Target) : Scripted (conduct target) (collect target) :=
  .bind (scriptedVersion "4" (.inl rfl)) fun _ =>
    if disabled : target.ipv6Disabled = true then
      (Scripted.pure ()).congr (by simp [disabled])
    else
      (scriptedVersion "6" (.inr ⟨rfl, by simpa using disabled⟩)).congr (by simp [disabled])

end Routes

namespace WirelessInterface

/-- All metrics have the labels of an interface. -/
theorem metrics_labels : ∀ descriptor ∈ metrics.flatMap Property.descriptors,
    descriptor.labels.length = 3 := by decide

theorem metrics_bounded : ∀ metric ∈ metrics, metric.Bounded := by
  simp [metrics, Metric.gauge, Property.Bounded, numberValue_neverOverflows]

/-- The requests: for the interfaces, and for the state of one of them, also of one without a name. -/
def Asks (words : List String) : Prop :=
  words = namesRequest ∨ ∃ name, words = stateRequest name

/-- A sample under the name of an interface, which may be missing, and under further texts. -/
def Named (target : Target) (name : Option String) (addition : Addition) : Prop :=
  ∃ values, addition.labels = some target.scope.device :: some target.scope.address :: name :: values ∧
    ∀ value ∈ values, value.isSome = true

/-- The requests of the collector, its samples and its faults. -/
def conduct (target : Target) : Conduct where
  asks := Asks
  adds addition := Sampled collector.descriptors target.scope addition ∧
    ∃ name, Named target name addition
  fails := IsGathered

/-- What is done with a row about one interface: it makes no request. -/
def rowConduct (target : Target) (name : Option String) : Conduct where
  asks _ := False
  adds addition := Sampled collector.descriptors target.scope addition ∧ Named target name addition
  fails fault := fault.isOfRow = true

/-- What is done with the row of one interface is allowed for each of them. -/
theorem rowConduct_within (target : Target) (name : Option String) :
    (rowConduct target name).Within (conduct target).ofRow :=
  ⟨fun _ impossible => impossible.elim, fun _ added => ⟨added.1, name, added.2⟩, fun _ => .inl⟩

/-- A sample under the name of an interface and further texts is one of the collector. -/
theorem rowConduct_adds {target : Target} {addition : Addition} {name : Option String}
    (values : List LabelValue) (described : addition.descriptor ∈ collector.descriptors)
    (counts : addition.descriptor.labels.length = values.length + 3)
    (labelled : addition.labels =
      some target.scope.device :: some target.scope.address :: name :: values)
    (valued : ∀ value ∈ values, value.isSome = true) : (rowConduct target name).adds addition :=
  ⟨sampled_of_labels (name :: values) described counts labelled, values, labelled, valued⟩

/-- Adds one sample under the name of an interface and one more text. -/
def scriptedSample {target : Target} {name : Option String} {descriptor : Descriptor}
    (value : Float) (text : String) (described : descriptor ∈ collector.descriptors)
    (counts : descriptor.labels.length = 4) :
    Scripted (rowConduct target name) (emitting (emit
      ⟨descriptor, value, (target.scope.withLabels [name]).labels ++ [some text]⟩)) :=
  .emitting (writes_emit counts.symm)
    (by
      rintro _ rfl
      exact rowConduct_adds [some text] described counts rfl (by simp))
    fun _ impossible => impossible.elim

/-- Adds the frequencies up to the first head that is no number. -/
def scriptedHeads (target : Target) (name : Option String) : (heads : List (Nat × String)) →
    Scripted (rowConduct target name)
      (collectHeads name (target.scope.withLabels [name]) heads)
  | [] => .pure ()
  | (_, head) :: heads =>
      -- An empty head is passed over, and one that is no number ends the row.
      .ite (scriptedHeads target name heads)
        (match numberValue head with
        | .error _ => .throw rfl
        | .ok value => .bind (scriptedSample value _ (by simp [collector]) rfl)
            fun _ => scriptedHeads target name heads)

/-- What is done with the rows about the state of an interface: the first one is read. -/
def readState (target : Target) (name : Option String) : List Wire.Sentence → Collecting Unit
  | [] => pure ()
  | row :: _ => do
      let scope := target.scope.withLabels [name]
      collectMetrics metrics row.attributes scope
      let channel := row.get "channel"
      emitting (emit ⟨channelDescriptor, 1.0, scope.labels ++ [some channel]⟩)
      collectHeads name scope (channelHeads channel)

/-- Reads the metrics of one interface in a row. -/
def scriptedMetrics (target : Target) (name : Option String) (row : Wire.Sentence) :
    Scripted (rowConduct target name)
      (collectMetrics metrics row.attributes (target.scope.withLabels [name])) :=
  .collectMetrics row.attributes (fits_of_length metrics_labels rfl)
    (fun descriptor member _ => rowConduct_adds []
      (by simp only [collector]; exact List.mem_cons_of_mem _ (List.mem_append_left _ member))
      (metrics_labels descriptor member) rfl (by simp))
    (fun unbounded => absurd metrics_bounded unbounded)
    fun _ => rfl

/-- Reads the metrics of the first row, and then its channel. -/
def scriptedState (target : Target) (name : Option String) : (rows : List Wire.Sentence) →
    Scripted (rowConduct target name) (readState target name rows)
  | [] => .pure ()
  | row :: _ =>
      -- Faults of the metrics end the row before its channel is told.
      .bind (scriptedMetrics target name row) fun _ =>
        .bind (scriptedSample 1.0 _ (by simp [collector]) rfl) fun _ => scriptedHeads target name _

/-- Asks for the state of one interface and reads the first row. -/
def scriptedInterface (target : Target) (name : Option String) :
    Scripted (conduct target).ofRow (collectInterface target name) :=
  .bind (.query (.inr ⟨name, rfl⟩)) fun reply =>
    (scriptedState target name reply.rows).mono (rowConduct_within target name)

/-- Asks for the interfaces, and for the state of every one that is not managed from elsewhere. -/
def scripted (target : Target) : Scripted (conduct target) (collect target) :=
  .bind (.query (.inl rfl)) fun _ =>
    .collectEach _ isGathered_heading fun name => scriptedInterface target name

end WirelessInterface

end RouterMetrics.Collector
