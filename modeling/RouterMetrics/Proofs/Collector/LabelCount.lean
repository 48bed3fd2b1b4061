import RouterMetrics.Proofs.Collector.Routine

/-!
Label counts: no collector comes up with a sample that has more or fewer values than labels.

A sink rejects such a sample, and the collector would end with this rejection, or with gathered
faults that have it among them.
-/

namespace RouterMetrics

open RouterMetrics.Metric

/-- From every state a step gives a result of one kind or fails with a fault of one kind. -/
def Ends {ε σ α : Type} (gives : α → Prop) (fails : ε → Prop) (step : EStateM ε σ α) : Prop :=
  ∀ state, match step state with
    | .ok result _ => gives result
    | .error fault _ => fails fault

namespace Ends

variable {ε σ α β : Type} {gives : α → Prop} {fails : ε → Prop}

/-- A result that is given at once. -/
theorem pure {result : α} (given : gives result) :
    Ends gives fails (pure result : EStateM ε σ α) := fun _ => given

/-- A fault that is allowed. -/
theorem throw {fault : ε} (allowed : fails fault) :
    Ends gives fails (throw fault : EStateM ε σ α) := fun _ => allowed

/-- Two steps in turn, the second with what the first has given. -/
theorem bind {step : EStateM ε σ α} {next : α → EStateM ε σ β} {later : β → Prop}
    (head : Ends gives fails step)
    (tail : ∀ result, gives result → Ends later fails (next result)) :
    Ends later fails (step >>= next) := by
  intro state
  have first := head state
  simp only [Bind.bind, EStateM.bind]
  -- The second step starts where the first has ended.
  cases ended : step state with
  | ok result after =>
    rw [ended] at first
    exact tail result first after
  | error fault after =>
    rw [ended] at first
    exact first

end Ends

namespace Collector

/-- The fault is a rejected sample with more or fewer values than labels, or has one among its
causes. -/
inductive Fault.Miscounts : Fault → Prop
  | told {fault : ValueFault} (miscounts : fault.Miscounts) : Miscounts (.value fault)
  | gathered {heading : String} {causes : List Fault} {cause : Fault} (inside : cause ∈ causes)
      (miscounts : cause.Miscounts) : Miscounts (.gathered heading causes)

/-- Faults are about labels only if one of them is. -/
theorem Fault.gathered_counted {heading : String} {causes : List Fault}
    (counted : ∀ cause ∈ causes, ¬ cause.Miscounts) : ¬ (Fault.gathered heading causes).Miscounts
  -- Gathered faults are about labels only by one of their causes.
  | .gathered inside miscounts => counted _ inside miscounts

/-- The fault of a conversion is about labels only if the conversion's own fault is. -/
theorem Fault.ofConversion_counted {fault : ConversionFault} (counted : ¬ fault.Miscounts) :
    ¬ (Fault.ofConversion fault).Miscounts := by
  -- Of the faults of a conversion only a rejected value can be about labels.
  rintro miscounts
  cases fault with
  | rejected fault =>
    cases miscounts with
    | told miscounts => exact counted miscounts
  | overflow => cases miscounts

/-- A step of a collector never comes up with a sample that has more or fewer values than labels. -/
def Counts {α : Type} (step : Collecting α) : Prop :=
  Ends (fun _ => True) (fun fault => ¬ fault.Miscounts) step

namespace Counts

variable {α β ι : Type}

/-- A result that is given at once. -/
theorem pure (result : α) : Counts (pure result : Collecting α) := Ends.pure trivial

/-- Two steps in turn. -/
theorem bind {step : Collecting α} {next : α → Collecting β} (head : Counts step)
    (tail : ∀ result, Counts (next result)) : Counts (step >>= next) :=
  -- The first step may give anything, as the second one counts in any case.
  Ends.bind head fun result _ => tail result

/-- One of two steps. -/
theorem ite {condition : Prop} [Decidable condition] {step other : Collecting α}
    (first : Counts step) (second : Counts other) : Counts (if condition then step else other) := by
  -- Only one of the two is taken.
  split
  · exact first
  · exact second

/-- A step for every item, up to the first that fails. -/
theorem forM {step : ι → Collecting Unit} {items : List ι}
    (each : ∀ item ∈ items, Counts (step item)) : Counts (items.forM step) := by
  -- The induction is on the items: each step is one in turn before the later ones.
  induction items with
  | nil => exact .pure ()
  | cons item items ih =>
    exact .bind (each item List.mem_cons_self)
      fun _ => ih fun other member => each other (List.mem_cons_of_mem item member)

/-- A request has faults of the session only. -/
theorem query (words : List String) : Counts (query words) := by
  -- A fault of the session is never about labels, whatever the reply is.
  intro scrape
  unfold Collector.query
  cases Session.run words scrape.line with
  | ok reply line => trivial
  | error fault line => exact nofun

/-- A step that only writes is about labels only if one of its faults is. -/
theorem emitting {step : Emitting α} {adds : Addition → Prop} {fails : ConversionFault → Prop}
    (writes : Writes adds fails step) (counted : ∀ fault, fails fault → ¬ fault.Miscounts) :
    Counts (emitting step) := by
  -- What the step writes on an empty ledger is what it writes behind any other.
  intro scrape
  simp only [Collector.emitting, writes.appends scrape.ledger]
  cases ended : step .empty with
  | ok result more => trivial
  | error fault more =>
    exact Fault.ofConversion_counted (counted fault (writes.fails fault more ended))

/-- A sample with a value for each label. -/
theorem sample {addition : Addition}
    (complete : addition.labels.length = addition.descriptor.labels.length) :
    Counts (Collector.emitting (emit addition)) :=
  -- A sample with all its values is never refused.
  .emitting (writes_emit complete) fun _ impossible => impossible.elim

/-- One metric of a row that has a value for each of its labels. -/
theorem metric {metric : Property} {scope : Scope} (attributes : Wire.Attributes)
    (fits : metric.Fits scope.labels) :
    Counts (Collector.emitting (metric.collect attributes scope)) :=
  -- The faults of one metric are refused values, and these are not about labels.
  .emitting (Property.writes_collect attributes fits) fun _ refused => refused.counted

end Counts

/-- The metrics of a row with a value for each of their labels are not rejected for the labels. -/
theorem collectRow_counted {metrics : List Property} {scope : Scope} (attributes : Wire.Attributes)
    (fits : ∀ metric ∈ metrics, metric.Fits scope.labels) :
    Ends (fun faults => ∀ fault ∈ faults, ¬ fault.Miscounts)
      (fun fault => ¬ fault.Miscounts) (collectRow metrics attributes scope) := by
  induction metrics with
  | nil => exact Ends.pure fun _ member => absurd member List.not_mem_nil
  | cons metric others ih =>
    have writes := Property.writes_collect attributes (fits metric List.mem_cons_self)
    have tail := ih fun other member => fits other (List.mem_cons_of_mem metric member)
    intro ledger
    simp only [collectRow, writes.appends ledger]
    -- The first metric has its samples, is rejected for its value, or goes beyond the range.
    cases ended : metric.collect attributes scope .empty with
    | ok result more => exact tail (ledger.followedBy more)
    | error fault more =>
      have refused := (writes.fails fault more ended).counted
      cases fault with
      | overflow => exact refused
      | rejected fault =>
        have rest := tail (ledger.followedBy more)
        dsimp only [behind]
        cases later : collectRow others attributes scope (ledger.followedBy more) with
        | ok faults after =>
          rw [later] at rest
          exact List.forall_mem_cons.mpr ⟨refused, rest⟩
        | error fault after =>
          rw [later] at rest
          exact rest

/-- The gathered faults of steps are not about labels where those of the steps are not. -/
theorem gather_counted {ι : Type} {step : ι → Collecting Unit} {items : List ι}
    (each : ∀ item ∈ items, Counts (step item)) :
    Ends (fun faults => ∀ fault ∈ faults, ¬ fault.Miscounts) (fun fault => ¬ fault.Miscounts)
      (gather Fault.isOfRow step items) := by
  induction items with
  | nil => exact Ends.pure fun _ member => absurd member List.not_mem_nil
  | cons item items ih =>
    have tail := ih fun other member => each other (List.mem_cons_of_mem item member)
    intro scrape
    have first := each item List.mem_cons_self scrape
    simp only [gather]
    -- A fault of one row goes to those of the rows after it, and any other ends the whole.
    cases ended : step item scrape with
    | ok result after => exact tail after
    | error fault after =>
      rw [ended] at first
      have rest := tail after
      cases ofRow : fault.isOfRow with
      | false => simpa only [ofRow, Bool.false_eq_true, if_false] using first
      | true =>
        simp only [ofRow, if_true]
        cases later : gather Fault.isOfRow step items after with
        | ok faults last =>
          rw [later] at rest
          exact List.forall_mem_cons.mpr ⟨first, rest⟩
        | error fault last =>
          rw [later] at rest
          exact rest

namespace Counts

/-- The samples of several metrics for one row. -/
theorem row {metrics : List Property} {scope : Scope} (attributes : Wire.Attributes)
    {count : Nat} (counts : ∀ descriptor ∈ metrics.flatMap Property.descriptors,
      descriptor.labels.length = count) (given : scope.labels.length = count) :
    Counts (collectMetrics metrics attributes scope) := by
  have written : Ends (fun faults => ∀ fault ∈ faults, ¬ ValueFault.Miscounts fault)
      (fun fault => ¬ fault.Miscounts)
      (Collector.emitting (Metric.collectRow metrics attributes scope)) := by
    intro scrape
    have row := collectRow_counted attributes (fits_of_length counts given) scrape.ledger
    unfold Collector.emitting
    cases ended : Metric.collectRow metrics attributes scope scrape.ledger with
    | ok faults after =>
      rw [ended] at row
      exact row
    | error fault after =>
      rw [ended] at row
      exact Fault.ofConversion_counted row
  refine Ends.bind written fun faults counted => ?_
  -- The rejections are gathered under one fault, each as the fault of a value.
  refine Counts.ite (.pure ()) (Ends.throw (Fault.gathered_counted ?_))
  intro cause member
  obtain ⟨fault, inside, rfl⟩ := List.mem_map.mp member
  rintro (miscounts | _)
  exact counted fault inside miscounts

/-- A step for every item, with the faults that cost one row only gathered. -/
theorem collectEach {ι : Type} {step : ι → Collecting Unit} {items : List ι}
    (each : ∀ item ∈ items, Counts (step item)) : Counts (collectEach items step) :=
  -- At the end there is either no fault, or one that has gathered those of the items.
  Ends.bind (gather_counted each) fun _ counted =>
    Counts.ite (.pure ()) (Ends.throw (Fault.gathered_counted counted))

end Counts

/-! The collectors, one by one: each gives as many values as its metrics have labels. -/

namespace Conntrack

theorem counts {target : Target} (plain : target.Plain) : Counts (collect target) :=
  -- The only row is read with the labels of a device, as the target has no more.
  .bind (.query _) fun reply =>
    match reply.rows with
    | [] => .pure ()
    | row :: _ => .row row.attributes metrics_labels (by rw [plain]; rfl)

end Conntrack

namespace Dhcp

theorem counts (target : Target) : Counts (collect target) :=
  -- The count of leases comes with the sentence that ends the reply.
  .bind (.query _) fun _ => .collectEach fun _ _ =>
    .bind (.query _) fun reply => .metric reply.done.attributes fun descriptor member =>
      (activeLeases_labels descriptor member).symm

end Dhcp

namespace DhcpLease

theorem counts (target : Target) : Counts (collect target) :=
  .bind (.query _) fun _ => .collectEach fun row _ => .row row.attributes metrics_labels rfl

end DhcpLease

namespace Firmware

theorem counts (target : Target) : Counts (collect target) :=
  .bind (.query _) fun _ => .collectEach fun row _ => .row row.attributes metrics_labels rfl

end Firmware

namespace Health

theorem counts {target : Target} (plain : target.Plain) : Counts (collect target) :=
  -- The sensors of both layouts are read with the labels of a device.
  .bind (.query _) fun _ => .collectEach fun row _ =>
    .row (sensors row.attributes) metrics_labels (by rw [plain]; rfl)

end Health

namespace Interface

theorem counts (target : Target) : Counts (collect target) :=
  -- Rows that are passed over add nothing.
  .bind (.query _) fun _ => .collectEach fun row _ =>
    .ite (.pure ()) (.row row.attributes metrics_labels rfl)

end Interface

namespace Monitor

theorem counts (target : Target) : Counts (collect target) :=
  -- Where there is nothing to ask about, the second request is not made.
  .bind (.query _) fun _ => .ite (.pure ()) <|
    .bind (.query _) fun _ => .collectEach fun row _ => .row row.attributes metrics_labels rfl

end Monitor

namespace Netwatch

theorem counts (target : Target) : Counts (collect target) :=
  .bind (.query _) fun _ => .collectEach fun row _ => .row row.attributes metrics_labels rfl

end Netwatch

namespace Optics

theorem counts (target : Target) : Counts (collect target) :=
  .bind (.query _) fun reply => .ite (.pure ()) <|
    -- An optical interface without a name ends the collector before it asks again.
    match (opticalNames reply.rows).mapM id with
    | none => Ends.throw nofun
    | some _ => .bind (.query _) fun _ => .collectEach fun row _ =>
        .row row.attributes metrics_labels rfl

end Optics

namespace Poe

theorem counts (target : Target) : Counts (collect target) :=
  -- Where there is nothing to ask about, the second request is not made.
  .bind (.query _) fun _ => .ite (.pure ()) <|
    .bind (.query _) fun _ => .collectEach fun row _ => .row row.attributes metrics_labels rfl

end Poe

namespace Pool

theorem counts (target : Target) : Counts (collect target) := by
  refine .bind (.bind (.query _) fun _ => .collectEach fun row _ =>
    .row row.attributes metrics_labels rfl) fun _ => ?_
  -- The prefixes of IPv6 are counted under the same labels as the pools of IPv4.
  have prefixes : Counts (collectIpv6 target) :=
    .bind (.query _) fun _ => .forM fun _ _ => Counts.sample rfl
  by_cases disabled : target.ipv6Disabled = true
  · simpa [disabled] using Counts.pure ()
  · simpa [disabled] using prefixes

end Pool

namespace Queue

theorem counts {target : Target} (plain : target.Plain) : Counts (collect target) := by
  -- Totals and queues are two items of one list.
  have totals : Counts (collectTotals target) :=
    .bind (.query _) fun reply =>
      match reply.rows with
      | [] => .pure ()
      | row :: _ => .row row.attributes totals_labels (by rw [plain]; rfl)
  have queues : Counts (collectQueues target) :=
    .bind (.query _) fun _ => .collectEach fun row _ => .row row.attributes metrics_labels rfl
  refine .collectEach fun part member => ?_
  simp only [List.mem_cons, List.not_mem_nil, or_false] at member
  rcases member with rfl | rfl
  · exact totals
  · exact queues

end Queue

namespace Resource

theorem counts {target : Target} (plain : target.Plain) : Counts (collect target) :=
  .bind (.query _) fun _ => .forM fun row _ =>
    -- The board and its version stand behind the two labels of the device.
    .bind (.sample (by rw [plain]; rfl)) fun _ =>
      .row row.attributes metrics_labels (by rw [plain]; rfl)

end Resource

namespace Routes

private theorem version_counts (target : Target) (version topic : String) :
    Counts (collectVersion target version topic) :=
  -- The count of all routes comes first, and one count for each protocol behind it.
  .bind (.query _) fun reply =>
    .bind (.metric reply.done.attributes fun descriptor member =>
      (metrics_labels.1 descriptor member).symm) fun _ =>
    .forM fun _ _ => .bind (.query _) fun reply =>
      .metric reply.done.attributes fun descriptor member =>
        (metrics_labels.2 descriptor member).symm

theorem counts (target : Target) : Counts (collect target) := by
  -- Of the second version there is nothing to count where it is switched off.
  refine .bind (version_counts target "4" "ip") fun _ => ?_
  by_cases disabled : target.ipv6Disabled = true
  · simpa [disabled] using Counts.pure ()
  · simpa [disabled] using version_counts target "6" "ipv6"

end Routes

namespace WirelessInterface

/-- A frequency has its position for its last label; a head that is no number is no sample. -/
theorem collectHeads_counts (target : Target) (name : Option String)
    (heads : List (Nat × String)) :
    Counts (collectHeads name (target.scope.withLabels [name]) heads) := by
  induction heads with
  | nil => exact .pure ()
  | cons head heads ih =>
    refine .ite ih ?_
    unfold numberValue
    split
    · rename_i fault refused
      refine Ends.throw (Fault.gathered_counted ?_)
      -- The cause is the text that is no number.
      split at refused
      · cases refused
      · cases refused
        intro cause member
        obtain rfl := List.mem_singleton.mp member
        exact Fault.ofConversion_counted id
    · exact .bind (.sample rfl) fun _ => ih

theorem counts (target : Target) : Counts (collect target) :=
  -- A reply without rows adds nothing; else metrics, channel and heads follow each other.
  .bind (.query _) fun _ => .collectEach fun name _ => .bind (.query _) fun reply =>
    match reply.rows with
    | [] => .pure ()
    | row :: _ =>
        .bind (.row row.attributes metrics_labels rfl) fun _ =>
          .bind (.sample rfl) fun _ => collectHeads_counts target name _

end WirelessInterface

namespace WirelessStation

theorem counts (target : Target) : Counts (collect target) :=
  .bind (.query _) fun _ => .collectEach fun row _ => .row row.attributes metrics_labels rfl

end WirelessStation

/-- No registered collector comes up with a sample that has more or fewer values than labels. -/
theorem collect_counts {collector : Collector} (registered : collector ∈ all)
    (device : Config.Device) (name : String) :
    Counts (collector.collect (.ofDevice device name)) := by
  have plain := Target.plain_ofDevice device name
  -- The members of the registry are gone through in its order.
  have each : ∀ collector ∈ all, Counts (collector.collect (.ofDevice device name)) := by
    simp only [all, List.forall_mem_cons]
    exact ⟨Resource.counts plain, Interface.counts _, Health.counts plain, DhcpLease.counts _,
      Pool.counts _, Conntrack.counts plain, Netwatch.counts _, Firmware.counts _,
      WirelessStation.counts _, Dhcp.counts _, Routes.counts _, Queue.counts plain,
      Monitor.counts _, WirelessInterface.counts _, Optics.counts _, Poe.counts _, nofun⟩
  exact each collector registered

end Collector

end RouterMetrics
