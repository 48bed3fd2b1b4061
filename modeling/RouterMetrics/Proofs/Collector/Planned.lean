import RouterMetrics.Proofs.Collector.Plan
import RouterMetrics.Proofs.Collector.SeveralRequests
import RouterMetrics.Proofs.Collector.SingleRequest

/-!
The plans of the registered collectors.

Main statements: most collectors go to the end of their plans in any case, and the others do as long as
nothing is wrong.
-/

namespace RouterMetrics.Collector

open RouterMetrics.Metric
open RouterMetrics.Session (Reply)

/-- Gathered faults cost one row only. -/
theorem IsGathered.isOfRow {fault : Fault} (gathered : IsGathered fault) : fault.isOfRow = true := by
  obtain ⟨causes, rfl⟩ := gathered
  rfl

section Rows

variable {metrics : List Property} {ι : Type}

/-- Metrics that never go beyond the range are given what a row has for them. -/
theorem Gives.bounded (within : ∀ metric ∈ metrics, metric.Bounded) (attributes : Wire.Attributes)
    (scope : Scope) :
    Gives IsGathered (collectMetrics metrics attributes scope)
      (.ofRow metrics attributes scope.labels) :=
  .row fun metric member => Property.fault?_ne_overflow (within metric member)

/-- A loop over rows that gathers their faults comes to the share of every row. -/
theorem Fulfils.rows {perform : ι → Collecting Unit} {shareOf : ι → Share} {rows : List ι}
    (each : ∀ row, Gives IsGathered (perform row) (shareOf row)) :
    Fulfils IsGathered (Collector.collectEach rows perform) (.shares rows shareOf) :=
  .collectEach fun row _ => ((each row).mono fun _ => IsGathered.isOfRow).fulfils

variable {request : List String} {attributesOf : Wire.Sentence → Wire.Attributes}
  {scopeOf : Wire.Sentence → Scope} {scope : Scope}

/-- Asks once; every row that is read gives what it has. -/
def Plan.ofRows (request : List String) (rowsOf : Reply → List Wire.Sentence)
    (metrics : List Property) (attributesOf : Wire.Sentence → Wire.Attributes)
    (scopeOf : Wire.Sentence → Scope) : Plan :=
  .ask request fun reply => .shares (rowsOf reply) fun row =>
    .ofRow metrics (attributesOf row) (scopeOf row).labels

/-- Every row is read in any case. -/
theorem Fulfils.ofRows {rowsOf : Reply → List Wire.Sentence}
    (within : ∀ metric ∈ metrics, metric.Bounded) :
    Fulfils IsGathered
      (query request >>= fun reply => Collector.collectEach (rowsOf reply) fun row =>
        collectMetrics metrics (attributesOf row) (scopeOf row))
      (.ofRows request rowsOf metrics attributesOf scopeOf) :=
  .ask fun _ => .rows fun row => .bounded within (attributesOf row) (scopeOf row)

/-- Asks once; the first row gives what it has. -/
def Plan.ofFirstRow (request : List String) (metrics : List Property) (scope : Scope) : Plan :=
  .ask request fun reply =>
    match reply.rows with
    | [] => .done
    | row :: _ => .share (.ofRow metrics row.attributes scope.labels) .done

/-- The first row is read in any case. -/
theorem Fulfils.ofFirstRow (within : ∀ metric ∈ metrics, metric.Bounded) :
    Fulfils IsGathered
      (query request >>= fun reply =>
        match reply.rows with
        | [] => Pure.pure ()
        | row :: _ => collectMetrics metrics row.attributes scope)
      (.ofFirstRow request metrics scope) :=
  .ask fun reply =>
    match reply.rows with
    | [] => .pure
    | row :: _ => (Gives.bounded within row.attributes scope).fulfils

end Rows

namespace Conntrack

/-- Asks for the table; the first row gives what it has. -/
def plan (target : Target) : Plan := .ofFirstRow request metrics target.scope

/-- The first row of the table is read in any case. -/
theorem fulfils (target : Target) : Fulfils IsGathered (collect target) (plan target) :=
  .ofFirstRow metrics_bounded

end Conntrack

namespace DhcpLease

/-- Asks for the leases; every row gives what it has. -/
def plan (target : Target) : Plan :=
  .ofRows request (·.rows) metrics (·.attributes) (leaseScope target.scope)

theorem fulfils (target : Target) : Fulfils IsGathered (collect target) (plan target) :=
  .ofRows metrics_bounded

end DhcpLease

namespace Firmware

/-- Asks for the packages; every row gives what it has. -/
def plan (target : Target) : Plan :=
  .ofRows request (·.rows) metrics (·.attributes) (packageScope target.scope)

theorem fulfils (target : Target) : Fulfils IsGathered (collect target) (plan target) :=
  .ofRows metrics_bounded

end Firmware

namespace Health

/-- Asks for the sensors; every row gives what its sensors have. -/
def plan (target : Target) : Plan :=
  .ofRows request (·.rows) metrics (fun row => sensors row.attributes) fun _ => target.scope

theorem fulfils (target : Target) : Fulfils IsGathered (collect target) (plan target) :=
  .ofRows metrics_bounded

end Health

namespace Interface

/-- What the row of an interface gives; the loopback gives nothing. -/
def shareOf (target : Target) (row : Wire.Sentence) : Share :=
  if row.get? "name" == some "lo" then .nothing
  else
    .ofRow metrics row.attributes
      (target.scope.withLabelsFrom row.attributes ["name", "type", "comment", "slave"]).labels

/-- Asks for the interfaces; every row but that of the loopback gives what it has. -/
def plan (target : Target) : Plan :=
  .ask request fun reply => .shares reply.rows (shareOf target)

/-- Every interface is read in any case. -/
theorem fulfils (target : Target) : Fulfils IsGathered (collect target) (plan target) :=
  .ask fun _ => .rows fun row => by
    unfold shareOf
    -- The loopback is passed over.
    split
    · exact .pure
    · exact .bounded metrics_bounded row.attributes _

end Interface

namespace Netwatch

/-- Asks for the hosts; every row gives what it has. -/
def plan (target : Target) : Plan :=
  .ofRows request (·.rows) metrics (·.attributes) fun row =>
    target.scope.withLabelsFrom row.attributes ["host", "comment"]

theorem fulfils (target : Target) : Fulfils IsGathered (collect target) (plan target) :=
  .ofRows metrics_bounded

end Netwatch

namespace WirelessStation

/-- Asks for the stations; every row gives what it has. -/
def plan (target : Target) : Plan :=
  .ofRows request (·.rows) metrics (·.attributes) fun row =>
    target.scope.withLabelsFrom row.attributes ["interface", "mac-address"]

theorem fulfils (target : Target) : Fulfils IsGathered (collect target) (plan target) :=
  -- Without names nothing is asked for, and nothing is planned.
  .ofRows metrics_bounded

end WirelessStation

namespace Dhcp

/-- What the leases of a server come to. -/
def shareOf (target : Target) (server : String) (reply : Reply) : Share :=
  .ofRow [activeLeases] reply.done.attributes (target.scope.withLabels [some server]).labels

/-- Asks for the servers, and for the leases of each with a name. -/
def plan (target : Target) : Plan :=
  .ask serversRequest fun reply => .all ((presentNames reply.rows).map fun server =>
    .ask (leasesRequest server) fun reply => .share (shareOf target server reply) .done)

/-- The leases of every server are asked for in any case. -/
theorem fulfils (target : Target) : Fulfils IsGathered (collect target) (plan target) :=
  -- A count that is no number costs its server only, as each is asked for in a step of its own.
  .ask fun _ => .collectEach fun _ _ => .ask fun _ => Gives.fulfils <|
    .metric (fun _ => rfl) (Property.fault?_ne_overflow activeLeases_bounded)

end Dhcp

namespace Monitor

/-- Asks for the interfaces, and for the links of those with a name; every link gives what it has. -/
def plan (target : Target) : Plan :=
  .ask namesRequest fun reply =>
    if (presentNames reply.rows).isEmpty then .done
    else .ofRows (linksRequest (presentNames reply.rows)) (·.rows) metrics (·.attributes) fun row =>
      target.scope.withLabels [some (row.get "name")]

/-- Every link is read in any case. -/
theorem fulfils (target : Target) : Fulfils IsGathered (collect target) (plan target) :=
  .ask fun _ => .ite .pure (.ofRows metrics_bounded)

end Monitor

namespace Poe

/-- Asks for the ports, and for the output of those with a name; every port gives what it has. -/
def plan (target : Target) : Plan :=
  .ask namesRequest fun reply =>
    if (presentNames reply.rows).isEmpty then .done
    else .ofRows (outputRequest (presentNames reply.rows))
      (fun reply => reply.rows.filter fun row => row.attributes.contains "name") metrics
      (·.attributes) fun row => target.scope.withLabels [some (row.get "name")]

theorem fulfils (target : Target) : Fulfils IsGathered (collect target) (plan target) :=
  .ask fun _ => .ite .pure (.ofRows metrics_bounded)

end Poe

namespace Queue

/-- Asks for the totals; the first row gives what it has. -/
def totalsPlan (target : Target) : Plan := .ofFirstRow totalsRequest totals target.scope

/-- Asks for the simple queues; every row gives what it has. -/
def queuesPlan (target : Target) : Plan :=
  .ofRows queuesRequest (·.rows) metrics (·.attributes) fun row =>
    target.scope.withLabelsFrom row.attributes ["name", "queue", "comment"]

/-- Asks for the totals and for the simple queues. -/
def plan (target : Target) : Plan := .all [totalsPlan target, queuesPlan target]

/-- The totals and every simple queue are read in any case. -/
theorem fulfils (target : Target) : Fulfils IsGathered (collect target) (plan target) := by
  -- Each of the two parts is told with its own plan.
  have each : ∀ part ∈ [(collectTotals, totalsPlan), (collectQueues, queuesPlan)],
      Fulfils (fun fault => fault.isOfRow = true) (part.1 target) (part.2 target) := by
    simp only [List.forall_mem_cons, List.not_mem_nil, false_imp_iff, implies_true, and_true]
    have ofTotals : Fulfils IsGathered (collectTotals target) (totalsPlan target) :=
      .ofFirstRow totals_bounded
    have ofQueues : Fulfils IsGathered (collectQueues target) (queuesPlan target) :=
      .ofRows metrics_bounded
    exact ⟨ofTotals.mono fun _ => IsGathered.isOfRow, ofQueues.mono fun _ => IsGathered.isOfRow⟩
  exact .collectEach each

end Queue

namespace WirelessInterface

variable (target : Target) (name : Option String)

/-- The frequencies of a channel up to the first head that is no number. -/
def headsShare (labels : List LabelValue) : List (Nat × String) → Share
  | [] => .nothing
  | (position, head) :: heads =>
      if head.isEmpty then headsShare labels heads
      else
        match numberValue head with
        | .error fault => ⟨[], [fault]⟩
        | .ok frequency =>
            let place := String.ofList (Decimal.naturalText position)
            (Share.ofSample ⟨frequencyDescriptor, frequency, labels ++ [some place]⟩).andThen
              (headsShare labels heads)

/-- What the state of an interface gives: its metrics, its channel, and the frequencies there. -/
def shareOf (row : Wire.Sentence) : Share :=
  let labels := (target.scope.withLabels [name]).labels
  let channel := row.get "channel"
  (Share.ofRow metrics row.attributes labels).andThen
    ((Share.ofSample ⟨channelDescriptor, 1.0, labels ++ [some channel]⟩).andThen
      (headsShare labels (channelHeads channel)))

/-- Asks for the state of an interface; the first row gives what it has. -/
def statePlan : Plan :=
  .ask (stateRequest name) fun reply =>
    match reply.rows with
    | [] => .done
    | row :: _ => .share (shareOf target name row) .done

/-- Asks for the interfaces, and for the state of each that is not managed from elsewhere. -/
def plan : Plan :=
  .ask namesRequest fun reply =>
    .all (((reply.rows.filter fun row => !isManaged row).map fun row => row.get? "name").map
      (statePlan target))

private theorem gives_heads (scope : Scope) (heads : List (Nat × String)) :
    Gives (fun fault => fault.isOfRow = true) (collectHeads name scope heads)
      (headsShare scope.labels heads) := by
  -- The heads are gone through up to the first one that is no number.
  induction heads with
  | nil => exact .pure
  | cons head heads ih =>
    obtain ⟨position, head⟩ := head
    unfold collectHeads headsShare
    split
    · exact ih
    · cases numberValue head with
      | error fault =>
        refine fun scrape => ⟨scrape.ledger.oddities, nofun, fun _ =>
          ⟨.gathered ("collect channel for " ++ nameText name) [.ofConversion fault], rfl, ?_⟩⟩
        simp only [Scrape.gaining, List.append_nil]
        rfl
      | ok frequency => exact Gives.bind (.sample fun _ _ => rfl) ih

private theorem gives_state (row : Wire.Sentence) (rows : List Wire.Sentence) :
    Gives (fun fault => fault.isOfRow = true) (readState target name (row :: rows))
      (shareOf target name row) :=
  -- The metrics of the row come first, then the channel, then its parts.
  .bind ((Gives.bounded metrics_bounded _ _).mono fun _ => IsGathered.isOfRow)
    (.bind (.sample fun _ _ => rfl) (gives_heads name _ _))

/-- The state of every interface is asked for in any case. -/
theorem fulfils : Fulfils IsGathered (collect target) (plan target) :=
  .ask fun _ => .collectEach fun name _ => .ask fun reply =>
    -- An interface without rows is left without a share.
    match reply.rows with
    | [] => .pure
    | row :: rows => (gives_state target name row rows).fulfils

end WirelessInterface

namespace Pool

/-- Asks for the IPv4 pools; every row gives what it has. -/
def ipv4Plan (target : Target) : Plan :=
  .ofRows ipv4Request (·.rows) metrics (·.attributes) fun row =>
    target.scope.withLabels [some "v4", some (row.get "name")]

/-- Asks for the used IPv6 prefixes; every pool gives how many there are. -/
def ipv6Plan (target : Target) : Plan :=
  .ask ipv6Request fun reply =>
    .shares (tally (reply.rows.map fun row => row.get "pool")).entries fun (pool, used) =>
      .ofSample ⟨usedDescriptor, Decimal.nearestDouble false used 1,
        (target.scope.withLabels [some "v6", some pool]).labels⟩

/-- Asks for the pools of both versions, unless the device has no IPv6. -/
def plan (target : Target) : Plan :=
  if target.ipv6Disabled then ipv4Plan target else (ipv4Plan target).followedBy (ipv6Plan target)

/-- Every IPv4 pool is read in any case. -/
theorem fulfils_ipv4 (target : Target) :
    Fulfils IsGathered (collectIpv4 target) (ipv4Plan target) :=
  -- No metric of a pool goes beyond the range of doubles.
  .ofRows metrics_bounded

/-- Every IPv6 pool is counted. -/
theorem does_ipv6 (target : Target) : Does (collectIpv6 target) (ipv6Plan target) :=
  -- Every count is one sample, with the pool for its label.
  .ask fun _ => .forM fun (_, _) _ => .sample _

end Pool

namespace Routes

/-- Asks how many routes of a version there are, in all and by protocol. -/
def versionPlan (target : Target) (version topic : String) : Plan :=
  .ask (countRequest topic []) fun reply =>
    .share (.ofRow [total] reply.done.attributes (target.scope.withLabels [some version]).labels) <|
      .all <| protocols.map fun protocol => .ask (countRequest topic ["?" ++ protocol]) fun reply =>
        .share (.ofRow [ofProtocol] reply.done.attributes
          (target.scope.withLabels [some version, some protocol]).labels) .done

/-- Asks how many routes of both versions there are, unless the device has no IPv6. -/
def plan (target : Target) : Plan :=
  (versionPlan target "4" "ip").followedBy
    (if target.ipv6Disabled then .done else versionPlan target "6" "ipv6")

private theorem does_version (target : Target) (version topic : String) :
    Does (collectVersion target version topic) (versionPlan target version topic) :=
  -- The loop over the protocols is a plain one, so it is told for numbers only.
  .ask fun _ => (Does.metric (Property.fault?_ne_overflow metrics_bounded.1)).bind <|
    .forM fun _ _ => .ask fun _ => .metric (Property.fault?_ne_overflow metrics_bounded.2)

/-- As long as all counts are numbers, all of them are asked for. -/
theorem does (target : Target) : Does (collect target) (plan target) :=
  (does_version target "4" "ip").bind <| by
    -- Without IPv6 there is no second version.
    cases target.ipv6Disabled with
    | true => exact .pure
    | false => exact does_version target "6" "ipv6"

end Routes

namespace Resource

/-- The sample of the version in a row. -/
def version (target : Target) (row : Wire.Sentence) : Addition :=
  ⟨versionDescriptor, 1.0,
    target.scope.labels ++ [some (row.get "board-name"), some (row.get "version")]⟩

/-- What a row gives: its version, and what it has for the metrics. -/
def shareOf (target : Target) (row : Wire.Sentence) : Share :=
  (Share.ofSample (version target row)).andThen (.ofRow metrics row.attributes target.scope.labels)

/-- Asks for the resources; every row gives what it has. -/
def plan (target : Target) : Plan :=
  .ask request fun reply => .shares reply.rows (shareOf target)

end Resource

namespace Optics

/-- Asks for the modules of the named interfaces; every row with a name gives what it has. -/
def modulesPlan (target : Target) (names : List String) : Plan :=
  .ofRows (modulesRequest names)
    (fun reply => reply.rows.filter fun row => row.attributes.contains "name") metrics
    (·.attributes) fun row => target.scope.withLabels [some (row.get "name")]

/-- Asks for the interfaces, and for the modules of the optical ones with a name. -/
def plan (target : Target) : Plan :=
  .ask namesRequest fun reply =>
    let names := (opticalNames reply.rows).filterMap id
    if names.isEmpty then .done else modulesPlan target names

end Optics

end RouterMetrics.Collector
