import RouterMetrics.Journal
import RouterMetrics.Session.Dial

/-! Members of the fleet: devices, their collectors, and what is kept of them between scrapes. -/

namespace RouterMetrics.Fleet

open RouterMetrics.Config (Device)
open RouterMetrics.Session (Client Endpoint Security Seconds)

/-- A collector and the name under which it is enabled. -/
structure Assignment where
  name : String
  collector : Collector

/-- A device with its collectors; its client is kept between scrapes, and its errors are counted. -/
structure Member where
  device : Device
  port : Int
  assignments : List Assignment
  kept : Option Client
  errors : Nat

namespace Member

/-- A device that was never scraped. -/
def ofDevice (device : Device) (assignments : List Assignment) : Member :=
  ⟨device, device.portOrUsual, assignments, none, 0⟩

/-- Where the device listens. -/
def endpoint (member : Member) : Endpoint := ⟨member.device.address, member.port⟩

/-- How connections to the device are secured. -/
def security (member : Member) : Security :=
  if member.device.tls then .encrypted (!member.device.insecure) else .plain

/-- How long connecting to the device may take. -/
def timeout (member : Member) : Seconds := .whole member.device.timeout

end Member

/-- What a fault of a collector means for the scrape. -/
inductive Consequence where
  /-- Nothing more can be read on the connection. -/
  | connectionLost
  /-- The device has ended the session. -/
  | sessionEnded
  /-- The other collectors can go on. -/
  | collectorFailed
  /-- Nobody knows what it means. -/
  | unforeseen
deriving Repr, DecidableEq

/-- What a fault of a collector means for the scrape. -/
def consequence : Collector.Fault → Consequence
  | .session (.device trap _) => if Session.isFatal trap then .sessionEnded else .collectorFailed
  | .session fault =>
      if fault.breaksConnection then .connectionLost
      else if fault.isExpected then .collectorFailed
      else .unforeseen
  | .gathered _ _ => .collectorFailed
  | .value _ | .overflow | .missingName => .unforeseen

/-- What is worth telling about a scrape. -/
inductive Notice where
  /-- The kept connection answers without saying anything. -/
  | emptyIdentity
  /-- The kept connection does not answer. -/
  | stale (fault : Session.Fault)
  | connected
  | unreachable (fault : Session.Fault)
  | connectionLost (collector : String) (fault : Collector.Fault)
  | collectorFailed (collector : String) (fault : Collector.Fault)
  | unforeseen (fault : Collector.Fault)

/-- What the entries about scrapes come from. -/
def journalSource : String := "DeviceCollector"

/-- The journal's entry for a notice about a device. -/
def Notice.entry (member : Member) (notice : Notice) : Entry :=
  let report := fun severity message (cause : Option Collector.Fault) =>
    Entry.mk severity journalSource (s!"[{member.device.name}] " ++ message) cause
  match notice with
  | emptyIdentity => report .info "empty identity reply, reconnecting" none
  | stale fault => report .info s!"cached connection is stale ({fault.message}), reconnecting" none
  | connected => report .info s!"connected to {member.device.address}:{member.port}" none
  | unreachable fault =>
      report .error s!"connection to {member.device.address} failed: {fault.message}" none
  | connectionLost collector fault =>
      report .error s!"collector {collector}: connection lost: {fault.message}" none
  | collectorFailed collector fault =>
      report .error s!"collector {collector}: {fault.message}" none
  | unforeseen fault => report .error s!"unexpected scrape error: {fault.message}" (some fault)

end RouterMetrics.Fleet
