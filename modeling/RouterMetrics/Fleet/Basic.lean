import RouterMetrics.Collector.Registry
import RouterMetrics.Config.Basic
import RouterMetrics.Fleet.Visit

/-! The fleet: all configured devices, scraped one after another into one sink. -/

namespace RouterMetrics

open RouterMetrics.Metric (Addition Descriptor Ledger Sink)
open RouterMetrics.Session (Network)

/-- All devices. -/
structure Fleet where
  members : List Fleet.Member

namespace Fleet

/-- Why no fleet can be made of a configuration. -/
inductive Fault where
  | config (fault : Config.Fault)
  | unknownCollector (name : String)
deriving Repr, DecidableEq

/-- The wording of a fault. -/
def Fault.message : Fault → String
  | config fault => fault.message
  | unknownCollector name => "unknown collector: " ++ name

/-- The collector under a name. -/
def assignmentOf (name : String) : Except Fault Assignment :=
  match Collector.find? name with
  | some collector => .ok ⟨name, collector⟩
  | none => .error (.unknownCollector name)

/-- A device of a configuration with its collectors. -/
def memberOf (config : Config) (device : Config.Device) : Except Fault Member := do
  let names := do (config.featuresOf device.name) >>= fun features => Config.shaped features.names
  let assignments ← (← names.mapError Fault.config).mapM assignmentOf
  return .ofDevice device assignments

/-- The fleet of a configuration. -/
def ofConfig (config : Config) : Except Fault Fleet :=
  (config.devices.mapM (memberOf config)).map Fleet.mk

/-- What the entries about the fleet come from. -/
def fleetSource : String := "MikrotikCollector"

/-- The entry about a device that joins the fleet. -/
def Member.entry (member : Member) : Entry :=
  let names := ", ".intercalate (member.assignments.map Assignment.name)
  ⟨.info, fleetSource,
    s!"Device {member.device.name} ({member.device.address}): collectors {names}", none⟩

/-- The entries about the devices of the fleet. -/
def entries (fleet : Fleet) : List Entry := fleet.members.map Member.entry

/-- How long the scrape of a device took. -/
def durationDescriptor : Descriptor :=
  Metric.describe "scrape" "device_duration_seconds"
    "mikrotik_exporter: duration of a device scrape" ["device"]

/-- Whether the scrape of a device went without errors. -/
def successDescriptor : Descriptor :=
  Metric.describe "scrape" "device_success" "mikrotik_exporter: whether a device scrape succeeded"
    ["device"]

/-- How many errors the scrapes of a device had so far. -/
def errorsDescriptor : Descriptor :=
  Metric.describe "scrape" "device_errors" "mikrotik_exporter: number of failed device scrapes"
    ["dev_name", "dev_address"] .counter

/-- The descriptors of the samples about scrapes. -/
def scrapeDescriptors : List Descriptor :=
  [durationDescriptor, successDescriptor, errorsDescriptor]

/-- The descriptors with different names, the first of each name. -/
def distinct (descriptors : List Descriptor) : List Descriptor :=
  descriptors.foldl
    (fun kept d => if kept.any fun other => other.name == d.name then kept else kept ++ [d]) []

/-- The samples about the scrape of a device. -/
def scrapeAdditions (seconds : Float) (outcome : Outcome) (member : Member) : List Addition :=
  let name := member.device.name
  [⟨durationDescriptor, seconds, [name]⟩,
    ⟨successDescriptor, if outcome.isSuccess then 1.0 else 0.0, [name]⟩,
    ⟨errorsDescriptor, Decimal.nearestDouble false member.errors 1, [name, member.device.address]⟩]

/-- What a scrape of the fleet leaves behind. -/
structure Round where
  members : List Member
  network : Network
  additions : List Addition
  entries : List Entry

/-- The scrape of one device after those before it. -/
def Round.visit (seconds : Float) (round : Round) (member : Member) : Round :=
  let (outcome, visit) := scrape ⟨member, round.network, .empty, []⟩
  { members := round.members ++ [visit.member]
    network := visit.network
    additions :=
      round.additions ++ visit.ledger.additions ++ scrapeAdditions seconds outcome visit.member
    entries := round.entries ++ visit.notices.map (Notice.entry visit.member) }

/-- The scrape of all devices, each of which takes some seconds. -/
def collect (seconds : Float) (network : Network) (fleet : Fleet) : Round :=
  fleet.members.foldl (Round.visit seconds) ⟨[], network, [], []⟩

/-- The fleet after a round. -/
def Round.fleet (round : Round) : Fleet := ⟨round.members⟩

/-- The samples of a round by their families. -/
def Round.sink (round : Round) : Sink := Sink.empty.insertAll round.additions

/-- The descriptors of all samples that the fleet can give. -/
def descriptors (fleet : Fleet) : List Descriptor :=
  let ofMember := fun (member : Member) =>
    member.assignments.flatMap fun assignment => assignment.collector.descriptors
  distinct (scrapeDescriptors ++ fleet.members.flatMap ofMember)

/-- Closes what is kept of the devices. -/
def close (network : Network) (fleet : Fleet) : Fleet × Network :=
  fleet.members.foldl
    (fun (fleet, network) member =>
      let visit := (Visit.mk member network .empty []).drop
      (⟨fleet.members ++ [visit.member]⟩, visit.network))
    (⟨[]⟩, network)

end Fleet

end RouterMetrics
