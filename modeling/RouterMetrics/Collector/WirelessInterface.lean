import RouterMetrics.Collector.Basic
import RouterMetrics.Decimal.Notation
import RouterMetrics.Text.Split

/-! Clients, noise, quality and channel of wireless interfaces. -/

namespace RouterMetrics.Collector

open RouterMetrics.Metric

namespace WirelessInterface

/-- The labels of an interface. -/
def labels : List String := deviceLabels ++ ["interface"]

/-- The metrics of an interface. -/
def metrics : List Property :=
  [gauge "wlan_interface" "registered-clients" labels,
    gauge "wlan_interface" "noise-floor" labels,
    gauge "wlan_interface" "overall-tx-ccq" labels]

/-- The frequency of one part of a channel. -/
def frequencyDescriptor : Descriptor :=
  describe "wlan_interface" "frequency" "WiFi frequency" (labels ++ ["freqidx"])

/-- The channel as a whole. -/
def channelDescriptor : Descriptor :=
  describe "wlan_interface" "channel" "WiFi channel" (labels ++ ["channel"])

/-- Asks for the interfaces. -/
def namesRequest : List String :=
  ["/interface/wireless/print", propertyList ["name", "disabled", "frequency"]]

/-- The text of a name in a request; a missing name has one too. -/
def nameText (name : Option String) : String := name.getD "None"

/-- Asks for the state of one interface. -/
def stateRequest (name : Option String) : List String :=
  ["/interface/wireless/monitor", "=numbers=" ++ nameText name, "=once=",
    propertyList ["registered-clients", "noise-floor", "overall-tx-ccq", "channel"]]

/-- Whether an interface is managed from elsewhere: disabled, but without a frequency. -/
def isManaged (row : Wire.Sentence) : Bool :=
  row.get? "disabled" == some "true" && (row.get "frequency").isEmpty

/-- The head of each part of a channel, up to the first slash, with the part's position. -/
def channelHeads (channel : String) : List (Nat × String) :=
  ((Text.partsAt '+' channel.toList).zipIdx 1).map fun (part, position) =>
    (position, String.ofList (part.takeWhile (· != '/')))

/-- Adds the frequencies of a channel up to the first head that is no number. -/
def collectHeads (name : Option String) (scope : Scope) : List (Nat × String) → Collecting Unit
  | [] => pure ()
  | (position, head) :: heads =>
      if head.isEmpty then collectHeads name scope heads
      else
        match numberValue head with
        | .error fault =>
            throw (.gathered ("collect channel for " ++ nameText name) [.ofConversion fault])
        | .ok frequency => do
            let place := String.ofList (Decimal.naturalText position)
            emitting (emit ⟨frequencyDescriptor, frequency, scope.labels ++ [some place]⟩)
            collectHeads name scope heads

/-- Reads the state of one interface. -/
def collectInterface (target : Target) (name : Option String) : Collecting Unit := do
  let reply ← query (stateRequest name)
  match reply.rows with
  | [] => return ()
  | row :: _ =>
      let scope := target.scope.withLabels [name]
      collectMetrics metrics row.attributes scope
      let channel := row.get "channel"
      emitting (emit ⟨channelDescriptor, 1.0, scope.labels ++ [some channel]⟩)
      collectHeads name scope (channelHeads channel)

/-- Reads the state of every interface that is not managed from elsewhere. -/
def collect (target : Target) : Collecting Unit := do
  let reply ← query namesRequest
  let names := (reply.rows.filter fun row => !isManaged row).map fun row => row.get? "name"
  collectEach names (collectInterface target)

/-- Wireless interfaces. -/
def collector : Collector where
  name := "wlanif"
  summary := "wireless interface clients, noise and channel"
  descriptors :=
    frequencyDescriptor :: metrics.flatMap Property.descriptors ++ [channelDescriptor]
  collect := collect

end WirelessInterface

end RouterMetrics.Collector
