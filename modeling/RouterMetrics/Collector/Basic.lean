import RouterMetrics.Config.Device
import RouterMetrics.Metric.Property
import RouterMetrics.Session.Client

/-! Collectors: queries to a device whose replies become samples. -/

namespace RouterMetrics.Collector

open RouterMetrics.Metric
open RouterMetrics.Wire (Attributes Sentence)
open RouterMetrics.Session (Line Reply)

/-- Why a collector did not get all its samples. -/
inductive Fault where
  | session (fault : Session.Fault)
  | value (fault : ValueFault)
  /-- A number beyond the range of doubles. -/
  | overflow
  /-- A row without a name among names that are asked for together. -/
  | missingName
  /-- Faults of single rows, gathered under one heading. -/
  | gathered (heading : String) (causes : List Fault)

/-- The wording of a fault. -/
def Fault.message : Fault → String
  | session fault => fault.message
  | value fault => fault.message
  | overflow => "int too large to convert to float"
  | missingName => "a row without a name"
  | gathered heading [] => heading
  | gathered heading (cause :: causes) =>
      heading ++ ": " ++ "; ".intercalate (cause.message :: messages causes)
where
  /-- The wordings of several faults. -/
  messages : List Fault → List String
    | [] => []
    | cause :: causes => cause.message :: messages causes

/-- Whether a fault says that a value is not what it should be. -/
def Fault.isValueFault : Fault → Bool
  | .value _ => true
  -- A refused certificate is a network failure and a refused value at once.
  | .session (.wire (.network .certificate)) => true
  | .session (.unencodablePassword _) => true
  | .session (.badArgument fault) => fault.isOfValue
  | _ => false

/-- Whether a fault costs one row only, so that the rows after it are still looked at. -/
def Fault.isOfRow : Fault → Bool
  | .gathered _ _ => true
  | fault => fault.isValueFault

/-- A running collector: its line to the device, and what has come out so far. -/
structure Scrape where
  line : Line
  ledger : Ledger

/-- What a collector does; what it has done stays when it fails. -/
abbrev Collecting := EStateM Fault Scrape

/-- A device under a collector's scope. -/
structure Target where
  scope : Scope
  ipv6Disabled : Bool
deriving Repr, DecidableEq

/-- The target of a collector on a device. -/
def Target.ofDevice (device : Config.Device) (collector : String) : Target :=
  ⟨.ofDevice device.name device.address collector, device.ipv6Disabled⟩

/-- Sends a query and waits for its reply. -/
def query (words : List String) : Collecting Reply := fun scrape =>
  match Session.run words scrape.line with
  | .ok reply line => .ok reply { scrape with line }
  | .error fault line => .error (.session fault) { scrape with line }

/-- The fault of a conversion. -/
def Fault.ofConversion : ConversionFault → Fault
  | .rejected fault => .value fault
  | .overflow => .overflow

/-- A step that only adds to the ledger. -/
def emitting {α : Type} (step : Emitting α) : Collecting α := fun scrape =>
  match step scrape.ledger with
  | .ok result ledger => .ok result { scrape with ledger }
  | .error fault ledger => .error (.ofConversion fault) { scrape with ledger }

/-- What gathered faults stand under. -/
def heading : String := "collect error"

/-- Adds the samples of several metrics for one row, and fails at the end if one was rejected. -/
def collectMetrics (metrics : List Property) (attributes : Attributes) (scope : Scope) :
    Collecting Unit := do
  let faults ← emitting (collectRow metrics attributes scope)
  unless faults.isEmpty do throw (.gathered heading (faults.map Fault.value))

/-- Does a step for every item and gathers the faults that cost one row only. -/
def gather {α ε σ : Type} (isOfRow : ε → Bool) (step : α → EStateM ε σ Unit) :
    List α → EStateM ε σ (List ε)
  | [] => pure []
  | item :: items => fun state =>
      match step item state with
      | .ok () state => gather isOfRow step items state
      | .error fault state =>
          if isOfRow fault then
            match gather isOfRow step items state with
            | .ok faults state => .ok (fault :: faults) state
            | .error fault state => .error fault state
          else .error fault state

/-- Does a step for every item, and fails at the end if one of them failed. -/
def collectEach {α σ : Type} (items : List α) (step : α → EStateM Fault σ Unit) :
    EStateM Fault σ Unit := do
  let faults ← gather Fault.isOfRow step items
  unless faults.isEmpty do throw (.gathered heading faults)

/-- The list of attributes that a query asks for. -/
def propertyList (names : List String) : String :=
  "=.proplist=" ++ ",".intercalate names

/-- The names of the rows that have one. -/
def presentNames (rows : List Sentence) : List String :=
  rows.filterMap fun row => (row.get? "name").filter fun name => !name.isEmpty

end RouterMetrics.Collector

namespace RouterMetrics

/-- A collector under the name by which it is enabled. -/
structure Collector where
  name : String
  summary : String
  descriptors : List Metric.Descriptor
  collect : Collector.Target → Collector.Collecting Unit

end RouterMetrics
