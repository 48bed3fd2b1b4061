import RouterMetrics.Metric.Sink
import RouterMetrics.Wire.Sentence

/-! Property metrics: metrics that are read from one attribute of a row. -/

namespace RouterMetrics.Metric

open RouterMetrics.Wire (Attributes)

/-- Whose samples are collected, by which collector, and under which labels. -/
structure Scope where
  device : String
  address : String
  collector : String
  labels : List LabelValue
deriving Repr, DecidableEq

namespace Scope

/-- The scope of a device as a whole. -/
def ofDevice (device address collector : String) : Scope :=
  ⟨device, address, collector, [some device, some address]⟩

/-- The scope of a part of a device: more values stand after its own two labels. -/
def withLabels (scope : Scope) (values : List LabelValue) : Scope :=
  { scope with labels := some scope.device :: some scope.address :: values }

/-- The scope of a part that a row names by some of its attributes. -/
def withLabelsFrom (scope : Scope) (attributes : Attributes) (names : List String) : Scope :=
  scope.withLabels (names.map fun name => some (attributes.getD name ""))

end Scope

/-- Something odd in a row that costs no sample of another metric. -/
inductive Oddity where
  /-- A row without the attribute of a metric. -/
  | missing (scope : Scope) (property : String)
  /-- A row without the attribute that only has to be there. -/
  | absent (scope : Scope) (property : String)
  /-- A state that no metric stands for. -/
  | unknownState (scope : Scope) (property value : String)
deriving Repr, DecidableEq

/-- The text of a label value in messages. -/
def labelText : LabelValue → String
  | some value => Text.quoted value
  | none => "None"

/-- The wording of an oddity. -/
def Oddity.message : Oddity → String
  | missing scope property =>
      let labels := ", ".intercalate (scope.labels.map labelText)
      s!"[{scope.device}/{scope.collector}] property {property} value not found, " ++
        s!"labels=[{labels}]"
  | absent scope property =>
      s!"[{scope.device}/{scope.collector}] property {property} value not found"
  | unknownState scope property value =>
      s!"[{scope.device}/{scope.collector}] unknown {property} value " ++ Text.quoted value

/-- What has come out of some rows: samples, and oddities on the way. -/
structure Ledger where
  additions : List Addition
  oddities : List Oddity

/-- The ledger of no rows. -/
def Ledger.empty : Ledger := ⟨[], []⟩

/-- A step that adds to the ledger; what it has added stays when it fails. -/
abbrev Emitting := EStateM ConversionFault Ledger

/-- Adds a sample, if it has a value for each label. -/
def emit (addition : Addition) : Emitting Unit := fun ledger =>
  match addition.fault? with
  | some fault => .error (.rejected fault) ledger
  | none => .ok () { ledger with additions := ledger.additions ++ [addition] }

/-- Notes an oddity. -/
def note (oddity : Oddity) : Emitting Unit :=
  modify fun ledger => { ledger with oddities := ledger.oddities ++ [oddity] }

/-- A metric that is read from one attribute. -/
inductive Property where
  /-- One number. -/
  | number (property : String) (descriptor : Descriptor) (convert : Converter)
  /-- What was sent and what was received, in this order. -/
  | traffic (property : String) (received sent : Descriptor) (convert : PairConverter)
  /-- One metric for each known state: one for the state that is, zero for the others. -/
  | state (property : String) (states : OrderedMap String Descriptor)
  /-- One where the attribute is there. -/
  | presence (property : String) (descriptor : Descriptor)

namespace Property

/-- The descriptors of the samples that a metric can give. -/
def descriptors : Property → List Descriptor
  | number _ descriptor _ => [descriptor]
  | traffic _ received sent _ => [received, sent]
  | state _ states => states.values
  | presence _ descriptor => [descriptor]

/-- The value of an attribute that is there and not empty. -/
def valueIn? (property : String) (attributes : Attributes) (scope : Scope) :
    Emitting (Option String) := do
  match attributes.get? property with
  | none =>
      note (.missing scope property)
      return none
  | some value => return if value.isEmpty then none else some value

/-- The result of a conversion, its fault told with what was converted. -/
def converted {α : Type} (explain : ValueFault → ValueFault) :
    Except ConversionFault α → Emitting α
  | .ok value => return value
  | .error (.rejected fault) => throw (.rejected (explain fault))
  | .error .overflow => throw .overflow

/-- The text before the first at sign, which sets a rate apart. -/
def beforeRate (text : String) : String :=
  String.ofList (text.toList.takeWhile (· != '@'))

/-- Adds the samples that a row gives for one metric. -/
def collect (metric : Property) (attributes : Attributes) (scope : Scope) : Emitting Unit := do
  match metric with
  | number property descriptor convert =>
      let some value ← valueIn? property attributes scope | return ()
      let text := beforeRate value
      let result ← converted (.badProperty text property) (convert text)
      emit ⟨descriptor, result, scope.labels⟩
  | traffic property received sent convert =>
      let some value ← valueIn? property attributes scope | return ()
      let result ← converted (.badPairProperty value property) (convert value)
      emit ⟨sent, result.1, scope.labels⟩
      emit ⟨received, result.2, scope.labels⟩
  | state property states =>
      let some value ← valueIn? property attributes scope | return ()
      unless states.contains value do note (.unknownState scope property value)
      states.entries.forM fun entry =>
        emit ⟨entry.2, if entry.1 == value then 1.0 else 0.0, scope.labels⟩
  | presence property descriptor =>
      if attributes.contains property then emit ⟨descriptor, 1.0, scope.labels⟩
      else note (.absent scope property)

end Property

/-- Words for a metric; where one is empty it is made from the attribute. -/
structure Wording where
  name : String := ""
  help : String := ""

namespace Wording

/-- The name of the metric of an attribute. -/
def nameOf (wording : Wording) (property : String) : String :=
  if wording.name.isEmpty then property else wording.name

/-- The help of the metric of an attribute in a group. -/
def helpOf (wording : Wording) (group property : String) : String :=
  if wording.help.isEmpty then s!"{property} for {group}" else wording.help

end Wording

/-- A gauge of the number in an attribute. -/
def gauge (group property : String) (labels : List String) (wording : Wording := {})
    (convert : Converter := numberValue) : Property :=
  .number property
    (describe group (wording.nameOf property) (wording.helpOf group property) labels) convert

/-- A counter of the number in an attribute. -/
def counter (group property : String) (labels : List String) (wording : Wording := {})
    (convert : Converter := numberValue) : Property :=
  .number property
    (describe group (wording.nameOf property) (wording.helpOf group property) labels .counter)
    convert

/-- Two counters of the pair in an attribute, of what was sent and of what was received. -/
def traffic (group property : String) (labels : List String) (wording : Wording := {})
    (convert : PairConverter := commaPair) : Property :=
  let name := wording.nameOf property
  let help := wording.helpOf group property
  .traffic property (describe group ("rx_" ++ name) (help ++ " (RX)") labels .counter)
    (describe group ("tx_" ++ name) (help ++ " (TX)") labels .counter) convert

/-- A gauge for each of some states of an attribute. -/
def states (group property : String) (labels : List String) (values : List String)
    (wording : Wording := {}) : Property :=
  let name := wording.nameOf property
  let help := wording.helpOf group property
  .state property
    (.ofList (values.map fun value => (value, describe group (name ++ "_" ++ value) help labels)))

/-- A gauge that is one where an attribute is there. -/
def presence (group property : String) (labels : List String) (wording : Wording := {}) :
    Property :=
  .presence property
    (describe group (wording.nameOf property) (wording.helpOf group property) labels)

/-- A gauge of the number that completes the reply to a count. -/
def count (group name : String) (labels : List String) (help : String := "")
    (convert : Converter := numberValue) : Property :=
  .number "ret" (describe group name (Wording.helpOf ⟨"", help⟩ group name) labels) convert

/-- Adds the samples of several metrics for one row; the faults of rejected ones are gathered. -/
def collectRow (metrics : List Property) (attributes : Attributes) (scope : Scope) :
    Emitting (List ValueFault) := fun ledger =>
  match metrics with
  | [] => .ok [] ledger
  | metric :: others =>
      match metric.collect attributes scope ledger with
      | .ok () ledger => collectRow others attributes scope ledger
      | .error .overflow ledger => .error .overflow ledger
      | .error (.rejected fault) ledger =>
          match collectRow others attributes scope ledger with
          | .ok faults ledger => .ok (fault :: faults) ledger
          | .error fault ledger => .error fault ledger

end RouterMetrics.Metric
