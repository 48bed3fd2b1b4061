import RouterMetrics.Metric.Converter
import RouterMetrics.Metric.Descriptor
import RouterMetrics.OrderedMap

/-! The sink: the samples of one scrape, grouped into families. -/

namespace RouterMetrics.Metric

/-- The value of a label; a name that a device left out has none. -/
abbrev LabelValue := Option String

/-- One sample on its way into a sink. -/
structure Addition where
  descriptor : Descriptor
  value : Float
  labels : List LabelValue

/-- What is wrong with the number of label values, if anything. -/
def Addition.fault? (addition : Addition) : Option ValueFault :=
  let got := addition.labels.length
  let wanted := addition.descriptor.labels.length
  if got = wanted then none else some (.labelCount addition.descriptor.name got wanted)

/-- A sample of a family. -/
structure Sample where
  value : Float
  labels : List LabelValue

/-- The samples of one metric under the first descriptor that came with its name. -/
structure Family where
  descriptor : Descriptor
  samples : List Sample

namespace Family

/-- What the samples of a counter have at the end of their name. -/
def counterEnding : List Char := "_total".toList

/-- The name of the family: that of a counter stands without its ending. -/
def name (family : Family) : String :=
  let chars := family.descriptor.name.toList
  if family.descriptor.kind == .counter && counterEnding.isSuffixOf chars then
    String.ofList (chars.take (chars.length - counterEnding.length))
  else family.descriptor.name

/-- The name of every sample of the family. -/
def sampleName (family : Family) : String :=
  match family.descriptor.kind with
  | .gauge => family.name
  | .counter => family.name ++ String.ofList counterEnding

/-- The labels of a sample: names and values in pairs, the last value of a repeated name. -/
def sampleLabels (family : Family) (sample : Sample) : OrderedMap String LabelValue :=
  .ofList (family.descriptor.labels.zip sample.labels)

/-- The family with one more sample. -/
def push (family : Family) (addition : Addition) : Family :=
  { family with samples := family.samples ++ [⟨addition.value, addition.labels⟩] }

end Family

/-- Families by the names of their descriptors, in the order of their first samples. -/
structure Sink where
  byName : OrderedMap String Family

namespace Sink

/-- A sink without samples. -/
def empty : Sink := ⟨.empty⟩

/-- The families in order. -/
def families (sink : Sink) : List Family := sink.byName.values

/-- The sink with one more sample, whatever the number of its labels. -/
def insert (sink : Sink) (addition : Addition) : Sink :=
  let name := addition.descriptor.name
  let family := sink.byName.getD name ⟨addition.descriptor, []⟩
  ⟨sink.byName.put name (family.push addition)⟩

/-- The sink with one more sample, if it has a value for each label. -/
def add (sink : Sink) (addition : Addition) : Except ValueFault Sink :=
  match addition.fault? with
  | some fault => .error fault
  | none => .ok (sink.insert addition)

/-- The sink with more samples, one after another. -/
def insertAll (sink : Sink) (additions : List Addition) : Sink :=
  additions.foldl insert sink

end Sink

/-- A step at a sink; what it has done there stays when it fails. -/
abbrev Filing := EStateM ValueFault Sink

namespace Sink

/-- The family of a descriptor's name; where there is none yet, one without samples is started. -/
def openFamily (descriptor : Descriptor) : Filing Family := fun sink =>
  match sink.byName.get? descriptor.name with
  | some family => .ok family sink
  | none =>
      let family : Family := ⟨descriptor, []⟩
      .ok family ⟨sink.byName.put descriptor.name family⟩

/-- Adds a sample step by step, if it has a value for each label. -/
def record (addition : Addition) : Filing Unit := do
  -- The values are counted first, so that no family is started for a sample that is refused.
  if let some fault := addition.fault? then throw fault
  let family ← openFamily addition.descriptor
  modify fun sink => ⟨sink.byName.put addition.descriptor.name (family.push addition)⟩

end Sink

end RouterMetrics.Metric
