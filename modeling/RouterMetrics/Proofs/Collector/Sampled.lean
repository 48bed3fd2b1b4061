import RouterMetrics.Proofs.Collector.Scripted
import RouterMetrics.Proofs.Metric.Sink

/-! The samples of a device: every label of the descriptor has a value, the device stands first. -/

namespace RouterMetrics.Collector

open RouterMetrics.Metric

/-- A sample of a device under one of some descriptors, with a value for each label. -/
structure Sampled (descriptors : List Descriptor) (scope : Scope) (addition : Addition) : Prop where
  described : addition.descriptor ∈ descriptors
  complete : addition.labels.length = addition.descriptor.labels.length
  ofDevice : [some scope.device, some scope.address] <+: addition.labels

/-- The conduct of a collector all of whose labels have a text. -/
def conductOf (descriptors : List Descriptor) (target : Target) (asks : List String → Prop)
    (fails : Fault → Prop) : Conduct where
  asks := asks
  adds addition := Sampled descriptors target.scope addition ∧ Valued addition
  fails := fails

/-- The target's own scope has the device's two labels. -/
def Target.Plain (target : Target) : Prop :=
  target.scope.labels = [some target.scope.device, some target.scope.address]

/-- The target of a configured device is such a target. -/
theorem Target.plain_ofDevice (device : Config.Device) (name : String) :
    (Target.ofDevice device name).Plain := rfl

/-- Faults of rows, gathered at the end. -/
def IsGathered (fault : Fault) : Prop := ∃ causes, fault = .gathered heading causes

/-- Faults of rows are gathered under their heading. -/
theorem isGathered_heading (causes : List Fault) : IsGathered (.gathered heading causes) :=
  ⟨causes, rfl⟩

/-- Without further labels there is none without a value. -/
theorem valued_nil : ∀ value ∈ ([] : List LabelValue), value.isSome = true :=
  fun _ none => absurd none List.not_mem_nil

/-- Metrics that all have as many labels fit under as many label values. -/
theorem fits_of_length {metrics : List Property} {labels : List LabelValue} {count : Nat}
    (counts : ∀ descriptor ∈ metrics.flatMap Property.descriptors,
      descriptor.labels.length = count)
    (given : labels.length = count) : ∀ metric ∈ metrics, metric.Fits labels := by
  intro metric member descriptor inside
  -- Each descriptor has as many labels as there are values.
  rw [given]
  exact (counts descriptor (List.mem_flatMap.mpr ⟨metric, member, inside⟩)).symm

/-- A sample under the device's labels and further ones is one of the device. -/
theorem sampled_of_labels {descriptors : List Descriptor} {scope : Scope} {addition : Addition}
    (values : List LabelValue) (described : addition.descriptor ∈ descriptors)
    (counts : addition.descriptor.labels.length = values.length + 2)
    (labelled : addition.labels = some scope.device :: some scope.address :: values) :
    Sampled descriptors scope addition where
  described := described
  complete := by rw [labelled, counts]; rfl
  ofDevice := ⟨values, labelled.symm⟩

/-- A sample under the device's labels and further texts has a text for each label. -/
theorem valued_of_labels {scope : Scope} {addition : Addition} {values : List LabelValue}
    (labelled : addition.labels = some scope.device :: some scope.address :: values)
    (valued : ∀ value ∈ values, value.isSome = true) : Valued addition := by
  intro label member
  -- The first two labels are those of the device.
  rw [labelled] at member
  rcases List.mem_cons.mp member with rfl | member
  · rfl
  rcases List.mem_cons.mp member with rfl | member
  · rfl
  exact valued label member

namespace Scripted

variable {conduct : Conduct} {descriptors : List Descriptor} {target : Target} {scope : Scope}

/-- The samples of metrics for a row that is told apart by some values. -/
def row {metrics : List Property} (values : List LabelValue) (attributes : Wire.Attributes)
    (labelled : scope.labels = some target.scope.device :: some target.scope.address :: values)
    (counts : ∀ descriptor ∈ metrics.flatMap Property.descriptors,
      descriptor.labels.length = values.length + 2)
    (bounded : ∀ metric ∈ metrics, metric.Bounded)
    (valued : ∀ value ∈ values, value.isSome = true)
    (described : ∀ descriptor ∈ metrics.flatMap Property.descriptors, descriptor ∈ descriptors)
    (adds : ∀ addition, Sampled descriptors target.scope addition → Valued addition →
      conduct.adds addition)
    (gathers : ∀ causes, conduct.fails (.gathered heading causes)) :
    Scripted conduct (Collector.collectMetrics metrics attributes scope) :=
  .collectMetrics attributes
    (fits_of_length counts (by rw [labelled]; rfl))
    (fun descriptor member _ => adds _
      (sampled_of_labels values (described descriptor member) (counts descriptor member) labelled)
      (valued_of_labels labelled valued))
    -- The metrics are bounded, so no value goes beyond the range.
    (fun unbounded => absurd bounded unbounded)
    gathers

/-- The samples of one metric. -/
def counted {metric : Property} (values : List LabelValue) (attributes : Wire.Attributes)
    (labelled : scope.labels = some target.scope.device :: some target.scope.address :: values)
    (counts : ∀ descriptor ∈ metric.descriptors, descriptor.labels.length = values.length + 2)
    (bounded : metric.Bounded)
    (valued : ∀ value ∈ values, value.isSome = true)
    (described : ∀ descriptor ∈ metric.descriptors, descriptor ∈ descriptors)
    (adds : ∀ addition, Sampled descriptors target.scope addition → Valued addition →
      conduct.adds addition)
    (rejects : ∀ fault, conduct.fails (.value fault)) :
    Scripted conduct (Collector.emitting (metric.collect attributes scope)) :=
  .emitting
    (Property.writes_collect attributes fun descriptor member => by
      rw [labelled]; exact (counts descriptor member).symm)
    (by
      rintro ⟨descriptor, value, labels⟩ ⟨member, rfl⟩
      exact adds _
        (sampled_of_labels values (described descriptor member) (counts descriptor member) labelled)
        (valued_of_labels labelled valued))
    (by
      rintro (fault | _) refused
      · exact rejects fault
      · exact absurd rfl (refused.inRange bounded))

/-- One sample with a value for each label. -/
def sample {addition : Addition} (values : List LabelValue)
    (labelled : addition.labels =
      some target.scope.device :: some target.scope.address :: values)
    (counts : addition.descriptor.labels.length = values.length + 2)
    (valued : ∀ value ∈ values, value.isSome = true)
    (described : addition.descriptor ∈ descriptors)
    (adds : ∀ addition, Sampled descriptors target.scope addition → Valued addition →
      conduct.adds addition) :
    Scripted conduct (Collector.emitting (emit addition)) :=
  .emitting (writes_emit (by rw [labelled, counts]; rfl))
    (by
      rintro _ rfl
      exact adds _ (sampled_of_labels values described counts labelled) (valued_of_labels labelled valued))
    fun _ impossible => impossible.elim

end Scripted

/-- What a conduct says of samples is what it says of whole samples of the device. -/
theorem conductOf_adds {descriptors : List Descriptor} {target : Target}
    {asks : List String → Prop} {fails : Fault → Prop} (addition : Addition)
    (sampled : Sampled descriptors target.scope addition) (valued : Valued addition) :
    (conductOf descriptors target asks fails).adds addition := ⟨sampled, valued⟩

end RouterMetrics.Collector
