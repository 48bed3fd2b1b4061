import RouterMetrics.Proofs.Lists
import RouterMetrics.Proofs.Metric.Offer

/-! Readings: what metrics of one number find in a row, and what they make of it. -/

namespace RouterMetrics.Metric

open RouterMetrics.Wire (Attributes)

/-- What a converter makes of an attribute up to its rate; one that is missing or empty has nothing. -/
def reading? (property : String) (convert : Converter) (attributes : Attributes) :
    Option (Except ConversionFault Float) :=
  match attributes.get? property with
  | none => none
  | some text => if text.isEmpty then none else some (convert (Property.beforeRate text))

namespace Property

/-- What a metric of one number finds in a row. -/
def reading? : Property → Attributes → Option (Except ConversionFault Float)
  | number property _ convert, attributes => Metric.reading? property convert attributes
  | traffic _ _ _ _, _ | state _ _, _ | presence _ _, _ => none

/-- The metric reads one number. -/
def IsNumber (metric : Property) : Prop :=
  ∃ property descriptor convert, metric = .number property descriptor convert

/-- The sample that a metric of one number makes of a row, if it finds one there. -/
def sample? (metric : Property) (attributes : Attributes) (labels : List LabelValue) :
    Option Addition :=
  match metric, metric.reading? attributes with
  | .number _ descriptor _, some (.ok value) => some ⟨descriptor, value, labels⟩
  | _, _ => none

/-- A metric that does not go beyond the range of doubles finds nothing beyond it. -/
theorem reading?_ne_overflow {metric : Property} (bounded : metric.Bounded)
    (attributes : Attributes) : metric.reading? attributes ≠ some (.error .overflow) := by
  cases metric with
  | number property descriptor convert =>
    simp only [reading?, Metric.reading?]
    -- A missing attribute and an empty one give no number at all.
    split
    · exact nofun
    · rename_i text _
      split
      · exact nofun
      · exact fun beyond => bounded (beforeRate text) (Option.some.inj beyond)
  -- The other kinds are not read as one number.
  | traffic _ _ _ _ => exact nofun
  | state _ _ => exact nofun
  | presence _ _ => exact nofun

/-- There is a sample exactly if there is a number. -/
theorem sample?_isSome {metric : Property} (isNumber : metric.IsNumber) (attributes : Attributes)
    (labels : List LabelValue) :
    (∃ addition, metric.sample? attributes labels = some addition) ↔
      ∃ value, metric.reading? attributes = some (.ok value) := by
  -- A number that is missing or refused has no sample.
  obtain ⟨property, descriptor, convert, rfl⟩ := isNumber
  unfold sample?
  rcases (number property descriptor convert).reading? attributes with _ | (fault | value) <;> simp

variable {metric : Property} {scope : Scope}

/-- A row offers to a metric of one number the sample that it makes, or what is wrong with the number. -/
theorem offer_reading (isNumber : metric.IsNumber) (attributes : Attributes)
    (labels : List LabelValue) :
    ∃ explain, metric.offer attributes labels =
      match metric.reading? attributes with
      | some (.error fault) => .error (told explain fault)
      | some (.ok _) | none => .ok (metric.sample? attributes labels).toList := by
  obtain ⟨property, descriptor, convert, rfl⟩ := isNumber
  simp only [offer, textIn?, reading?, Metric.reading?, sample?]
  -- Nothing is found, an empty text is found, or a text that is converted.
  cases attributes.get? property with
  | none => exact ⟨id, rfl⟩
  | some text =>
    by_cases empty : text.isEmpty
    · exact ⟨id, by simp [empty, Option.filter]⟩
    · refine ⟨.badProperty (beforeRate text) property, ?_⟩
      simp only [Option.filter, empty, Bool.not_false, if_true, Bool.false_eq_true, if_false]
      cases convert (beforeRate text) <;> rfl

/-- A metric of one number gets its sample, and something is wrong exactly if the number is. -/
theorem samples_reading (isNumber : metric.IsNumber) (attributes : Attributes)
    {labels : List LabelValue} (fits : metric.Fits labels) :
    metric.samples attributes labels = (metric.sample? attributes labels).toList ∧
      ∃ explain, metric.fault? attributes labels =
        match metric.reading? attributes with
        | some (.error fault) => some (told explain fault)
        | some (.ok _) | none => none := by
  obtain ⟨explain, offered⟩ := offer_reading isNumber attributes labels
  obtain ⟨property, descriptor, convert, rfl⟩ := isNumber
  -- The sample passes the check of its labels.
  have faultless : ∀ value, (Addition.mk descriptor value labels).fault? = none := by
    simp [Addition.fault?, fits descriptor (by simp [descriptors])]
  unfold samples fault?
  rw [offered]
  unfold sample?
  rcases (number property descriptor convert).reading? attributes with _ | (fault | value)
  · exact ⟨rfl, explain, rfl⟩
  · exact ⟨rfl, explain, rfl⟩
  · exact ⟨by simp [Except.toOption, faultless], explain, by simp [faultless]⟩

/-- A metric of one number goes beyond the range exactly if the number does. -/
theorem fault?_reading_overflow_iff (isNumber : metric.IsNumber) (attributes : Attributes)
    {labels : List LabelValue} (fits : metric.Fits labels) :
    metric.fault? attributes labels = some .overflow ↔
      metric.reading? attributes = some (.error .overflow) := by
  -- The fault of the metric is that of its number, told in other words.
  obtain ⟨-, explain, faulty⟩ := samples_reading isNumber attributes fits
  rw [faulty]
  rcases metric.reading? attributes with _ | ((_ | _) | _) <;> simp [told]

/-- The metric adds its sample, if there is one, and ends well unless there is a fault. -/
theorem collect_reading (attributes : Attributes) (isNumber : metric.IsNumber)
    (fits : metric.Fits scope.labels) (ledger : Ledger) :
    ∃ more, more.additions = ledger.additions ++ (metric.sample? attributes scope.labels).toList ∧
      match metric.reading? attributes with
      | some (.error .overflow) => metric.collect attributes scope ledger = .error .overflow more
      | some (.error (.rejected _)) =>
          ∃ told, metric.collect attributes scope ledger = .error (.rejected told) more
      | some (.ok _) | none => metric.collect attributes scope ledger = .ok () more := by
  obtain ⟨own, explain, faulty⟩ := samples_reading isNumber attributes fits
  obtain ⟨oddities, collected⟩ := metric.collect_samples attributes scope ledger
  rw [own, faulty] at collected
  refine ⟨⟨_, oddities⟩, rfl, ?_⟩
  -- A number is missing, refused, beyond the range, or there.
  rcases found : metric.reading? attributes with _ | ((fault | _) | value)
  all_goals rw [found] at collected
  · exact collected
  · exact ⟨explain fault, collected⟩
  · exact collected
  · exact collected

end Property

section Rows

variable {metrics : List Property} {attributes : Attributes} {scope : Scope}

/-- A number beyond the range of doubles is the fault of the whole row. -/
theorem collectRow_overflow (numbers : ∀ metric ∈ metrics, metric.IsNumber)
    (fits : ∀ metric ∈ metrics, metric.Fits scope.labels)
    (overflows : ∃ metric ∈ metrics, metric.reading? attributes = some (.error .overflow))
    (ledger : Ledger) :
    ∃ more, collectRow metrics attributes scope ledger = .error .overflow more := by
  have beyond : ∃ metric ∈ metrics, metric.fault? attributes scope.labels = some .overflow := by
    obtain ⟨metric, member, overflow⟩ := overflows
    exact ⟨metric, member, (Property.fault?_reading_overflow_iff (numbers metric member) attributes
      (fits metric member)).mpr overflow⟩
  -- The row goes on behind a rejection, but not behind an overflow.
  obtain ⟨before, metric, after, rfl, inRange, overflow⟩ := exists_first beyond
  obtain ⟨oddities, stopped⟩ := collectRow_stopped after inRange overflow ledger
  exact ⟨_, stopped⟩

/-- Otherwise a row gives all samples that are found there, and there are faults if one is no number. -/
theorem collectRow_reading (numbers : ∀ metric ∈ metrics, metric.IsNumber)
    (fits : ∀ metric ∈ metrics, metric.Fits scope.labels)
    (inRange : ∀ metric ∈ metrics, metric.reading? attributes ≠ some (.error .overflow))
    (ledger : Ledger) :
    ∃ faults more, collectRow metrics attributes scope ledger = .ok faults more ∧
      more.additions = ledger.additions ++
        metrics.filterMap (fun metric => metric.sample? attributes scope.labels) ∧
      (faults = [] ↔ ∀ metric ∈ metrics, ∀ fault, metric.reading? attributes ≠ some (.error fault)) := by
  have within : ∀ metric ∈ metrics, metric.fault? attributes scope.labels ≠ some .overflow :=
    fun metric member => mt (Property.fault?_reading_overflow_iff (numbers metric member) attributes
      (fits metric member)).mp (inRange metric member)
  obtain ⟨oddities, reached⟩ := collectRow_reached within ledger
  refine ⟨_, _, reached, ?_, ?_⟩
  · -- Every metric has at most one sample.
    rw [List.filterMap_eq_flatMap_toList]
    refine congrArg (ledger.additions ++ ·) (List.flatMap_congr fun metric member => ?_)
    exact (Property.samples_reading (numbers metric member) attributes (fits metric member)).1
  · rw [rowRejections, List.filterMap_eq_nil_iff]
    refine forall₂_congr fun metric member => ?_
    obtain ⟨-, explain, faulty⟩ :=
      Property.samples_reading (numbers metric member) attributes (fits metric member)
    unfold Property.rejection?
    rw [faulty]
    rcases found : metric.reading? attributes with _ | ((fault | _) | value)
    · simp
    · simp [Property.told]
    · exact absurd found (inRange metric member)
    · simp

end Rows

end RouterMetrics.Metric
