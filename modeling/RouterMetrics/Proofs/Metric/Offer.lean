import RouterMetrics.Proofs.Metric.Emitting

/-!
What a row has to offer to each metric, told apart from how it is collected.

Main statement: a row gives every metric what it offers to it, whatever it offers to the others, unless
a number goes beyond the range of doubles.
-/

namespace RouterMetrics.Metric

open RouterMetrics.Wire (Attributes)

/-- Samples are added as long as they have a value for each label, and the first other one fails. -/
theorem emit_forM (additions : List Addition) (ledger : Ledger) :
    forM additions emit ledger =
      let more := { ledger with
        additions := ledger.additions ++ additions.takeWhile fun addition => addition.fault?.isNone }
      match additions.findSome? Addition.fault? with
      | none => .ok () more
      | some fault => .error (.rejected fault) more := by
  induction additions generalizing ledger with
  | nil => simp [Pure.pure, EStateM.pure]
  | cons addition additions ih =>
    rw [List.forM_cons]
    simp only [Bind.bind, EStateM.bind, emit]
    cases faulty : addition.fault? with
    -- The first sample that does not fit ends the loop.
    | some fault => simp [faulty]
    | none =>
      simp only [ih, List.findSome?_cons, faulty]
      simp [faulty]

namespace Property

/-- The text of an attribute that is there and not empty. -/
def textIn? (property : String) (attributes : Attributes) : Option String :=
  (attributes.get? property).filter fun text => !text.isEmpty

/-- The fault of a conversion, a rejection told with what was converted. -/
def told (explain : ValueFault → ValueFault) : ConversionFault → ConversionFault
  | .rejected fault => .rejected (explain fault)
  | .overflow => .overflow

variable (metric : Property) (attributes : Attributes) (labels : List LabelValue)

/-- The samples that a row has for a metric, or why a text there gives none. -/
def offer : Except ConversionFault (List Addition) :=
  match metric with
  | number property descriptor convert =>
      match textIn? property attributes with
      | none => .ok []
      | some text =>
          let text := beforeRate text
          ((convert text).mapError (told (.badProperty text property))).map fun value =>
            [⟨descriptor, value, labels⟩]
  | traffic property received sent convert =>
      match textIn? property attributes with
      | none => .ok []
      | some text =>
          ((convert text).mapError (told (.badPairProperty text property))).map fun values =>
            [⟨sent, values.1, labels⟩, ⟨received, values.2, labels⟩]
  | state property states =>
      match textIn? property attributes with
      | none => .ok []
      | some text => .ok (states.entries.map fun entry =>
          ⟨entry.2, if entry.1 == text then 1.0 else 0.0, labels⟩)
  | presence property descriptor =>
      .ok (if attributes.contains property then [⟨descriptor, 1.0, labels⟩] else [])

/-- The samples that a metric gets of a row: what is offered to it, up to one with wrong labels. -/
def samples : List Addition :=
  ((metric.offer attributes labels).toOption.getD []).takeWhile fun addition =>
    addition.fault?.isNone

/-- What is wrong with what a row offers to a metric. -/
def fault? : Option ConversionFault :=
  match metric.offer attributes labels with
  | .error fault => some fault
  | .ok additions => (additions.findSome? Addition.fault?).map .rejected

/-- The rejection of what a row offers to a metric. -/
def rejection? : Option ValueFault :=
  match metric.fault? attributes labels with
  | some (.rejected fault) => some fault
  | some .overflow | none => none

variable {metric attributes labels} {scope : Scope}

private theorem valueIn?_eq (property : String) (attributes : Attributes) (scope : Scope)
    (ledger : Ledger) :
    ∃ oddities, valueIn? property attributes scope ledger =
      .ok (textIn? property attributes) ⟨ledger.additions, oddities⟩ := by
  unfold valueIn? textIn?
  cases attributes.get? property with
  -- What is missing is noted, and there is no text.
  | none => exact ⟨ledger.oddities ++ [.missing scope property], rfl⟩
  | some text =>
    refine ⟨ledger.oddities, ?_⟩
    -- A text that is empty counts as none.
    by_cases empty : text.isEmpty <;> simp [empty, Option.filter, Pure.pure, EStateM.pure]

private theorem converted_eq {α : Type} (explain : ValueFault → ValueFault)
    (result : Except ConversionFault α) (ledger : Ledger) :
    converted explain result ledger =
      match result.mapError (told explain) with
      | .ok value => .ok value ledger
      | .error fault => .error fault ledger := by
  -- Each result of a conversion is told in its own way.
  rcases result with (fault | _) | value <;> rfl

/-- A metric adds what a row offers to it, or fails with what is wrong with it. -/
theorem collect_offer (metric : Property) (attributes : Attributes) (scope : Scope)
    (ledger : Ledger) :
    ∃ oddities, metric.collect attributes scope ledger =
      match metric.offer attributes scope.labels with
      | .error fault => .error fault ⟨ledger.additions, oddities⟩
      | .ok additions => forM additions emit ⟨ledger.additions, oddities⟩ := by
  -- Each kind of metric looks for its text, converts it, and adds one sample or several.
  cases metric with
  | number property descriptor convert =>
    obtain ⟨oddities, looked⟩ := valueIn?_eq property attributes scope ledger
    refine ⟨oddities, ?_⟩
    simp only [collect, offer, Bind.bind, EStateM.bind, looked]
    cases textIn? property attributes with
    | none => rfl
    | some text =>
      dsimp only [EStateM.bind]
      rw [converted_eq]
      cases (convert (beforeRate text)).mapError (told (.badProperty (beforeRate text) property)) with
      | error fault => rfl
      | ok value => simp [Except.map]
  | traffic property received sent convert =>
    obtain ⟨oddities, looked⟩ := valueIn?_eq property attributes scope ledger
    refine ⟨oddities, ?_⟩
    simp only [collect, offer, Bind.bind, EStateM.bind, looked]
    cases textIn? property attributes with
    | none => rfl
    | some text =>
      dsimp only [EStateM.bind]
      rw [converted_eq]
      cases (convert text).mapError (told (.badPairProperty text property)) with
      | error fault => rfl
      | ok values =>
        simp only [Except.map, List.forM_cons, List.forM_nil, bind_pure_unit]
        rfl
  | state property states =>
    obtain ⟨oddities, looked⟩ := valueIn?_eq property attributes scope ledger
    simp only [collect, offer, Bind.bind, EStateM.bind, looked]
    cases textIn? property attributes with
    | none => exact ⟨oddities, rfl⟩
    | some text =>
      by_cases known : states.contains text
      · refine ⟨oddities, ?_⟩
        simp [known]
      · refine ⟨oddities ++ [.unknownState scope property text], ?_⟩
        simp [known, note]
        rfl
  | presence property descriptor =>
    by_cases there : attributes.contains property
    · exact ⟨ledger.oddities, by simp [collect, offer, there]⟩
    · refine ⟨ledger.oddities ++ [.absent scope property], ?_⟩
      simp [collect, offer, there, note]
      rfl

/-- A metric gets its samples, and fails with what is wrong with the others. -/
theorem collect_samples (metric : Property) (attributes : Attributes) (scope : Scope)
    (ledger : Ledger) :
    ∃ oddities, metric.collect attributes scope ledger =
      match metric.fault? attributes scope.labels with
      | none => .ok () ⟨ledger.additions ++ metric.samples attributes scope.labels, oddities⟩
      | some fault =>
          .error fault ⟨ledger.additions ++ metric.samples attributes scope.labels, oddities⟩ := by
  obtain ⟨oddities, collected⟩ := collect_offer metric attributes scope ledger
  refine ⟨oddities, ?_⟩
  unfold fault? samples
  rw [collected]
  cases metric.offer attributes scope.labels with
  | error fault => simp [Except.toOption]
  | ok additions =>
    dsimp only
    -- The samples are added up to the first that does not fit.
    rw [emit_forM]
    cases additions.findSome? Addition.fault? <;> rfl

/-- A metric goes beyond the range exactly if what a row offers to it does. -/
theorem fault?_eq_overflow_iff :
    metric.fault? attributes labels = some .overflow ↔
      metric.offer attributes labels = .error .overflow := by
  -- A sample that does not fit is a rejected value.
  unfold fault?
  cases metric.offer attributes labels with
  | error fault => simp
  | ok additions =>
    refine iff_of_false ?_ nofun
    dsimp only
    cases additions.findSome? Addition.fault? <;> simp

/-- The converters of one number that never go beyond the range of doubles. -/
def plainConverters : List Converter :=
  [numberValue, flagValue, constantValue, linkStatusValue, rateValue]

/-- The converters of two numbers. -/
def pairConverters : List PairConverter := [commaPair, slashPair]

/-- The metric reads durations, or has another of the known converters, or needs none. -/
def IsKnown : Property → Prop
  | number _ _ convert => convert ∈ durationValue :: plainConverters
  | traffic _ _ _ convert => convert ∈ pairConverters
  | state _ _ | presence _ _ => True

/-- The metric reads a duration that goes beyond the range of doubles. -/
def GoesBeyond (metric : Property) (attributes : Attributes) : Prop :=
  ∃ property descriptor text, metric = number property descriptor durationValue ∧
    textIn? property attributes = some text ∧ Metric.GoesBeyond (beforeRate text)

/-- Of the converters of one number only that of durations goes beyond the range of doubles. -/
theorem plainConverters_neverOverflow : ∀ convert ∈ plainConverters, NeverOverflows convert := by
  -- Each of the other converters has been shown to stay in the range.
  simp [plainConverters, numberValue_neverOverflows, flagValue_neverOverflows,
    constantValue_neverOverflows, linkStatusValue_neverOverflows, rateValue_neverOverflows]

/-- Converters of two numbers never go beyond the range of doubles. -/
theorem pairConverters_neverOverflow : ∀ convert ∈ pairConverters, NeverOverflows convert := by
  simp [pairConverters, commaPair, slashPair, pairValue_neverOverflows]

private theorem map_mapError_overflows_iff {α β : Type} {explain : ValueFault → ValueFault}
    {make : α → β} {result : Except ConversionFault α} :
    (result.mapError (told explain)).map make = .error .overflow ↔ result = .error .overflow := by
  -- Telling a fault in other words does not make it one of the range.
  rcases result with (fault | _) | value <;> simp [Except.mapError, Except.map, told]

/-- A metric whose converter never overflows does not go beyond the range. -/
theorem fault?_ne_overflow (bounded : metric.Bounded) :
    metric.fault? attributes labels ≠ some .overflow := by
  rw [ne_eq, fault?_eq_overflow_iff]
  cases metric with
  | number property descriptor convert =>
    cases found : textIn? property attributes with
    | none => simp [offer, found]
    | some text =>
      simp only [offer, found, map_mapError_overflows_iff]
      exact bounded _
  | traffic property received sent convert =>
    cases found : textIn? property attributes with
    | none => simp [offer, found]
    | some text =>
      simp only [offer, found, map_mapError_overflows_iff]
      exact bounded text
  -- States and presences are told without a number.
  | state property states => cases found : textIn? property attributes <;> simp [offer, found]
  | presence property descriptor => exact nofun

/-- A known metric never goes beyond the range, or it reads a duration. -/
theorem IsKnown.bounded_or_duration (known : metric.IsKnown) :
    metric.Bounded ∨ ∃ property descriptor, metric = number property descriptor durationValue := by
  cases metric with
  | number property descriptor convert =>
    -- The converter of durations is the first of those that are known.
    rcases List.mem_cons.mp known with rfl | plain
    · exact .inr ⟨property, descriptor, rfl⟩
    · exact .inl (plainConverters_neverOverflow convert plain)
  | traffic property received sent convert => exact .inl (pairConverters_neverOverflow convert known)
  | state property states => exact .inl trivial
  | presence property descriptor => exact .inl trivial

/-- Of known metrics only one that reads a duration goes beyond the range, with its own text. -/
theorem fault?_eq_overflow_iff_goesBeyond (known : metric.IsKnown) :
    metric.fault? attributes labels = some .overflow ↔ metric.GoesBeyond attributes := by
  -- Either nothing overflows, or the metric reads a duration.
  rcases known.bounded_or_duration with bounded | ⟨property, descriptor, rfl⟩
  · refine iff_of_false (fault?_ne_overflow bounded) ?_
    rintro ⟨_, _, text, rfl, -, beyond⟩
    exact bounded _ (durationValue_overflows_iff.mpr beyond)
  · rw [fault?_eq_overflow_iff]
    cases found : textIn? property attributes with
    | none =>
      simp only [offer, found]
      -- Without a text there is nothing to read.
      refine iff_of_false nofun ?_
      rintro ⟨_, _, text, same, there, -⟩
      cases same
      cases found.symm.trans there
    | some text =>
      simp only [offer, found, map_mapError_overflows_iff, durationValue_overflows_iff]
      constructor
      · exact fun beyond => ⟨property, descriptor, text, rfl, found, beyond⟩
      · rintro ⟨_, _, _, same, there, beyond⟩
        cases same
        cases found.symm.trans there
        exact beyond

end Property

section Rows

variable (metrics : List Property) (attributes : Attributes) (labels : List LabelValue)

/-- The samples that a row has for its metrics, for each its own. -/
def rowSamples : List Addition := metrics.flatMap fun metric => metric.samples attributes labels

/-- The rejections of what a row has for its metrics, in their order. -/
def rowRejections : List ValueFault :=
  metrics.filterMap fun metric => metric.rejection? attributes labels

variable {metrics attributes labels} {scope : Scope}

private theorem collectRow_append {before : List Property} (rest : List Property)
    (inRange : ∀ metric ∈ before, metric.fault? attributes scope.labels ≠ some .overflow)
    (ledger : Ledger) :
    ∃ oddities, collectRow (before ++ rest) attributes scope ledger =
      match collectRow rest attributes scope
          ⟨ledger.additions ++ rowSamples before attributes scope.labels, oddities⟩ with
      | .ok faults more => .ok (rowRejections before attributes scope.labels ++ faults) more
      | .error fault more => .error fault more := by
  -- The metrics take their turns, and a rejection of one of them goes to the front of the others.
  induction before generalizing ledger with
  | nil =>
    refine ⟨ledger.oddities, ?_⟩
    simp only [rowSamples, rowRejections, List.flatMap_nil, List.filterMap_nil, List.append_nil,
      List.nil_append]
    cases collectRow rest attributes scope ledger <;> rfl
  | cons metric before ih =>
    obtain ⟨oddities, collected⟩ := metric.collect_samples attributes scope ledger
    obtain ⟨later, went⟩ := ih (fun other member => inRange other (List.mem_cons_of_mem metric member))
      ⟨ledger.additions ++ metric.samples attributes scope.labels, oddities⟩
    refine ⟨later, ?_⟩
    have own := inRange metric List.mem_cons_self
    rw [List.cons_append, collectRow, collected]
    simp only [rowSamples, rowRejections, List.append_assoc] at went
    rcases found : metric.fault? attributes scope.labels with _ | rejected | _
    · have silent : metric.rejection? attributes scope.labels = none := by
        simp [Property.rejection?, found]
      simp only [went, rowSamples, rowRejections, List.flatMap_cons, List.filterMap_cons, silent]
    · have told : metric.rejection? attributes scope.labels = some rejected := by
        simp [Property.rejection?, found]
      simp only [went, rowSamples, rowRejections, List.flatMap_cons, List.filterMap_cons, told]
      generalize collectRow rest attributes scope _ = outcome
      cases outcome <;> rfl
    · exact absurd found own

/-- A row gives all its metrics their samples unless one goes beyond the range of doubles. -/
theorem collectRow_reached
    (inRange : ∀ metric ∈ metrics, metric.fault? attributes scope.labels ≠ some .overflow)
    (ledger : Ledger) :
    ∃ oddities, collectRow metrics attributes scope ledger =
      .ok (rowRejections metrics attributes scope.labels)
        ⟨ledger.additions ++ rowSamples metrics attributes scope.labels, oddities⟩ := by
  -- A row starts with no rejections.
  obtain ⟨oddities, went⟩ := collectRow_append [] inRange ledger
  refine ⟨oddities, ?_⟩
  rw [List.append_nil] at went
  simpa [collectRow] using went

/-- A metric that goes beyond the range of doubles is the last one to which a row comes. -/
theorem collectRow_stopped {before : List Property} {metric : Property} (after : List Property)
    (inRange : ∀ metric ∈ before, metric.fault? attributes scope.labels ≠ some .overflow)
    (beyond : metric.fault? attributes scope.labels = some .overflow) (ledger : Ledger) :
    ∃ oddities, collectRow (before ++ metric :: after) attributes scope ledger =
      .error .overflow
        ⟨ledger.additions ++ rowSamples before attributes scope.labels, oddities⟩ := by
  obtain ⟨earlier, went⟩ := collectRow_append (metric :: after) inRange ledger
  obtain ⟨oddities, collected⟩ := metric.collect_samples attributes scope
    ⟨ledger.additions ++ rowSamples before attributes scope.labels, earlier⟩
  -- It has no samples of its own, as its text gave none.
  have offered := Property.fault?_eq_overflow_iff.mp beyond
  have own : metric.samples attributes scope.labels = [] := by
    unfold Property.samples
    rw [offered]
    rfl
  rw [beyond, own, List.append_nil] at collected
  exact ⟨oddities, by rw [went, collectRow, collected]⟩

end Rows

end RouterMetrics.Metric
