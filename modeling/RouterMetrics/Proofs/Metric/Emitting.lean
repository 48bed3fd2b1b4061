import RouterMetrics.Metric.Property
import RouterMetrics.Proofs.Metric.Converter

/-! What a row adds to a ledger does not depend on what the ledger already holds. -/

namespace RouterMetrics.Metric

/-- The ledger with the additions and oddities of a later one behind its own. -/
def Ledger.followedBy (ledger more : Ledger) : Ledger :=
  ⟨ledger.additions ++ more.additions, ledger.oddities ++ more.oddities⟩

namespace Ledger

/-- Nothing in front of a ledger leaves it as it is. -/
@[simp] theorem empty_followedBy (ledger : Ledger) : Ledger.empty.followedBy ledger = ledger := rfl

/-- Nothing behind a ledger leaves it as it is. -/
@[simp] theorem followedBy_empty (ledger : Ledger) : ledger.followedBy .empty = ledger := by
  simp [followedBy, empty]

/-- Ledgers one behind the other can be joined in any order. -/
theorem followedBy_assoc (ledger more most : Ledger) :
    (ledger.followedBy more).followedBy most = ledger.followedBy (more.followedBy most) := by
  simp [followedBy]

end Ledger

/-- The result of a step that started with nothing, behind a ledger that was there before. -/
def behind {α : Type} (ledger : Ledger) :
    EStateM.Result ConversionFault Ledger α → EStateM.Result ConversionFault Ledger α
  | .ok result more => .ok result (ledger.followedBy more)
  | .error fault more => .error fault (ledger.followedBy more)

/-- What a result leaves in the ledger. -/
def leftBy {α : Type} : EStateM.Result ConversionFault Ledger α → Ledger
  | .ok _ ledger | .error _ ledger => ledger

private theorem behind_behind {α : Type} (ledger more : Ledger)
    (result : EStateM.Result ConversionFault Ledger α) :
    behind ledger (behind more result) = behind (ledger.followedBy more) result := by
  -- Ledgers that stand before a result can be put together first.
  cases result <;> simp [behind, Ledger.followedBy_assoc]

private theorem leftBy_behind {α : Type} (ledger : Ledger)
    (result : EStateM.Result ConversionFault Ledger α) :
    leftBy (behind ledger result) = ledger.followedBy (leftBy result) := by
  -- What a result leaves stands behind what was there before.
  cases result <;> rfl

private theorem behind_eq_error {α : Type} {ledger more : Ledger} {fault : ConversionFault}
    {result : EStateM.Result ConversionFault Ledger α}
    (failed : behind ledger result = .error fault more) : ∃ most, result = .error fault most := by
  -- A fault behind a ledger is a fault without it.
  cases result with
  | ok value most => cases failed
  | error other most =>
    cases failed
    exact ⟨most, rfl⟩

/-- A step only adds certain samples to the ledger, and fails only with certain faults. -/
structure Writes {α : Type} (adds : Addition → Prop) (fails : ConversionFault → Prop)
    (step : Emitting α) : Prop where
  appends : ∀ ledger, step ledger = behind ledger (step .empty)
  adds : ∀ addition ∈ (leftBy (step .empty)).additions, adds addition
  fails : ∀ fault more, step .empty = .error fault more → fails fault

namespace Writes

variable {α β : Type} {adds : Addition → Prop} {fails : ConversionFault → Prop}

/-- What is written may be told with less precision. -/
theorem mono {adds' : Addition → Prop} {fails' : ConversionFault → Prop} {step : Emitting α}
    (writes : Writes adds fails step) (addsToo : ∀ addition, adds addition → adds' addition)
    (failsToo : ∀ fault, fails fault → fails' fault) : Writes adds' fails' step where
  -- The step itself stays the same.
  appends := writes.appends
  adds addition member := addsToo addition (writes.adds addition member)
  fails fault more failed := failsToo fault (writes.fails fault more failed)

/-- A result that is given at once adds nothing. -/
theorem pure (result : α) : Writes adds fails (pure result : Emitting α) where
  appends ledger := by
    change EStateM.Result.ok result ledger = .ok result (ledger.followedBy .empty)
    rw [Ledger.followedBy_empty]
  -- A result is neither a sample nor a fault.
  adds _ member := absurd member List.not_mem_nil
  fails _ _ failed := nomatch failed

/-- A fault adds nothing. -/
theorem throw {fault : ConversionFault} (allowed : fails fault) :
    Writes adds fails (throw fault : Emitting α) where
  appends ledger := by
    change EStateM.Result.error fault ledger = .error fault (ledger.followedBy .empty)
    rw [Ledger.followedBy_empty]
  adds _ member := absurd member List.not_mem_nil
  -- The only fault is the one that is thrown.
  fails other _ failed := by
    have same : (EStateM.Result.error fault Ledger.empty : EStateM.Result _ _ α) =
        .error other _ := failed
    cases same
    exact allowed

/-- Two steps in turn add what the first adds and then what the second adds. -/
theorem bind {step : Emitting α} {next : α → Emitting β} (head : Writes adds fails step)
    (tail : ∀ result, Writes adds fails (next result)) : Writes adds fails (step >>= next) := by
  cases first : step .empty with
  | error fault more =>
    -- The fault of the first step is the fault of both.
    have failed : ∀ ledger, (step >>= next) ledger = .error fault (ledger.followedBy more) := by
      intro ledger
      have stopped := head.appends ledger
      rw [first] at stopped
      simp only [Bind.bind, EStateM.bind, stopped, behind]
    have whole : (step >>= next) .empty = .error fault more := failed .empty
    refine ⟨fun ledger => by rw [failed, whole]; rfl, ?_, ?_⟩
    · intro addition member
      rw [whole] at member
      exact head.adds addition (by rw [first]; exact member)
    · intro other _ same
      rw [whole] at same
      cases same
      exact head.fails fault more first
  | ok result more =>
    -- The second step adds behind the first what it adds to nothing.
    have went : ∀ ledger, (step >>= next) ledger =
        behind (ledger.followedBy more) (next result .empty) := by
      intro ledger
      have passed := head.appends ledger
      rw [first] at passed
      simp only [Bind.bind, EStateM.bind, passed, behind]
      exact (tail result).appends _
    have whole : (step >>= next) .empty = behind more (next result .empty) := went .empty
    refine ⟨fun ledger => by rw [went, whole, behind_behind], ?_, ?_⟩
    · intro addition member
      rw [whole, leftBy_behind] at member
      rcases List.mem_append.mp member with earlier | later
      · exact head.adds addition (by rw [first]; exact earlier)
      · exact (tail result).adds addition later
    · intro fault _ same
      rw [whole] at same
      obtain ⟨most, failed⟩ := behind_eq_error same
      exact (tail result).fails fault most failed

/-- Steps for all items add what they add one after another. -/
theorem forM {ι : Type} {step : ι → Emitting Unit} {items : List ι}
    (each : ∀ item ∈ items, Writes adds fails (step item)) :
    Writes adds fails (items.forM step) := by
  -- The induction is on the items; each step adds behind those before it.
  induction items with
  | nil => exact .pure ()
  | cons item items ih =>
    exact .bind (each item List.mem_cons_self)
      fun _ => ih fun other member => each other (List.mem_cons_of_mem item member)

end Writes

/-- A sample with a value for each label is added as it is. -/
theorem writes_emit {addition : Addition}
    (complete : addition.labels.length = addition.descriptor.labels.length) :
    Writes (· = addition) (fun _ => False) (emit addition) := by
  -- The check of the number of labels is passed.
  have faultless : addition.fault? = none := by simp [Addition.fault?, complete]
  have added : ∀ ledger, emit addition ledger =
      .ok () ⟨ledger.additions ++ [addition], ledger.oddities⟩ := by
    intro ledger
    simp [emit, faultless]
  refine ⟨fun ledger => ?_, ?_, ?_⟩
  · simp [added, behind, Ledger.followedBy, Ledger.empty]
  · intro other member
    simpa [added, leftBy, Ledger.empty] using member
  · intro fault _ same
    rw [added] at same
    cases same

/-- An oddity adds no sample. -/
theorem writes_note {adds : Addition → Prop} {fails : ConversionFault → Prop} (oddity : Oddity) :
    Writes adds fails (note oddity) where
  appends ledger := by
    change EStateM.Result.ok () _ = .ok () (ledger.followedBy _)
    simp [Ledger.followedBy, Ledger.empty]
  -- An oddity is neither a sample nor a fault.
  adds _ member := absurd member List.not_mem_nil
  fails _ _ failed := nomatch failed

/-- The fault says that a sample has more or fewer values than labels. -/
def ValueFault.Miscounts : ValueFault → Prop
  | .labelCount .. => True
  | _ => False

/-- The rejection is one of a sample with more or fewer values than labels. -/
def ConversionFault.Miscounts : ConversionFault → Prop
  | .rejected fault => fault.Miscounts
  | .overflow => False

/-- A fault of a value, not of its labels, and beyond the range only where values are not bounded. -/
structure Refused (bounded : Prop) (fault : ConversionFault) : Prop where
  inRange : bounded → fault ≠ .overflow
  counted : ¬ fault.Miscounts

namespace Property

/-- What a converter of the metric gives never is a number beyond the range of doubles. -/
def Bounded : Property → Prop
  | number _ _ convert => NeverOverflows convert
  | traffic _ _ _ convert => NeverOverflows convert
  | state _ _ | presence _ _ => True

/-- The metric's samples have as many labels as are given. -/
def Fits (metric : Property) (labels : List LabelValue) : Prop :=
  ∀ descriptor ∈ metric.descriptors, labels.length = descriptor.labels.length

/-- A conversion adds nothing, and it is beyond the range only where its result was. -/
theorem writes_converted {α : Type} {adds : Addition → Prop} {bounded : Prop}
    {explain : ValueFault → ValueFault} {result : Except ConversionFault α}
    (inRange : bounded → result ≠ .error .overflow)
    (explained : ∀ fault, ¬ (explain fault).Miscounts) :
    Writes adds (Refused bounded) (converted explain result) := by
  cases result with
  | ok value => exact .pure value
  | error fault =>
    cases fault with
    -- A rejection is told with the text that was converted, and is about that text.
    | rejected fault => exact .throw ⟨fun _ => by simp, explained fault⟩
    | overflow => exact .throw ⟨fun holds => absurd rfl (inRange holds), id⟩

/-- A row gives a metric samples of its own descriptors under the labels of the row. -/
theorem writes_collect {metric : Property} {scope : Scope} (attributes : Wire.Attributes)
    (fits : metric.Fits scope.labels) :
    Writes (fun addition => addition.descriptor ∈ metric.descriptors ∧ addition.labels = scope.labels)
      (Refused metric.Bounded) (metric.collect attributes scope) := by
  -- Every sample goes through the same check of its labels, which it passes.
  have emits : ∀ descriptor ∈ metric.descriptors, ∀ value,
      Writes (fun addition => addition.descriptor ∈ metric.descriptors ∧
          addition.labels = scope.labels)
        (Refused metric.Bounded) (emit ⟨descriptor, value, scope.labels⟩) := by
    intro descriptor member value
    refine (writes_emit (fits descriptor member)).mono ?_ fun _ impossible => impossible.elim
    rintro _ rfl
    exact ⟨member, rfl⟩
  have value : ∀ property, Writes (fun addition => addition.descriptor ∈ metric.descriptors ∧
        addition.labels = scope.labels)
      (Refused metric.Bounded) (valueIn? property attributes scope) := by
    intro property
    unfold valueIn?
    split
    · exact .bind (writes_note _) fun _ => .pure none
    · exact .pure _
  -- Each kind of metric looks for its text, converts it, and adds one sample or several.
  cases metric with
  | number property descriptor convert =>
    refine .bind (value property) fun found => ?_
    cases found with
    | none => exact .pure ()
    | some text =>
      exact .bind (writes_converted (fun bounded => bounded _) fun _ => id)
        fun result => emits descriptor (by simp [descriptors]) result
  | traffic property received sent convert =>
    refine .bind (value property) fun found => ?_
    cases found with
    | none => exact .pure ()
    | some text =>
      exact .bind (writes_converted (fun bounded => bounded _) fun _ => id) fun result =>
        .bind (emits sent (by simp [descriptors]) result.1)
          fun _ => emits received (by simp [descriptors]) result.2
  | state property states =>
    refine .bind (value property) fun found => ?_
    cases found with
    | none => exact .pure ()
    | some text =>
      have entries : ∀ entry ∈ states.entries, Writes _ _
          (emit ⟨entry.2, if entry.1 == text then 1.0 else 0.0, scope.labels⟩) :=
        fun entry member => emits entry.2 (List.mem_map_of_mem member) _
      have each := Writes.forM entries
      by_cases known : states.contains text
      · simpa [known] using each
      · simpa [known] using Writes.bind (writes_note (.unknownState scope property text)) fun _ => each
  | presence property descriptor =>
    simp only [collect]
    split
    · exact emits descriptor (by simp [descriptors]) 1.0
    · exact writes_note _

end Property

/-- A step whose rejections are given back as results. -/
def attempted (step : Emitting Unit) : Emitting (Option ValueFault) := fun ledger =>
  match step ledger with
  | .ok () ledger => .ok none ledger
  | .error (.rejected fault) ledger => .ok (some fault) ledger
  | .error .overflow ledger => .error .overflow ledger

/-- A step whose rejections are given back adds the same, and fails only with an overflow. -/
theorem Writes.attempted {adds : Addition → Prop} {fails : ConversionFault → Prop}
    {step : Emitting Unit} (writes : Writes adds fails step) :
    Writes adds (fun fault => fault = .overflow ∧ fails fault) (attempted step) := by
  -- The step ends in one of three ways, and in the same way for every ledger.
  have ways := writes.appends
  have added := writes.adds
  cases ended : step .empty with
  | ok result more =>
    rw [ended] at ways added
    refine ⟨fun ledger => ?_, ?_, ?_⟩
    · simp only [Metric.attempted, ways, behind, Ledger.empty_followedBy]
    · simpa only [Metric.attempted, ended, leftBy] using added
    · intro fault _ same
      simp [Metric.attempted, ended] at same
  | error fault more =>
    rw [ended] at ways added
    cases fault with
    | rejected fault =>
      refine ⟨fun ledger => ?_, ?_, ?_⟩
      · simp only [Metric.attempted, ways, behind, Ledger.empty_followedBy]
      · simpa only [Metric.attempted, ended, leftBy] using added
      · intro fault _ same
        simp [Metric.attempted, ended] at same
    | overflow =>
      refine ⟨fun ledger => ?_, ?_, ?_⟩
      · simp only [Metric.attempted, ways, behind, Ledger.empty_followedBy]
      · simpa only [Metric.attempted, ended, leftBy] using added
      · intro fault most same
        simp only [Metric.attempted, ended, EStateM.Result.error.injEq] at same
        rw [← same.1]
        exact ⟨rfl, writes.fails _ _ ended⟩

private theorem collectRow_cons (metric : Property) (others : List Property) (attributes : Wire.Attributes)
    (scope : Scope) :
    collectRow (metric :: others) attributes scope = (do
      let fault ← attempted (metric.collect attributes scope)
      let faults ← collectRow others attributes scope
      return fault.toList ++ faults) := by
  -- The metrics of a row are attempted one after another, and the rejections are gathered.
  funext ledger
  simp only [collectRow, Bind.bind, EStateM.bind, attempted]
  cases metric.collect attributes scope ledger with
  | ok result more =>
    dsimp only
    cases collectRow others attributes scope more <;> rfl
  | error fault more =>
    cases fault with
    -- A rejection goes to the others, and an overflow ends the row.
    | rejected fault =>
      dsimp only
      cases collectRow others attributes scope more <;> rfl
    | overflow => rfl

/-- A row gives several metrics their samples, and fails only with a number beyond the range. -/
theorem writes_collectRow {metrics : List Property} {scope : Scope} (attributes : Wire.Attributes)
    (fits : ∀ metric ∈ metrics, metric.Fits scope.labels) :
    Writes (fun addition => addition.descriptor ∈ metrics.flatMap Property.descriptors ∧
        addition.labels = scope.labels)
      (fun fault => fault = .overflow ∧ ¬ ∀ metric ∈ metrics, metric.Bounded)
      (collectRow metrics attributes scope) := by
  induction metrics with
  | nil => exact .pure []
  | cons metric others ih =>
    rw [collectRow_cons]
    have head := (Property.writes_collect attributes (fits metric List.mem_cons_self)).attempted
    have tail := ih fun other member => fits other (List.mem_cons_of_mem metric member)
    -- What the first metric may do and what the others may do are both things that all may do.
    refine .bind (head.mono ?_ ?_) fun _ => .bind (tail.mono ?_ ?_) fun _ => .pure _
    · rintro addition ⟨member, labels⟩
      exact ⟨by simp [member], labels⟩
    · rintro fault ⟨overflow, refused⟩
      exact ⟨overflow, fun all => refused.inRange (all metric List.mem_cons_self) overflow⟩
    · rintro addition ⟨member, labels⟩
      refine ⟨?_, labels⟩
      rw [List.flatMap_cons]
      exact List.mem_append_right _ member
    · rintro fault ⟨overflow, unbounded⟩
      exact ⟨overflow, fun all => unbounded fun other member =>
        all other (List.mem_cons_of_mem metric member)⟩

end RouterMetrics.Metric
