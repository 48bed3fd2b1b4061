import RouterMetrics.Proofs.Collector.Conduct

/-! Computations of collectors that are performances of scripts, and how they are put together. -/

namespace RouterMetrics.Collector

open RouterMetrics.Metric
open RouterMetrics.Session (Reply)

/-- A computation that performs a script, which keeps to a conduct. -/
structure Scripted (conduct : Conduct) {α : Type} (computation : Collecting α) where
  script : Script α
  performs : script.perform = computation
  obeys : script.Obeys conduct

namespace Scripted

variable {α β ι : Type} {conduct : Conduct}

/-- A computation with another script that performs the same. -/
def congr {computation other : Collecting α} (scripted : Scripted conduct computation)
    (same : computation = other) : Scripted conduct other :=
  ⟨scripted.script, scripted.performs.trans same, scripted.obeys⟩

/-- A computation whose script keeps to a wider conduct, too. -/
def mono {computation : Collecting α} {lax : Conduct} (scripted : Scripted conduct computation)
    (within : conduct.Within lax) : Scripted lax computation :=
  ⟨scripted.script, scripted.performs, scripted.obeys.mono within⟩

/-- A result that is given at once. -/
def pure (result : α) : Scripted conduct (pure result : Collecting α) :=
  ⟨.finish (.ok result), rfl, trivial⟩

/-- A fault that the conduct allows. -/
def throw {fault : Fault} (allowed : conduct.fails fault) :
    Scripted conduct (throw fault : Collecting α) :=
  ⟨.finish (.error fault), rfl, allowed⟩

/-- Computations in turn. -/
def bind {computation : Collecting α} {next : α → Collecting β}
    (head : Scripted conduct computation) (tail : ∀ result, Scripted conduct (next result)) :
    Scripted conduct (computation >>= next) where
  script := head.script.bind fun result => (tail result).script
  performs := by
    rw [Script.perform_bind, head.performs]
    -- The later scripts perform the later computations, whatever the result.
    congr
    funext result
    exact (tail result).performs
  obeys := head.obeys.bind fun result => (tail result).obeys

/-- A request that the conduct allows. -/
def query {words : List String} (asks : conduct.asks words) :
    Scripted conduct (Collector.query words) :=
  ⟨.query words, Script.perform_query words, Script.obeys_query asks⟩

/-- A step that only writes what the conduct allows. -/
def emitting {step : Emitting α} {adds : Addition → Prop} {fails : ConversionFault → Prop}
    (writes : Writes adds fails step)
    (addsToo : ∀ addition, adds addition → conduct.adds addition)
    (failsToo : ∀ fault, fails fault → conduct.fails (.ofConversion fault)) :
    Scripted conduct (Collector.emitting step) where
  script := .emitting step
  performs := Script.perform_emitting writes.appends
  obeys := Script.obeys_emitting writes addsToo failsToo

/-- One of two computations. -/
def ite {condition : Prop} [Decidable condition] {computation other : Collecting α}
    (first : Scripted conduct computation) (second : Scripted conduct other) :
    Scripted conduct (if condition then computation else other) :=
  if holds : condition then first.congr (by rw [if_pos holds])
  else second.congr (by rw [if_neg holds])

/-- The script of one of two computations is that of the one which is chosen. -/
theorem ite_script {condition : Prop} [Decidable condition] {computation other : Collecting α}
    (first : Scripted conduct computation) (second : Scripted conduct other) :
    (ite first second : Scripted conduct (if condition then computation else other)).script =
      if condition then first.script else second.script := by
  -- The condition is the same on both sides.
  unfold ite
  split <;> rfl

/-- A computation for each item, up to the first that fails. -/
def forM {step : ι → Collecting Unit} : (items : List ι) →
    (each : ∀ item, item ∈ items → Scripted conduct (step item)) →
    Scripted conduct (items.forM step)
  | [], _ => pure ()
  | item :: items, each =>
      (each item List.mem_cons_self).bind fun _ =>
        forM items fun other member => each other (List.mem_cons_of_mem item member)

/-- A computation for each item, with the faults that cost one row only gathered. -/
def collectEach {step : ι → Collecting Unit} (items : List ι)
    (gathers : ∀ causes, conduct.fails (.gathered heading causes))
    (each : ∀ item, Scripted conduct.ofRow (step item)) :
    Scripted conduct (Collector.collectEach items step) where
  script := .collectEach items fun item => (each item).script
  performs := by
    rw [Script.perform_collectEach]
    congr
    funext item
    exact (each item).performs
  obeys := Script.obeys_collectEach gathers fun item _ => (each item).obeys

/-- The samples of several metrics for one row. -/
def collectMetrics {metrics : List Property} {scope : Scope} (attributes : Wire.Attributes)
    (fits : ∀ metric ∈ metrics, metric.Fits scope.labels)
    (adds : ∀ descriptor ∈ metrics.flatMap Property.descriptors, ∀ value,
      conduct.adds ⟨descriptor, value, scope.labels⟩)
    (overflows : (¬ ∀ metric ∈ metrics, metric.Bounded) → conduct.fails .overflow)
    (gathers : ∀ causes, conduct.fails (.gathered heading causes)) :
    Scripted conduct (Collector.collectMetrics metrics attributes scope) :=
  .bind
    (.emitting (writes_collectRow attributes fits)
      (by
        rintro ⟨descriptor, value, labels⟩ ⟨member, rfl⟩
        -- Every sample of the row stands under one of the descriptors.
        exact adds descriptor member value)
      (by
        rintro _ ⟨rfl, unbounded⟩
        -- An overflow needs a metric that can go beyond the range.
        exact overflows unbounded))
    fun _ => .ite (.pure ()) (.throw (gathers _))

end Scripted

end RouterMetrics.Collector
