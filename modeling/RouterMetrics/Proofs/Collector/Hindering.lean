import RouterMetrics.Proofs.Collector.Hindrance
import RouterMetrics.Proofs.Collector.Routine
import RouterMetrics.Proofs.Lists
import RouterMetrics.Proofs.Metric.Reading

/-!
What hinders the registered collectors.

Only three of them can be hindered by a reply: that of routes by a count that is no number, that of
resources by an uptime beyond the range of doubles, that of optics by an interface without a name.
-/

namespace RouterMetrics.Collector

open RouterMetrics.Metric
open RouterMetrics.Session (Reply)

section Steps

variable {hinders : List String → Reply → Prop}

/-- Reading one number stops the others exactly if there is something that is no number. -/
theorem emitting_number {metric : Property} {scope : Scope}
    (hinders : List String → Reply → Prop) (attributes : Wire.Attributes)
    (isNumber : metric.IsNumber) (fits : metric.Fits scope.labels) :
    let script := Script.emitting (metric.collect attributes scope)
    ((∃ fault, metric.reading? attributes = some (.error fault)) → script.Stops) ∧
      ((¬ ∃ fault, metric.reading? attributes = some (.error fault)) → script.HinderedBy hinders) := by
  obtain ⟨more, -, ended⟩ := Property.collect_reading attributes isNumber fits .empty
  have outcome := Script.outcome?_emitting (metric.collect attributes scope)
  -- Nothing is found, it is rejected, it is beyond the range, or it is a number.
  rcases found : metric.reading? attributes with _ | (_ | _) | value
  · rw [found] at ended
    rw [ended] at outcome
    exact ⟨by simp, fun _ => Script.hinderedBy_of_done outcome⟩
  · rw [found] at ended
    obtain ⟨told, ended⟩ := ended
    rw [ended] at outcome
    exact ⟨fun _ => ⟨_, outcome, Fault.stops_ofConversion _⟩, fun none => absurd ⟨_, rfl⟩ none⟩
  · rw [found] at ended
    rw [ended] at outcome
    exact ⟨fun _ => ⟨_, outcome, Fault.stops_ofConversion _⟩, fun none => absurd ⟨_, rfl⟩ none⟩
  · rw [found] at ended
    rw [ended] at outcome
    exact ⟨by simp, fun _ => Script.hinderedBy_of_done outcome⟩

/-- Whether all numbers of some metrics in a row can be read. -/
def IsClean (metrics : List Property) (attributes : Wire.Attributes) : Prop :=
  ∀ metric ∈ metrics, ∀ fault, metric.reading? attributes ≠ some (.error fault)

/-- Whether one of the numbers of some metrics in a row is beyond the range of doubles. -/
def IsBeyond (metrics : List Property) (attributes : Wire.Attributes) : Prop :=
  ∃ metric ∈ metrics, metric.reading? attributes = some (.error .overflow)

/-- How the script for a row of numbers ends. -/
structure EndsByRow (metrics : List Property) (attributes : Wire.Attributes)
    (script : Script Unit) : Prop where
  beyond : IsBeyond metrics attributes → script.outcome? = some (.error .overflow)
  clean : IsClean metrics attributes → script.outcome? = some (.ok ())
  faulty : ¬ IsBeyond metrics attributes → ¬ IsClean metrics attributes →
    ∃ causes, script.outcome? = some (.error (.gathered heading causes))

/-- The script for a row of numbers ends as its numbers say. -/
theorem endsByRow {conduct : Conduct} {metrics : List Property} {attributes : Wire.Attributes}
    {scope : Scope} (numbers : ∀ metric ∈ metrics, metric.IsNumber)
    (fits : ∀ metric ∈ metrics, metric.Fits scope.labels)
    (adds : ∀ descriptor ∈ metrics.flatMap Property.descriptors, ∀ value,
      conduct.adds ⟨descriptor, value, scope.labels⟩)
    (overflows : (¬ ∀ metric ∈ metrics, metric.Bounded) → conduct.fails .overflow)
    (gathers : ∀ causes, conduct.fails (.gathered heading causes)) :
    EndsByRow metrics attributes
      (Scripted.collectMetrics attributes fits adds overflows gathers).script := by
  have outcome := Script.outcome?_emitting (collectRow metrics attributes scope)
  -- Without a number beyond the range the faults of the row are known at its end.
  have read : ¬ IsBeyond metrics attributes → ∃ faults,
      (Script.emitting (collectRow metrics attributes scope)).outcome? = some (.ok faults) ∧
        (faults = [] ↔ IsClean metrics attributes) := by
    intro inRange
    obtain ⟨faults, more, ended, -, clean⟩ := collectRow_reading numbers fits
      (fun metric member beyond => inRange ⟨metric, member, beyond⟩) .empty
    rw [ended] at outcome
    exact ⟨faults, outcome, clean⟩
  refine ⟨fun beyond => ?_, fun clean => ?_, fun inRange unclean => ?_⟩
  · -- A number beyond the range ends the row at once.
    obtain ⟨more, ended⟩ := collectRow_overflow numbers fits beyond .empty
    rw [ended] at outcome
    exact Script.outcome?_bind_error outcome
  · obtain ⟨faults, ended, isEmpty⟩ := read fun ⟨metric, member, beyond⟩ => clean metric member _ beyond
    rw [isEmpty.mpr clean] at ended
    exact Script.outcome?_bind_ok ended
  · obtain ⟨faults, ended, isEmpty⟩ := read inRange
    -- At least one number was rejected, and the gathered faults end the row.
    obtain ⟨fault, others, rfl⟩ := List.exists_cons_of_ne_nil fun none => unclean (isEmpty.mp none)
    exact ⟨_, Script.outcome?_bind_ok ended⟩

/-- What comes before a row and does not fail makes no difference. -/
theorem EndsByRow.after {metrics : List Property} {attributes : Wire.Attributes}
    {script head : Script Unit} (ends : EndsByRow metrics attributes script)
    (ended : head.outcome? = some (.ok ())) :
    EndsByRow metrics attributes (head.bind fun _ => script) := by
  -- The outcome is that of the row.
  have same : (head.bind fun _ => script).outcome? = script.outcome? :=
    Script.outcome?_bind_ok ended
  exact ⟨same ▸ ends.beyond, same ▸ ends.clean, same ▸ ends.faulty⟩

private theorem hinderedBy_forM {ι : Type} {conduct : Conduct} {step : ι → Collecting Unit} {items : List ι}
    {each : ∀ item, item ∈ items → Scripted conduct (step item)}
    (hindered : ∀ item member, (each item member).script.HinderedBy hinders) :
    (Scripted.forM items each).script.HinderedBy hinders := by
  -- Scripts for all items are hindered by what hinders each of them.
  induction items with
  | nil => trivial
  | cons item items ih =>
    exact (hindered item List.mem_cons_self).bind fun _ =>
      ih fun other member => hindered other (List.mem_cons_of_mem item member)

end Steps

namespace Routes

/-- A count that is there, but is no number. -/
def Uncountable (reply : Reply) : Prop :=
  ∃ fault, reading? "ret" numberValue reply.done.attributes = some (.error fault)

/-- A count is a number, and its samples have a label for the version and one for the protocol. -/
private theorem counts_fit (target : Target) (version : String) :
    total.Fits (target.scope.withLabels [some version]).labels ∧
      ∀ protocol, ofProtocol.Fits (target.scope.withLabels [some version, some protocol]).labels :=
  ⟨fun descriptor member => (metrics_labels.1 descriptor member).symm,
    fun _ descriptor member => (metrics_labels.2 descriptor member).symm⟩

private theorem hinderedBy_version {target : Target} (version : String) {topic : String}
    (asked : topic = "ip" ∨ topic = "ipv6" ∧ target.ipv6Disabled = false) :
    (scriptedVersion version asked).script.HinderedBy fun _ reply => Uncountable reply := by
  -- Counting the routes of a version is hindered by a count that is no number.
  obtain ⟨fits, fitsToo⟩ := counts_fit target version
  have counted := fun reply : Reply =>
    emitting_number (fun _ => Uncountable) reply.done.attributes ⟨_, _, _, rfl⟩ fits
  refine Script.hinderedBy_query (fun reply bad => ((counted reply).1 bad).bind) fun reply good => ?_
  refine ((counted reply).2 good).bind fun _ => hinderedBy_forM fun protocol member => ?_
  -- The counts by protocol are read in the same way as that of all routes.
  have countedToo := fun reply : Reply =>
    emitting_number (fun _ => Uncountable) reply.done.attributes ⟨_, _, _, rfl⟩
      (fitsToo protocol)
  exact Script.hinderedBy_query (fun reply bad => (countedToo reply).1 bad)
    fun reply good => (countedToo reply).2 good

/-- Counting routes is hindered by a count that is no number. -/
theorem hinderedBy_scripted (target : Target) :
    (scripted target).script.HinderedBy fun _ reply => Uncountable reply := by
  refine (hinderedBy_version "4" (.inl rfl)).bind fun _ => ?_
  -- Without IPv6 there is no second version.
  split
  · trivial
  · rename_i enabled
    exact hinderedBy_version "6" (.inr ⟨rfl, by simpa using enabled⟩)

end Routes

namespace Resource

/-- Every metric reads one number. -/
theorem metrics_numbers : ∀ metric ∈ metrics, metric.IsNumber := by
  simp [metrics, Metric.gauge, counter, Property.IsNumber]

/-- A row with a number beyond the range of doubles comes before any other faulty one. -/
def Overflows : List Wire.Sentence → Prop
  | [] => False
  | row :: rows =>
      IsBeyond metrics row.attributes ∨ IsClean metrics row.attributes ∧ Overflows rows

private theorem endsByRow_scriptedRow {target : Target} (plain : target.Plain) (row : Wire.Sentence) :
    EndsByRow metrics row.attributes (scriptedRow plain row).script := by
  -- The sample of the version comes first and does not fail.
  have version : (Script.emitting (emit ⟨versionDescriptor, 1.0,
      target.scope.labels ++ [some (row.get "board-name"), some (row.get "version")]⟩)).outcome? =
        some (.ok ()) := by
    have labelled : target.scope.labels = [some target.scope.device, some target.scope.address] := plain
    rw [Script.outcome?_emitting, labelled]
    rfl
  have fits : ∀ metric ∈ metrics, metric.Fits target.scope.labels :=
    fits_of_length metrics_labels (by rw [plain]; rfl)
  exact (endsByRow metrics_numbers fits _ _ _).after version

private theorem hinderedBy_rows {target : Target} (plain : target.Plain)
    (hinders : List String → Reply → Prop) (rows : List Wire.Sentence) :
    let script := (Scripted.forM rows fun row _ => scriptedRow plain row).script
    (Overflows rows → script.Stops) ∧ (¬ Overflows rows → script.HinderedBy hinders) := by
  -- The rows stop the others exactly if there is a number beyond the range before any other fault.
  induction rows with
  | nil => exact ⟨False.elim, fun _ => trivial⟩
  | cons row rows ih =>
    have ends := endsByRow_scriptedRow plain row
    by_cases beyond : IsBeyond metrics row.attributes
    · -- An overflow ends the script, and with it the turns of the others.
      have stops : (scriptedRow plain row).script.Stops :=
        ⟨.overflow, ends.beyond beyond, by simp [Fault.Stops, Fleet.consequence]⟩
      exact ⟨fun _ => stops.bind, fun free => absurd (.inl beyond) free⟩
    by_cases clean : IsClean metrics row.attributes
    · -- A row without a fault leaves it to the later ones.
      refine ⟨fun overflows => ?_, fun free => ?_⟩
      · obtain ⟨fault, ended, stops⟩ := ih.1 (overflows.resolve_left beyond).2
        exact ⟨fault, (Script.outcome?_bind_ok (ends.clean clean)).trans ended, stops⟩
      · exact (Script.hinderedBy_of_done (ends.clean clean)).bind fun _ =>
          ih.2 fun overflows => free (.inr ⟨clean, overflows⟩)
    · -- Gathered faults end the script before the later rows.
      obtain ⟨causes, ended⟩ := ends.faulty beyond clean
      refine ⟨fun overflows => absurd overflows (by simp [Overflows, beyond, clean]), fun _ => ?_⟩
      refine Script.hinderedBy_of_outcome (Script.outcome?_bind_error ended) ?_
      rintro _ ⟨⟩
      simp [Fault.Stops, Fleet.consequence]

/-- Reading resources is hindered by a number beyond the range of doubles. -/
theorem hinderedBy_scripted {target : Target} (plain : target.Plain) :
    (scripted plain).script.HinderedBy fun _ reply => Overflows reply.rows :=
  -- The rows decide, and they ask for nothing themselves.
  Script.hinderedBy_query
    (fun reply => (hinderedBy_rows plain (fun _ reply => Overflows reply.rows) reply.rows).1)
    fun reply => (hinderedBy_rows plain _ reply.rows).2

end Resource

namespace Optics

/-- An interface with an optical module has no name. -/
def Nameless (reply : Reply) : Prop :=
  ∃ row ∈ reply.rows, isOptical row = true ∧ row.get? "name" = none

/-- The names cannot all be told exactly if one is missing. -/
theorem opticalNames_missing (rows : List Wire.Sentence) :
    (opticalNames rows).mapM id = none ↔ ∃ row ∈ rows, isOptical row = true ∧ row.get? "name" = none := by
  -- Only interfaces with a module are asked about.
  rw [mapM_eq_none_iff]
  simp [opticalNames, and_assoc]

/-- Reading optical modules is hindered by an interface without a name. -/
theorem hinderedBy_scripted (target : Target) :
    (scripted target).script.HinderedBy fun words reply =>
      words = namesRequest ∧ Nameless reply := by
  refine Script.hinderedBy_query (fun reply bad => ?_) fun reply good => ?_
  · -- The names are not all told, so there is at least one interface to tell of.
    have missing := (opticalNames_missing reply.rows).mpr bad.2
    unfold Scripted.ite
    beta_reduce
    -- Without optical interfaces nothing more is asked.
    split
    · rename_i none
      simp [List.isEmpty_iff.mp none] at missing
    · change (scriptedNames target _).script.Stops
      rw [missing]
      exact ⟨.missingName, rfl, by simp [Fault.Stops, Fleet.consequence]⟩
  · unfold Scripted.ite
    beta_reduce
    split
    · trivial
    · change (scriptedNames target _).script.HinderedBy _
      cases told : (opticalNames reply.rows).mapM id with
      | none => exact absurd ⟨rfl, (opticalNames_missing reply.rows).mp told⟩ good
      | some names =>
        -- The request for the modules is another one, and the faults of their rows are gathered.
        refine (scriptedModules target names).obeys.hinderedBy ?_ ?_
        · rintro _ ⟨causes, rfl⟩
          simp [Fault.Stops, Fleet.consequence]
        · rintro _ reply rfl ⟨same, -⟩
          simp [modulesRequest, namesRequest] at same

end Optics

/-- What hinders a collector: a reply to one of its requests after which no other one is called. -/
def Hinders (collector : Collector) (words : List String) (reply : Reply) : Prop :=
  collector.name = Routes.collector.name ∧ Routes.Uncountable reply ∨
    collector.name = Resource.collector.name ∧ Resource.Overflows reply.rows ∨
    collector.name = Optics.collector.name ∧ words = Optics.namesRequest ∧ Optics.Nameless reply

private theorem not_hinders {collector : Collector}
    (other : collector.name ∉ [Routes.collector.name, Resource.collector.name, Optics.collector.name])
    (words : List String) (reply : Reply) : ¬ Hinders collector words reply := by
  -- A collector under another name is hindered by no reply.
  simp only [List.mem_cons, List.not_mem_nil, or_false, not_or] at other
  simp [Hinders, other]

/-- What hinders each of the three collectors that can be hindered. -/
theorem hinders_iff (words : List String) (reply : Reply) :
    (Hinders Routes.collector words reply ↔ Routes.Uncountable reply) ∧
      (Hinders Resource.collector words reply ↔ Resource.Overflows reply.rows) ∧
      (Hinders Optics.collector words reply ↔ words = Optics.namesRequest ∧ Optics.Nameless reply) := by
  -- The three collectors are known by their names.
  have names : Routes.collector.name = "routes" ∧ Resource.collector.name = "resource" ∧
      Optics.collector.name = "optics" := ⟨rfl, rfl, rfl⟩
  simp [Hinders, names]

/-- The script of every routine is hindered by what hinders its collector. -/
theorem hinderedBy_routine {routine : Routine} (member : routine ∈ routines) {target : Target}
    (plain : target.Plain) :
    (routine.scripted plain).script.HinderedBy (Hinders routine.collector) := by
  -- Where the faults of a routine are all gathered ones, no reply is a hindrance.
  have gathering : ∀ {conduct : Conduct} {script : Script Unit} {collector : Collector},
      collector.name ∉ [Routes.collector.name, Resource.collector.name, Optics.collector.name] →
      script.Obeys conduct → (∀ fault, conduct.fails fault → IsGathered fault) →
      script.HinderedBy (Hinders collector) := by
    intro conduct script collector other obeys gathers
    refine obeys.hinderedBy (fun fault allowed => ?_) fun words reply _ =>
      not_hinders other words reply
    obtain ⟨causes, rfl⟩ := gathers fault allowed
    simp [Fault.Stops, Fleet.consequence]
  simp only [routines, List.mem_cons, List.not_mem_nil, or_false] at member
  rcases member with rfl | rfl | rfl | rfl | rfl | rfl | rfl | rfl | rfl | rfl | rfl | rfl | rfl |
    rfl | rfl | rfl
  -- The first routine is that of resources, the only one that needs a plain target here.
  case inl =>
    exact (Resource.hinderedBy_scripted plain).congr fun words reply =>
      (hinders_iff words reply).2.1.symm
  -- The other routines are those of routes and of optics, or their faults are all gathered.
  all_goals first
    | exact gathering (by decide) (Routine.scripted _ plain).obeys fun _ gathered => gathered
    | exact (Routes.hinderedBy_scripted target).congr fun words reply =>
        (hinders_iff words reply).1.symm
    | exact (Optics.hinderedBy_scripted target).congr fun words reply =>
        (hinders_iff words reply).2.2.symm

/-- The script of a registered collector is hindered by what hinders the collector. -/
theorem hinderedBy_scriptOf {collector : Collector} (registered : collector ∈ all)
    (device : Config.Device) (name : String) :
    (scriptOf collector device name).HinderedBy (Hinders collector) := by
  -- A registered collector has a routine, whose script it runs.
  rw [← routines_collectors] at registered
  obtain ⟨routine, member, rfl⟩ := List.mem_map.mp registered
  rw [scriptOf_routine member]
  exact hinderedBy_routine member _

end RouterMetrics.Collector
