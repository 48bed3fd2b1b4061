import RouterMetrics.Proofs.Collector.Course
import RouterMetrics.Proofs.Collector.Hindering

/-!
Samples under the name of an interface that has none.

Main statement: the collector of wireless interfaces is the only one that gives such samples, and it
does so exactly where an interface without a name has something to tell of its state.
-/

namespace RouterMetrics.Collector

open RouterMetrics.Metric
open RouterMetrics.Session (Exchange Line Reply)

namespace WirelessInterface

/-- The names of the interfaces that are asked for their state, some of which may be missing. -/
def selectedNames (rows : List Wire.Sentence) : List (Option String) :=
  (rows.filter fun row => !isManaged row).map fun row => row.get? "name"

/-- A row about the state of an interface gives a sample: one of a metric, or that of the channel. -/
def Yields (row : Wire.Sentence) : Prop :=
  (∃ metric ∈ metrics, ∃ value, metric.reading? row.attributes = some (.ok value)) ∨
    IsClean metrics row.attributes

/-- The requests of a turn: among the interfaces one without a name has a state that gives a sample. -/
def Anonymous (exchanges : List Exchange) : Prop :=
  ∃ first states reply, exchanges = first :: states ∧ first.answer = .ok reply ∧
    ∃ pair ∈ (selectedNames reply.rows).zip states, pair.1 = none ∧
      ∃ state row rows, pair.2.answer = .ok state ∧ state.rows = row :: rows ∧ Yields row

/-- Every metric reads one number. -/
theorem metrics_numbers : ∀ metric ∈ metrics, metric.IsNumber := by
  simp [metrics, Metric.gauge, Property.IsNumber]

private theorem not_isBeyond (attributes : Wire.Attributes) : ¬ IsBeyond metrics attributes := by
  -- The metrics read with converters that stay in the range of doubles.
  rintro ⟨metric, member, beyond⟩
  exact Property.reading?_ne_overflow (metrics_bounded metric member) attributes beyond

/-- The state of an interface is read without a further request. -/
private theorem silent_state (target : Target) (name : Option String) (rows : List Wire.Sentence) :
    (scriptedState target name rows).script.outcome? ≠ none :=
  -- The conduct of a state allows no request.
  (scriptedState target name rows).obeys.silent fun _ => id

/-- What is said of the metrics in a row are the samples that are found there. -/
theorem said_metrics (target : Target) (name : Option String) (row : Wire.Sentence) :
    (scriptedMetrics target name row).script.said.additions =
      metrics.filterMap fun metric =>
        metric.sample? row.attributes (target.scope.withLabels [name]).labels := by
  have fits : ∀ metric ∈ metrics, metric.Fits (target.scope.withLabels [name]).labels :=
    fits_of_length metrics_labels rfl
  -- The row itself never fails: what it rejects it keeps for the end.
  obtain ⟨faults, more, ended, added, -⟩ := collectRow_reading metrics_numbers fits
    (fun metric member beyond => not_isBeyond row.attributes ⟨metric, member, beyond⟩) .empty
  have outcome := Script.outcome?_emitting
    (collectRow metrics row.attributes (target.scope.withLabels [name]))
  have said := Script.said_emitting
    (collectRow metrics row.attributes (target.scope.withLabels [name]))
  rw [ended] at outcome said
  refine (congrArg Ledger.additions (Script.said_bind_ok outcome)).trans ?_
  -- Failing for the faults at the end adds nothing.
  simp only [Ledger.followedBy, said, leftBy, added]
  unfold Scripted.ite
  split <;> simp [Scripted.pure, Scripted.throw, Scripted.congr, Script.said, Ledger.empty]

/-- The sample of the channel that a row tells. -/
def channelSample (target : Target) (name : Option String) (row : Wire.Sentence) : Addition :=
  ⟨channelDescriptor, 1.0, (target.scope.withLabels [name]).labels ++ [some (row.get "channel")]⟩

/-- Something is said of the state of an interface exactly if its first row yields a sample. -/
theorem said_state (target : Target) (name : Option String) (rows : List Wire.Sentence) :
    (∃ addition, addition ∈ (scriptedState target name rows).script.said.additions) ↔
      ∃ row others, rows = row :: others ∧ Yields row := by
  cases rows with
  -- Without a row there is nothing to tell.
  | nil => simp [scriptedState, Scripted.pure, Script.said, Ledger.empty]
  | cons row others =>
    have ends : EndsByRow metrics row.attributes (scriptedMetrics target name row).script :=
      endsByRow metrics_numbers _ _ _ _
    have samples := said_metrics target name row
    -- The metrics of the row alone, before it comes to the channel.
    have found : (∃ addition, addition ∈ (scriptedMetrics target name row).script.said.additions) ↔
        ∃ metric ∈ metrics, ∃ value, metric.reading? row.attributes = some (.ok value) := by
      rw [samples]
      simp only [List.mem_filterMap]
      constructor
      · rintro ⟨addition, metric, member, sample⟩
        exact ⟨metric, member,
          (Property.sample?_isSome (metrics_numbers metric member) _ _).mp ⟨addition, sample⟩⟩
      · rintro ⟨metric, member, value⟩
        obtain ⟨addition, sample⟩ :=
          (Property.sample?_isSome (metrics_numbers metric member) _ _).mpr value
        exact ⟨addition, metric, member, sample⟩
    by_cases clean : IsClean metrics row.attributes
    · -- The sample of the channel comes behind those of the metrics.
      refine iff_of_true ?_ ⟨row, others, rfl, .inr clean⟩
      obtain ⟨ended, told⟩ := Script.emitting_emit (channelSample target name row) rfl
      have whole : (scriptedState target name (row :: others)).script.said =
          (scriptedMetrics target name row).script.said.followedBy
            ((Script.emitting (emit (channelSample target name row))).bind fun _ =>
              (scriptedHeads target name (channelHeads (row.get "channel"))).script).said :=
        Script.said_bind_ok (ends.clean clean)
      refine ⟨channelSample target name row, ?_⟩
      rw [whole, Script.said_bind_ok ended]
      exact List.mem_append_right _ (List.mem_append_left _ (told ▸ List.mem_singleton_self _))
    · -- With a fault in the row the channel is not reached.
      obtain ⟨causes, failed⟩ := ends.faulty (not_isBeyond row.attributes) clean
      have whole : (scriptedState target name (row :: others)).script.said =
          (scriptedMetrics target name row).script.said := Script.said_bind_error failed
      rw [whole, found]
      simp [Yields, clean]

/-- A sample of an interface has all its labels exactly if the interface has a name. -/
theorem Named.valued_iff {target : Target} {name : Option String} {addition : Addition}
    (named : Named target name addition) : Valued addition ↔ name ≠ none := by
  obtain ⟨values, labelled, valued⟩ := named
  unfold Metric.Valued
  rw [labelled]
  -- The device's labels and those behind the name are texts in any case.
  simp only [List.forall_mem_cons, Option.isSome_some, true_and]
  rw [Option.isSome_iff_ne_none]
  exact and_iff_left valued

/-- A label has no value exactly if a nameless interface has something to tell of its state. -/
theorem unvalued_state (target : Target) (name : Option String) (rows : List Wire.Sentence) :
    (∃ addition ∈ (scriptedState target name rows).script.said.additions, ¬ Valued addition) ↔
      name = none ∧ ∃ row others, rows = row :: others ∧ Yields row := by
  -- All samples of an interface stand under its name.
  have named : ∀ addition ∈ (scriptedState target name rows).script.said.additions,
      (¬ Valued addition ↔ name = none) := by
    intro addition member
    have added := (scriptedState target name rows).obeys.said addition member
    rw [Named.valued_iff added.2]
    exact not_not
  rw [← said_state target name rows]
  constructor
  · rintro ⟨addition, member, unvalued⟩
    exact ⟨(named addition member).mp unvalued, addition, member⟩
  · rintro ⟨nameless, addition, member⟩
    exact ⟨addition, member, (named addition member).mpr nameless⟩

/-- A turn gives a sample without a label's value exactly if its requests are anonymous. -/
theorem valued_iff (target : Target) (line : Line) :
    (∀ addition ∈ ((scripted target).script.course line).added.additions, Valued addition) ↔
      ¬ Anonymous ((scripted target).script.course line).exchanges := by
  -- The script asks for the names first, and then for the state of one interface after another.
  have shape : (scripted target).script = (Script.query namesRequest).bind fun reply =>
      Script.collectEach (selectedNames reply.rows) fun name =>
        (scriptedInterface target name).script := rfl
  have steps : ∀ name, (scriptedInterface target name).script =
      (Script.query (stateRequest name)).bind fun reply =>
        (scriptedState target name reply.rows).script := fun _ => rfl
  rw [shape, Script.course_bind]
  simp only [Script.query, Script.course]
  cases answered : (Exchange.mk line namesRequest).answer with
  | error fault =>
    -- Nothing is known of any interface.
    refine iff_of_true (by simp [Except.mapError, Ledger.empty]) ?_
    rintro ⟨first, states, reply, same, replied, -⟩
    simp only [Except.mapError, List.cons.injEq] at same
    rw [← same.1, answered] at replied
    cases replied
  | ok reply =>
    obtain ⟨exchanges, added⟩ := Script.course_collectEach (selectedNames reply.rows)
      (fun name => (scriptedInterface target name).script) (Exchange.mk line namesRequest).after
    have each := Script.gather_adds_iff steps
      (fun name reply => silent_state target name reply.rows) (fun addition => ¬ Valued addition)
      (selectedNames reply.rows) (Exchange.mk line namesRequest).after
    simp only [Except.mapError, List.singleton_append, Ledger.empty_followedBy, exchanges, added]
    -- It is easier to say of both sides where they fail.
    rw [← not_iff_not, not_not]
    simp only [not_forall, exists_prop]
    rw [each]
    constructor
    · rintro ⟨pair, member, state, told, unvalued⟩
      obtain ⟨nameless, row, others, rows, yields⟩ :=
        (unvalued_state target pair.1 state.rows).mp unvalued
      exact ⟨_, _, reply, rfl, answered, pair, member, nameless, state, row, others, told, rows, yields⟩
    · rintro ⟨_, _, other, ⟨⟩, replied, pair, member, nameless, state, row, others, told, rows, yields⟩
      rw [answered] at replied
      cases replied
      exact ⟨pair, member, state, told,
        (unvalued_state target pair.1 state.rows).mpr ⟨nameless, row, others, rows, yields⟩⟩

end WirelessInterface

/-- The only label of an interface's sample that may be without a value is the name of the interface. -/
theorem WirelessInterface.Named.missing {target : Target} {name : Option String} {addition : Addition}
    (named : Named target name addition) (unvalued : ¬ Valued addition) :
    addition.labels[2]? = some none := by
  -- All other labels are given.
  have nameless : name = none := by
    rw [named.valued_iff] at unvalued
    exact not_not.mp unvalued
  obtain ⟨values, labelled, -⟩ := named
  rw [labelled, nameless]
  rfl

/-- The samples of every collector are whole, and only those of one may lack the value of a label. -/
theorem routines_adds : ∀ routine ∈ routines, ∀ target addition,
    (routine.conduct target).adds addition →
      Sampled routine.collector.descriptors target.scope addition ∧
        (routine.collector.name ≠ WirelessInterface.collector.name → Valued addition) ∧
        (¬ Valued addition → addition.labels[2]? = some none) := by
  intro routine member
  -- The conducts of all other collectors promise texts only.
  simp only [routines, List.mem_cons, List.not_mem_nil, or_false] at member
  rcases member with rfl | rfl | rfl | rfl | rfl | rfl | rfl | rfl | rfl | rfl | rfl | rfl | rfl |
    rfl | rfl | rfl
  all_goals first
    | exact fun _ _ added => ⟨added.1, fun _ => added.2, fun unvalued => absurd added.2 unvalued⟩
    | exact fun _ _ added => ⟨added.1, fun other => absurd rfl other,
        added.2.elim fun _ named => named.missing⟩

section Registered

variable {collector : Collector} (registered : collector ∈ all) (device : Config.Device)
  (name : String) (line : Line)

include registered

/-- The samples of a registered collector are whole samples of the device. -/
theorem added_scriptOf :
    ∀ addition ∈ ((scriptOf collector device name).course line).added.additions,
      Sampled collector.descriptors (Target.ofDevice device name).scope addition ∧
        (collector.name ≠ WirelessInterface.collector.name → Valued addition) ∧
        (¬ Valued addition → addition.labels[2]? = some none) := by
  -- A registered collector is that of a routine, whose conduct its script obeys.
  rw [← routines_collectors] at registered
  obtain ⟨routine, member, rfl⟩ := List.mem_map.mp registered
  rw [scriptOf_routine member]
  intro addition added
  exact routines_adds routine member _ addition ((routine.scripted _).obeys.adds addition added)

/-- A turn of a registered collector gives only texts as labels unless it is an anonymous one. -/
theorem valued_scriptOf :
    (∀ addition ∈ ((scriptOf collector device name).course line).added.additions, Valued addition) ↔
      ¬ (collector.name = WirelessInterface.collector.name ∧
        WirelessInterface.Anonymous ((scriptOf collector device name).course line).exchanges) := by
  rw [← routines_collectors] at registered
  obtain ⟨routine, member, rfl⟩ := List.mem_map.mp registered
  by_cases wireless : routine.collector.name = WirelessInterface.collector.name
  · -- Names tell routines apart, so it is the routine of wireless interfaces.
    have known : (⟨WirelessInterface.collector, _, fun {target} _ =>
        WirelessInterface.scripted target⟩ : Routine) ∈ routines := by simp [routines]
    obtain rfl := List.inj_on_of_nodup_map routines_nodup member known wireless
    rw [scriptOf_routine member, WirelessInterface.valued_iff]
    exact not_congr (and_iff_right rfl).symm
  · refine iff_of_true (fun addition added => ?_) fun anonymous => wireless anonymous.1
    have whole := added_scriptOf (routines_collectors ▸ List.mem_map_of_mem member) device name line
    exact (whole addition added).2.1 wireless

end Registered

end RouterMetrics.Collector
