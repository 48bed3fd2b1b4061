import Mathlib.Data.Multiset.Bind
import RouterMetrics.Proofs.Collector.Rows
import RouterMetrics.Proofs.Collector.SingleRequest
import RouterMetrics.Proofs.Session.Exchange

/-!
Sensors in two layouts: all of them in one row, or a row with a name and a value for each.

Main statement: the collector of sensors adds the same samples for both layouts, up to their order, and
it fails for one of them exactly if it fails for the other.
-/

namespace RouterMetrics.Metric

open RouterMetrics.Wire (Attributes)

namespace Property

variable {metric : Property} {attributes others : Attributes}

/-- The attribute that a metric reads. -/
def property : Property → String
  | number property _ _ | traffic property _ _ _ | state property _ | presence property _ => property

/-- What a row offers to a metric is told by the attribute that the metric reads. -/
theorem offer_congr (same : attributes.get? metric.property = others.get? metric.property)
    (labels : List LabelValue) : metric.offer attributes labels = metric.offer others labels := by
  -- All kinds look up this one attribute and nothing else.
  cases metric with
  | number property _ _ | traffic property _ _ _ | state property _ =>
    have text : textIn? property attributes = textIn? property others :=
      congrArg (Option.filter _) same
    simp only [offer, text]
  | presence property descriptor =>
    have there : attributes.contains property = others.contains property := by
      rw [OrderedMap.contains_eq_isSome, OrderedMap.contains_eq_isSome]
      exact congrArg Option.isSome same
    simp only [offer, there]

/-- A row without the attribute that a metric reads offers nothing to it. -/
theorem offer_missing (missing : attributes.get? metric.property = none)
    (labels : List LabelValue) : metric.offer attributes labels = .ok [] := by
  -- The metric sees no difference to an empty row.
  have same : attributes.get? metric.property = OrderedMap.empty.get? metric.property := missing
  rw [offer_congr same]
  cases metric <;> rfl

end Property

/-- The entry of a map alone. -/
def alone (entry : String × String) : Attributes := ⟨[entry]⟩

/-- What is told by one key is found in the entries of a map one by one as in the whole map. -/
theorem flatMap_alone {β : Type} (found : Attributes → List β) (key : String)
    (told : ∀ attributes others : Attributes,
      attributes.get? key = others.get? key → found attributes = found others)
    (nothing : ∀ attributes : Attributes, attributes.get? key = none → found attributes = [])
    {values : Attributes} (distinct : values.keys.Nodup) :
    (values.entries.flatMap fun entry => found (alone entry)) = found values := by
  obtain ⟨entries⟩ := values
  -- The induction is on the entries, of which at most one has the key.
  induction entries with
  | nil => exact (nothing ⟨[]⟩ rfl).symm
  | cons entry rest ih =>
    obtain ⟨fresh, others⟩ := List.nodup_cons.mp distinct
    rw [List.flatMap_cons, ih others]
    by_cases same : entry.1 = key
    · have missing : OrderedMap.get? ⟨rest⟩ key = none := by
        cases found : OrderedMap.get? ⟨rest⟩ key with
        | none => rfl
        | some value =>
          have later : key ∈ rest.map Prod.fst := List.mem_map_of_mem (OrderedMap.mem_of_get? found)
          exact absurd (same ▸ later) fresh
      rw [nothing _ missing, List.append_nil]
      exact told _ _ (by simp [alone, OrderedMap.get?, same])
    · rw [nothing (alone entry) (by simp [alone, OrderedMap.get?, same]), List.nil_append]
      exact told _ _ (by simp [OrderedMap.get?, same])

end RouterMetrics.Metric

namespace RouterMetrics.Collector

open RouterMetrics.Metric
open RouterMetrics.Session (Exchange Line Reply)

section Entries

variable {values : Wire.Attributes} (metrics : List Property) (scope : Scope)

private theorem flatMap_swap {α β γ : Type} (items : List α) (others : List β) (f : α → β → List γ) :
    (items.flatMap fun item => others.flatMap (f item)).Perm
      (others.flatMap fun other => items.flatMap fun item => f item other) := by
  -- Multisets may be bound in any order.
  have swapped := Multiset.bind_bind (items : Multiset α) (others : Multiset β)
    (f := fun item other => (f item other : Multiset γ))
  simpa [Multiset.coe_bind] using swapped

/-- The entries of a row yield one by one what the whole row yields, in another order. -/
theorem yielded_alone (distinct : values.keys.Nodup) :
    (values.entries.flatMap fun entry => Row.yielded metrics ⟨alone entry, scope⟩).Perm
      (Row.yielded metrics ⟨values, scope⟩) := by
  -- Each metric goes through all entries, in place of each entry through all metrics.
  refine (flatMap_swap _ _ _).trans (List.Perm.of_eq (List.flatMap_congr fun metric _ => ?_))
  simp only [metric.yielded_eq]
  refine flatMap_alone (fun attributes => metric.samples attributes scope.labels)
    metric.property ?_ ?_ distinct
  · intro attributes others same
    rw [Property.samples, Property.samples, Property.offer_congr same]
  · intro attributes missing
    rw [Property.samples, Property.offer_missing missing]
    rfl

/-- The entries of a row are rejected one by one as the whole row is, in another order. -/
theorem rejections_alone (distinct : values.keys.Nodup) :
    (values.entries.flatMap fun entry => Row.rejections metrics ⟨alone entry, scope⟩).Perm
      (Row.rejections metrics ⟨values, scope⟩) := by
  simp only [Row.rejections, List.filterMap_eq_flatMap_toList]
  refine (flatMap_swap _ _ _).trans (List.Perm.of_eq (List.flatMap_congr fun metric _ => ?_))
  simp only [metric.rejected?_eq]
  refine flatMap_alone (fun attributes => (metric.rejection? attributes scope.labels).toList)
    metric.property ?_ ?_ distinct
  · -- A metric only looks at its own property.
    intro attributes others same
    simp only [Property.rejection?, Property.fault?, Property.offer_congr same]
  · -- Without its property a metric rejects nothing.
    intro attributes missing
    simp [Property.rejection?, Property.fault?, Property.offer_missing missing]

end Entries

namespace Health

/-- The rows of sensors that are read from a reply. -/
def rowsOf (target : Target) (reply : Reply) : List Row :=
  reply.rows.map fun row => ⟨sensors row.attributes, target.scope⟩

/-- The samples that the rows of a reply yield. -/
def yielded (target : Target) (reply : Reply) : List Addition :=
  (rowsOf target reply).flatMap (Row.yielded metrics)

/-- The rejections of texts in a reply that are no numbers. -/
def rejections (target : Target) (reply : Reply) : List ValueFault :=
  (rowsOf target reply).flatMap (Row.rejections metrics)

/-- The fault of a reply, with a cause for each row where a text is no number. -/
def fault? (target : Target) (reply : Reply) : Option Fault :=
  gathered? ((rowsOf target reply).filterMap (Row.fault? metrics))

/-- All sensors are in one row. -/
def InOneRow (values : Wire.Attributes) (reply : Reply) : Prop :=
  reply.rows.map Wire.Sentence.attributes = [values]

/-- Each sensor has a row with its name and its value, in any order and with anything else. -/
def InOwnRows (values : Wire.Attributes) (reply : Reply) : Prop :=
  (reply.rows.map fun row => (row.get? "name", row.get? "value")).Perm
    (values.entries.map fun entry => (some entry.1, some entry.2))

variable {values : Wire.Attributes} {target : Target} {reply : Reply}

/-- Behind its answer the collector adds what the rows yield, and ends with their fault. -/
theorem collect_answered (target : Target) {scrape : Scrape}
    (answered : (Exchange.mk scrape.line request).answer = .ok reply) :
    ∃ oddities, collect target scrape =
      ending (fault? target reply)
        (Scrape.gaining { scrape with line := (Exchange.mk scrape.line request).after }
          (yielded target reply) oddities) := by
  -- The loop goes on from the line behind the answer.
  obtain ⟨oddities, collected⟩ := collectEach_reached
    (fun (row : Wire.Sentence) _ scrape =>
      collectMetrics_row metrics_bounded ⟨sensors row.attributes, target.scope⟩ scrape)
    (fun row _ fault => isOfRow_of_gathered?)
    { scrape with line := (Exchange.mk scrape.line request).after }
  refine ⟨oddities, ?_⟩
  simp only [collect, query, Bind.bind, EStateM.bind, Session.run_eq, answered]
  rw [fault?, yielded, rowsOf, List.filterMap_map, List.flatMap_map]
  exact collected

/-- There is a fault exactly if there is a rejection. -/
theorem fault?_eq_none_iff : fault? target reply = none ↔ rejections target reply = [] := by
  -- A fault is gathered exactly from rejections.
  rw [fault?, rejections, gathered?_eq_none_iff, List.filterMap_eq_nil_iff,
    List.flatMap_eq_nil_iff]
  refine forall₂_congr fun row _ => ?_
  rw [Row.fault?, gathered?_eq_none_iff, List.map_eq_nil_iff]

/-- A row of all sensors is read as it is unless it seems to be that of a single one. -/
theorem rowsOf_inOneRow (target : Target)
    (single : ¬ (values.contains "name" ∧ values.contains "value"))
    (one : InOneRow values reply) : rowsOf target reply = [⟨values, target.scope⟩] := by
  have whole : sensors values = values := by
    rw [OrderedMap.contains_eq_isSome, OrderedMap.contains_eq_isSome] at single
    unfold sensors
    -- A row of one sensor has both attributes.
    split
    · rename_i name value named valued
      simp [named, valued] at single
    · rfl
  have read : rowsOf target reply =
      (reply.rows.map Wire.Sentence.attributes).map fun attributes =>
        ⟨sensors attributes, target.scope⟩ := by
    simp [rowsOf, Function.comp_def]
  rw [read, one, List.map_singleton, whole]

/-- The row of a sensor is read as this sensor alone. -/
theorem rowsOf_inOwnRows (target : Target) (each : InOwnRows values reply) :
    (rowsOf target reply).Perm
      (values.entries.map fun entry => ⟨alone entry, target.scope⟩) := by
  -- What is read of a row is told by the two attributes, and every row has both.
  let read : Option String × Option String → Row := fun pair =>
    ⟨alone (pair.1.getD "", pair.2.getD ""), target.scope⟩
  have told : rowsOf target reply =
      (reply.rows.map fun row => (row.get? "name", row.get? "value")).map read := by
    rw [rowsOf, List.map_map]
    refine List.map_congr_left fun row member => ?_
    obtain ⟨entry, -, same⟩ := List.mem_map.mp (each.mem_iff.mp (List.mem_map_of_mem member))
    obtain ⟨named, valued⟩ := Prod.mk.inj same
    have name : row.attributes.get? "name" = some entry.1 := named.symm
    have value : row.attributes.get? "value" = some entry.2 := valued.symm
    simp [read, sensors, Wire.Sentence.get?, name, value, alone, OrderedMap.ofList, OrderedMap.put,
      OrderedMap.putEntries, OrderedMap.empty]
  have entries : (values.entries.map fun entry => (some entry.1, some entry.2)).map read =
      values.entries.map fun entry => ⟨alone entry, target.scope⟩ := by
    simp [read, Function.comp_def]
  rw [told, ← entries]
  exact each.map read

/--
Both layouts of some sensors have the same samples, up to their order, and the same rejections.

A reply with one row of all sensors and one with a row for each of them may come in different scrapes.
The collector adds what each of them yields, and fails for one exactly if it fails for the other.
Sensors named `name` and `value` must not occur together, as they would be the row of one sensor.
-/
theorem layouts_agree (target : Target) (distinct : values.keys.Nodup)
    (single : ¬ (values.contains "name" ∧ values.contains "value")) {old new : Reply}
    (one : InOneRow values old) (each : InOwnRows values new) {first second : Scrape}
    (answered : (Exchange.mk first.line request).answer = .ok old)
    (answeredToo : (Exchange.mk second.line request).answer = .ok new) :
    (∃ oddities, collect target first =
        ending (fault? target old)
          (Scrape.gaining { first with line := (Exchange.mk first.line request).after }
            (yielded target old) oddities)) ∧
      (∃ oddities, collect target second =
        ending (fault? target new)
          (Scrape.gaining { second with line := (Exchange.mk second.line request).after }
            (yielded target new) oddities)) ∧
      (yielded target old).Perm (yielded target new) ∧
      (rejections target old).Perm (rejections target new) ∧
      (fault? target old = none ↔ fault? target new = none) := by
  have rows := rowsOf_inOneRow target single one
  have own := rowsOf_inOwnRows target each
  -- A row of all sensors is compared with its entries, and these with the rows of the other reply.
  have samples : (yielded target old).Perm (yielded target new) := by
    have parts := own.flatMap_right (Row.yielded metrics)
    rw [List.flatMap_map] at parts
    rw [yielded, yielded, rows, List.flatMap_singleton]
    exact (parts.trans (yielded_alone metrics target.scope distinct)).symm
  have rejected : (rejections target old).Perm (rejections target new) := by
    have parts := own.flatMap_right (Row.rejections metrics)
    rw [List.flatMap_map] at parts
    rw [rejections, rejections, rows, List.flatMap_singleton]
    exact (parts.trans (rejections_alone metrics target.scope distinct)).symm
  refine ⟨collect_answered target answered, collect_answered target answeredToo, samples, rejected, ?_⟩
  rw [fault?_eq_none_iff, fault?_eq_none_iff]
  -- A list is empty exactly if those in another order are.
  exact ⟨fun none => (none ▸ rejected).symm.eq_nil, fun none => (none ▸ rejected).eq_nil⟩

/-- A board whose temperature is no number, with a sensor named `name`, in both layouts. -/
theorem hot_board_in_both_layouts :
    let sentences := fun words : List (List String) =>
      words.flatMap fun sentence => (Wire.encodeSentence sentence).toOption.getD []
    let scrape := fun rows : List (List String) =>
      Scrape.mk ⟨.ofLink (.fresh 0 [.answer (sentences (rows ++ [["!done"]])) none]), []⟩ .empty
    let old := scrape [["!re", "=voltage=24.1", "=temperature=hot", "=name=gw1"]]
    let new := scrape [["!re", "=name=temperature", "=value=hot", "=type=C"],
      ["!re", "=name=name", "=value=gw1"], ["!re", "=name=voltage", "=value=24.1", "=type=V"]]
    let target := Target.ofDevice {} "health"
    let rejected := Fault.gathered heading
      [.gathered heading [.value (.badProperty "hot" "temperature" (.notNumber "hot"))]]
    ∃ after later samples others oddities moreOddities,
      collect target old =
          .error rejected (Scrape.gaining { old with line := after } samples oddities) ∧
        collect target new =
          .error rejected (Scrape.gaining { new with line := later } others moreOddities) ∧
        samples.Perm others ∧
        samples.map (fun addition => addition.descriptor.name) = ["mikrotik_health_voltage"] := by
  intro sentences scrape old new target rejected
  let values : Wire.Attributes :=
    ⟨[("voltage", "24.1"), ("temperature", "hot"), ("name", "gw1")]⟩
  let replyOf := fun rows : List Wire.Attributes =>
    Reply.mk (rows.map fun row => ⟨"!re", "", row⟩) ⟨"!done", "", .empty⟩
  -- The theorem asks for two replies with the same sensors.
  have distinct : values.keys.Nodup := by decide +kernel
  have answered : (Exchange.mk old.line request).answer = .ok (replyOf [values]) := by
    decide +kernel
  have answeredToo : (Exchange.mk new.line request).answer = .ok (replyOf
      [⟨[("name", "temperature"), ("value", "hot"), ("type", "C")]⟩,
        ⟨[("name", "name"), ("value", "gw1")]⟩,
        ⟨[("name", "voltage"), ("value", "24.1"), ("type", "V")]⟩]) := by
    decide +kernel
  obtain ⟨⟨oddities, ended⟩, ⟨others, endedToo⟩, samples, -, -⟩ :=
    layouts_agree target distinct (by decide +kernel)
      (by unfold InOneRow; decide +kernel) (by unfold InOwnRows; decide +kernel) answered answeredToo
  exact ⟨_, _, _, _, oddities, others, ended, endedToo, samples, by decide +kernel⟩

end Health

end RouterMetrics.Collector
