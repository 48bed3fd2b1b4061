import RouterMetrics.Metric.Property
import RouterMetrics.Proofs.Metric.Sink

/-!
A sink groups what is added to it, whichever calls it takes and whichever it refuses.

Main statement: a refused call leaves the sink as it was, and the others are grouped by their names
without loss, each name in the place where it was first taken.
-/

namespace RouterMetrics.Metric

/-- An addition has a value for each label of its descriptor. -/
def Addition.Complete (addition : Addition) : Prop :=
  addition.labels.length = addition.descriptor.labels.length

instance : DecidablePred Addition.Complete :=
  fun addition => inferInstanceAs (Decidable (addition.labels.length = _))

namespace Sink

/-- Step by step an addition is added as a whole, or it is refused and the sink stays as it was. -/
theorem record_eq_add (addition : Addition) (sink : Sink) :
    record addition sink =
      match sink.add addition with
      | .ok after => .ok () after
      | .error fault => .error fault sink := by
  unfold record add
  cases faulty : addition.fault? with
  -- The fault is told before anything is put into the sink.
  | some fault => rfl
  | none =>
    simp only [Bind.bind, EStateM.bind, openFamily, insert, OrderedMap.getD]
    -- A family that is started is put once without the sample and once with it.
    cases known : sink.byName.get? addition.descriptor.name with
    | some family => rfl
    | none =>
      change EStateM.Result.ok () (Sink.mk ((sink.byName.put _ _).put _ _)) = _
      rw [OrderedMap.put_put]
      rfl

/-- A call is taken exactly if it has a value for each label, and a refused one changes nothing. -/
structure Answers (sink : Sink) (call : Addition) : Prop where
  taken : call.Complete → record call sink = .ok () (sink.insert call)
  refused : ¬ call.Complete →
    record call sink = .error (.labelCount call.descriptor.name call.labels.length
      call.descriptor.labels.length) sink

/-- Every sink takes the calls with a value for each label, and no others. -/
theorem answers (sink : Sink) (call : Addition) : sink.Answers call where
  -- The count of labels is all that a sink asks about.
  taken := by
    intro complete
    have faultless : call.fault? = none := if_pos complete
    rw [record_eq_add, add, faultless]
  refused := by
    intro incomplete
    have faulty : call.fault? = some (.labelCount call.descriptor.name call.labels.length
      call.descriptor.labels.length) := if_neg incomplete
    rw [record_eq_add, add, faulty]

/-- What is emitted in a scrape is recorded in the sink of the scrape. -/
theorem record_emitted (addition : Addition) (ledger : Ledger) :
    match emit addition ledger with
    | .ok () after =>
        record addition (empty.insertAll ledger.additions) =
          .ok () (empty.insertAll after.additions)
    | .error (.rejected fault) after =>
        record addition (empty.insertAll ledger.additions) =
          .error fault (empty.insertAll after.additions)
    | .error .overflow _ => False := by
  -- The ledger refuses what the sink refuses, and what it takes goes behind the other additions.
  rw [record_eq_add, add]
  unfold emit
  cases faulty : addition.fault? with
  | some fault => rfl
  | none => simp only [insertAll_concat]

/-- The sink after some calls, each of them made whatever came of those before it. -/
def recordAll (sink : Sink) (calls : List Addition) : Sink :=
  calls.foldl
    (fun sink call =>
      match record call sink with
      | .ok () after => after
      | .error _ after => after)
    sink

/-- Calls leave a sink with those that have a value for each label, in their order. -/
theorem recordAll_eq (sink : Sink) (calls : List Addition) :
    sink.recordAll calls = sink.insertAll (calls.filter Addition.Complete) := by
  -- The induction is on the calls, each of which starts from what the one before has left.
  induction calls generalizing sink with
  | nil => rfl
  | cons call later ih =>
    unfold recordAll at ih ⊢
    rw [List.foldl_cons]
    by_cases complete : call.Complete
    · rw [(sink.answers call).taken complete, ih, List.filter_cons_of_pos (by simpa using complete)]
      rfl
    · rw [(sink.answers call).refused complete, ih,
        List.filter_cons_of_neg (by simpa using complete)]

/-- A sink holds some additions in groups, one for each of their names. -/
structure Groups (sink : Sink) (additions : List Addition) : Prop where
  /-- The families stand in the order in which their names first came. -/
  ordered : (sink.families.map fun family => family.descriptor.name) =
    (additions.map fun addition => addition.descriptor.name).eraseDups
  /-- A family has the samples of all additions of its name in their order, and no others. -/
  sampled : ∀ family ∈ sink.families,
    family.samples = (named family.descriptor.name additions).map Addition.sample
  /-- No family stands without a sample. -/
  peopled : ∀ family ∈ sink.families, family.samples ≠ []
  /-- The additions of a name come under the descriptor with which they were made. -/
  described : ∀ family ∈ sink.families, ∀ addition ∈ named family.descriptor.name additions,
    addition.descriptor = family.descriptor
  /-- The labels of a descriptor, if they are different, stand each with the own value of a sample. -/
  paired : ∀ family ∈ sink.families, ∀ addition ∈ named family.descriptor.name additions,
    addition.descriptor.labels.Nodup →
      (family.sampleLabels addition.sample).keys = addition.descriptor.labels ∧
        (family.sampleLabels addition.sample).values = addition.labels

variable {additions : List Addition}

/-- The families stand under the names of their descriptors. -/
theorem names_families (additions : List Addition) :
    ((empty.insertAll additions).families.map fun family => family.descriptor.name) =
      (empty.insertAll additions).byName.keys := by
  unfold families OrderedMap.values OrderedMap.keys
  rw [List.map_map]
  -- Each family was made of additions of the name under which it stands.
  exact List.map_congr_left fun entry entered => (familyOf_insertAll additions entry entered).named

section Listed

variable {family : Family} (listed : family ∈ (empty.insertAll additions).families)

include listed

/-- A family is made of all additions of its name, with the descriptor of the first one. -/
theorem eq_of_listed :
    ∃ first ∈ named family.descriptor.name additions,
      family = ⟨first.descriptor, (named family.descriptor.name additions).map Addition.sample⟩ := by
  obtain ⟨⟨name, family⟩, entered, rfl⟩ := List.mem_map.mp listed
  have own : family.descriptor.name = name := (familyOf_insertAll additions _ entered).named
  -- No name stands twice in the sink, so the family is the one that is found under it.
  have found := OrderedMap.get?_of_mem (distinct_insertAll additions) entered
  rw [get?_insertAll] at found
  obtain ⟨first, head, same⟩ := Option.map_eq_some_iff.mp found
  dsimp only
  rw [own]
  exact ⟨first, List.mem_of_mem_head? head, same.symm⟩

/-- Where a name has one descriptor, a family has that of each addition, not of the first one alone. -/
theorem descriptor_of_named (alike : SameByName (additions.map Addition.descriptor))
    {addition : Addition} (inside : addition ∈ named family.descriptor.name additions) :
    addition.descriptor = family.descriptor := by
  -- The first addition of the name has opened the family.
  obtain ⟨first, firstInside, same⟩ := eq_of_listed listed
  have opened : first.descriptor = family.descriptor := by rw [same]
  obtain ⟨known, sameName⟩ := List.mem_filter.mp inside
  obtain ⟨firstKnown, -⟩ := List.mem_filter.mp firstInside
  rw [← opened]
  apply alike _ (List.mem_map_of_mem known) _ (List.mem_map_of_mem firstKnown)
  rw [opened]
  exact of_decide_eq_true sameName

end Listed

/-- Complete additions are grouped by their names, if descriptors of one name are the same. -/
theorem groups_insertAll (alike : SameByName (additions.map Addition.descriptor))
    (complete : ∀ addition ∈ additions, addition.Complete) :
    (empty.insertAll additions).Groups additions where
  ordered := by rw [names_families, keys_insertAll]
  sampled := by
    intro family listed
    obtain ⟨first, -, same⟩ := eq_of_listed listed
    exact congrArg Family.samples same
  peopled := by
    intro family listed
    obtain ⟨first, firstInside, same⟩ := eq_of_listed listed
    -- The first addition of the name has left its sample in the family.
    rw [same]
    exact List.ne_nil_of_mem (List.mem_map_of_mem firstInside)
  described := by
    intro family listed addition inside
    exact descriptor_of_named listed alike inside
  paired := by
    intro family listed addition inside distinct
    have same : addition.descriptor = family.descriptor := descriptor_of_named listed alike inside
    have whole : addition.labels.length = addition.descriptor.labels.length :=
      complete addition (List.mem_of_mem_filter inside)
    -- The labels of the addition are those of the family, which gives the sample its names.
    rw [same] at distinct whole ⊢
    exact Family.sampleLabels_paired distinct whole

/--
A sink is a faithful grouping of what is added to it.

A call is refused exactly if it does not have one value for each label, and then it leaves the sink
as it was, whatever this holds. After any calls, with the same descriptor for each name, the families
stand in the order in which their names were first taken, and each has the samples of all taken calls
of its name in their order, with their own values for the labels.
-/
theorem calls_grouped {calls : List Addition}
    (alike : SameByName (calls.map Addition.descriptor)) :
    (∀ (sink : Sink) (call : Addition), sink.Answers call) ∧
      (empty.recordAll calls).Groups (calls.filter Addition.Complete) := by
  refine ⟨answers, ?_⟩
  rw [recordAll_eq]
  apply groups_insertAll
  · -- What is taken is among the calls, whose descriptors are the same for each name.
    have among : (calls.filter Addition.Complete).map Addition.descriptor ⊆
        calls.map Addition.descriptor := List.map_subset _ (List.filter_subset_self _)
    intro first firstTaken second secondTaken
    exact alike first (among firstTaken) second (among secondTaken)
  · intro addition taken
    simpa using (List.mem_filter.mp taken).2

/-- A name whose first call is refused stands behind one that is taken in the meantime. -/
theorem refused_call_keeps_no_place :
    let load := describe "link" "load" "load of a link" ["name", "link"]
    let seen := describe "link" "seen_total" "" ["name"] .counter
    let calls : List Addition :=
      [⟨seen, 1.0, []⟩, ⟨load, 2.0, [some "gw1", some "a"]⟩, ⟨seen, 3.0, [some "gw1"]⟩,
        ⟨load, 4.0, [some "gw1"]⟩, ⟨load, 5.0, [some "gw1", none]⟩]
    let sink := empty.recordAll calls
    SameByName (calls.map Addition.descriptor) ∧
      record ⟨seen, 1.0, []⟩ empty = .error (.labelCount "mikrotik_link_seen_total" 0 1) empty ∧
      (sink.families.map fun family => family.descriptor.name) =
        ["mikrotik_link_load", "mikrotik_link_seen_total"] ∧
      sink.Groups (calls.filter Addition.Complete) := by
  intro load seen calls sink
  have alike : SameByName (calls.map Addition.descriptor) := by
    unfold SameByName
    decide +kernel
  obtain ⟨answered, grouped⟩ := calls_grouped alike
  refine ⟨alike, (answered empty ⟨seen, 1.0, []⟩).refused (by decide), ?_, grouped⟩
  -- The names come from the calls that are taken, of which the second one is the first.
  exact grouped.ordered.trans (by decide +kernel)

end Sink

end RouterMetrics.Metric
