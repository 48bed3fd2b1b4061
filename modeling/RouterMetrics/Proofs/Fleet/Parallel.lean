import RouterMetrics.Proofs.Collector.Names
import RouterMetrics.Proofs.Fleet.Alike
import RouterMetrics.Proofs.Fleet.Passage
import RouterMetrics.Proofs.Interleaving
import RouterMetrics.Proofs.Service

/-!
Devices that are scraped in parallel do not influence each other.

Main statement: the samples of a scrape depend on its own device and network only, and in whichever
order the samples of all devices come to the sink, it ends with the same families and has every sample
in that of its name.
-/

namespace RouterMetrics.Metric

/-- The samples of a name. -/
def samplesOf (name : String) (additions : List Addition) : List Sample :=
  (named name additions).map Addition.sample

/-- The samples of a name, picked one by one. -/
theorem samplesOf_eq_filterMap (name : String) (additions : List Addition) :
    samplesOf name additions = additions.filterMap fun addition =>
      if addition.descriptor.name = name then some addition.sample else none := by
  -- Picking by name and taking the sample are one step.
  rw [samplesOf, named, ← List.filterMap_eq_map, List.filterMap_filter]
  simp

/-- The same samples stand under the same descriptor, and those of each list keep their order. -/
structure Family.Rearranged (lists : List (List Addition)) (name : String)
    (family other : Family) : Prop where
  descriptor : family.descriptor = other.descriptor
  samples : family.samples.Perm other.samples
  woven : Interleaving (lists.map (samplesOf name)) family.samples

/-- What a sink has of lists of samples, in whichever order these came to it. -/
structure Sink.Comprises (sink : Sink) (lists : List (List Addition)) : Prop where
  /-- No name stands for two families. -/
  distinct : sink.byName.keys.Nodup
  /-- The names of the families are those of the samples. -/
  names : ∀ name, name ∈ sink.byName.keys ↔
    ∃ addition ∈ lists.flatten, addition.descriptor.name = name
  /-- No sample is lost: it stands in the family of its name, under its own descriptor. -/
  kept : ∀ addition ∈ lists.flatten, ∃ family,
    sink.byName.get? addition.descriptor.name = some family ∧
      family.descriptor = addition.descriptor ∧ addition.sample ∈ family.samples
  /-- There are the families of the lists one after another. -/
  sequential : sink.byName.keys.Perm (empty.insertAll lists.flatten).byName.keys
  /-- Each of these has the same samples in both sinks, as often as the lists have them. -/
  rearranged : ∀ name family, sink.byName.get? name = some family →
    ∃ other, (empty.insertAll lists.flatten).byName.get? name = some other ∧
      family.Rearranged lists name other

section Woven

variable {lists : List (List Addition)} {merged : List Addition}
  (woven : Interleaving lists merged)

include woven

/-- The families of an interleaving stand under the names of the lists one after another. -/
theorem keys_woven : (Sink.empty.insertAll merged).byName.keys.Perm
    (Sink.empty.insertAll lists.flatten).byName.keys := by
  rw [Sink.keys_insertAll, Sink.keys_insertAll]
  -- On both sides every name stands once, and the names are the same.
  refine (List.perm_ext_iff_of_nodup (OrderedMap.nodup_eraseDups _)
    (OrderedMap.nodup_eraseDups _)).mpr fun name => ?_
  rw [List.mem_eraseDups, List.mem_eraseDups]
  exact (woven.perm.map _).mem_iff

variable (uniform : ∀ addition ∈ lists.flatten, ∀ other ∈ lists.flatten,
  addition.descriptor.name = other.descriptor.name → addition.descriptor = other.descriptor)

include uniform

/-- A family of an interleaving is one of the lists one after another, rearranged. -/
theorem family_woven {name : String} {family : Family}
    (found : (Sink.empty.insertAll merged).byName.get? name = some family) :
    ∃ other, (Sink.empty.insertAll lists.flatten).byName.get? name = some other ∧
      family.Rearranged lists name other := by
  have same : (named name merged).Perm (named name lists.flatten) := woven.perm.filter _
  rw [Sink.get?_insertAll] at found ⊢
  obtain ⟨first, head, rfl⟩ := Option.map_eq_some_iff.mp found
  have inside : first ∈ named name lists.flatten :=
    same.mem_iff.mp (List.mem_of_mem_head? head)
  -- Where one list has a first sample of the name, so has the other.
  obtain ⟨first', head'⟩ : ∃ first', (named name lists.flatten).head? = some first' := by
    cases there : named name lists.flatten with
    | nil => simp [there] at inside
    | cons first' others => exact ⟨first', rfl⟩
  have inside' : first' ∈ named name lists.flatten := List.mem_of_mem_head? head'
  refine ⟨_, by rw [head']; rfl, ?_, same.map _, ?_⟩
  · obtain ⟨known, named⟩ := List.mem_filter.mp inside
    obtain ⟨known', named'⟩ := List.mem_filter.mp inside'
    refine uniform first known first' known' ?_
    rw [of_decide_eq_true named, of_decide_eq_true named']
  · have picked := woven.filterMap fun addition =>
      if addition.descriptor.name = name then some addition.sample else none
    rw [← samplesOf_eq_filterMap] at picked
    rwa [show samplesOf name = List.filterMap _ from funext (samplesOf_eq_filterMap name)]

/-- An addition of an interleaving has its sample in the family of its name and its descriptor. -/
theorem kept_woven {addition : Addition} (inside : addition ∈ lists.flatten) :
    ∃ family, (Sink.empty.insertAll merged).byName.get? addition.descriptor.name = some family ∧
      family.descriptor = addition.descriptor ∧ addition.sample ∈ family.samples := by
  obtain ⟨family, found, sampled⟩ := Sink.mem_family (woven.perm.mem_iff.mpr inside)
  refine ⟨family, found, ?_, sampled⟩
  -- The family has the descriptor of the first addition of the name.
  rw [Sink.get?_insertAll] at found
  obtain ⟨first, head, rfl⟩ := Option.map_eq_some_iff.mp found
  obtain ⟨known, same⟩ := List.mem_filter.mp (List.mem_of_mem_head? head)
  exact uniform first (woven.perm.mem_iff.mp known) addition inside (of_decide_eq_true same)

/-- A sink to which an interleaving of lists has come comprises these. -/
theorem comprises_woven : (Sink.empty.insertAll merged).Comprises lists where
  distinct := by
    rw [Sink.keys_insertAll]
    exact OrderedMap.nodup_eraseDups _
  names := by
    intro name
    rw [Sink.keys_insertAll, List.mem_eraseDups, List.mem_map]
    -- The interleaving has the additions of the lists.
    simp only [woven.perm.mem_iff]
  kept := fun _ inside => kept_woven woven uniform inside
  sequential := keys_woven woven
  rearranged := fun _ _ found => family_woven woven uniform found

end Woven

end RouterMetrics.Metric

namespace RouterMetrics.Fleet

open RouterMetrics.Metric
open RouterMetrics.Session

/-- A sample of the program, with a value for each label of its descriptor. -/
def Known (addition : Addition) : Prop :=
  addition.descriptor ∈ allDescriptors ∧ addition.fault? = none

private theorem known_scrapeAdditions (seconds : Float) (outcome : Outcome) (member : Member) :
    ∀ addition ∈ scrapeAdditions seconds outcome member, Known addition := by
  -- The samples about scrapes have one label or two.
  intro addition inside
  simp only [scrapeAdditions, List.mem_cons, List.not_mem_nil, or_false] at inside
  rcases inside with rfl | rfl | rfl <;>
    exact ⟨List.mem_append_left _ (by simp [scrapeDescriptors]), rfl⟩

/-- The samples of a registered collector's turn are known. -/
theorem known_turn {assignment : Assignment} (registered : assignment.collector ∈ Collector.all)
    (client : Client) (visit : Visit) :
    ∀ addition ∈ (turnCourse assignment client visit).added.additions, Known addition := by
  -- What a registered collector adds has a value for each of its labels.
  intro addition inside
  obtain ⟨sampled, -, -⟩ := Collector.added_scriptOf registered visit.member.device
    assignment.name (visit.line client) addition inside
  refine ⟨List.mem_append_right _ (List.mem_flatMap.mpr ⟨_, registered, sampled.described⟩), ?_⟩
  simp [Addition.fault?, sampled.complete]

/-- The samples of a visit are known. -/
theorem known_visit {visit : Visit} (registered : visit.Registered)
    (fresh : visit.afresh = visit) (seconds : Float) :
    ∀ addition ∈ visit.additions seconds, Known addition := by
  -- There is nothing to ask of a turn, as its samples are known in any case.
  have each : ∀ {assignment : Assignment}, assignment.collector ∈ Collector.all → ∀ client visit,
      (∀ addition ∈ (turnCourse assignment client visit).added.additions, Known addition) ↔ True :=
    fun known client visit => iff_true_intro (known_turn known client visit)
  refine (visit_additions registered fresh Known (fun _ => True) known_scrapeAdditions each
    seconds).mpr ?_
  exact fun _ _ => trivial

/-- The samples of visits that are alike are the same. -/
theorem additions_alike {visit other : Visit} (registered : visit.Registered)
    (alike : visit.Alike other) (fresh : visit.ledger = .empty) (fresh' : other.ledger = .empty)
    (seconds : Float) : visit.additions seconds = other.additions seconds := by
  -- The outcome is the same on both sides, and so is what was collected, from nothing.
  obtain ⟨outcome, left, added, collected, collected'⟩ := scrape_alike registered alike
  rw [fresh] at collected
  rw [fresh'] at collected'
  obtain ⟨kept, member⟩ := left.same
  unfold Visit.additions
  rw [collected, collected', outcome, member]
  rfl

/-- The scrape of one device among others: its network as it is there, and how long it took. -/
structure Part where
  seconds : Float
  member : Member
  network : Network

namespace Part

/-- The visit to the device, as it starts. -/
def visit (part : Part) : Visit := ⟨part.member, part.network, .empty, []⟩

/-- The samples of the scrape. -/
def additions (part : Part) : List Addition := part.visit.additions part.seconds

/-- The scraped device is this one, whatever client is kept of it and however many errors it had. -/
def Of (member : Member) (part : Part) : Prop :=
  ∃ kept errors, part.member = { member with kept, errors }

/-- The scrapes of a fleet with registered collectors are visits to such collectors. -/
theorem registered {members : List Member} {parts : List Part}
    (ofMembers : List.Forall₂ Of members parts)
    (enabled : ∀ member ∈ members, ∀ assignment ∈ member.assignments,
      assignment.collector ∈ Collector.all) :
    ∀ part ∈ parts, part.visit.Registered := by
  intro part inside
  obtain ⟨member, known, kept, errors, same⟩ := exists_of_forall₂ ofMembers inside
  -- Neither the client nor the errors say which collectors a device has.
  intro assignment assigned
  rw [visit, same] at assigned
  exact enabled member known assignment assigned

end Part

/-- A scrape leaves what is in store for another endpoint. -/
theorem scrape_elsewhere {visit : Visit} (registered : visit.Registered)
    (fresh : visit.afresh = visit) {other : Endpoint} (apart : other ≠ visit.member.endpoint) :
    visit.network.Alike other (scrape visit).2.network := by
  -- The passage of a scrape takes attempts from the endpoint of its device only.
  obtain ⟨count, -, passage⟩ := passage_command registered .collect
  rw [Visit.perform, fresh] at passage
  exact (passage.elsewhere apart).symm

/-- Devices at different endpoints give in a round what each of them gives alone. -/
theorem collect_undisturbed {fleet : Fleet} (registered : fleet.Registered) (seconds : Float)
    (network : Network) (apart : (fleet.members.map Member.endpoint).Nodup) :
    (fleet.collect seconds network).additions =
      fleet.members.flatMap fun member => (Part.mk seconds member network).additions := by
  -- The networks that the later devices find have the same in store for them as at the start.
  have general : ∀ (members : List Member) (later : Network),
      (∀ member ∈ members, ∀ assignment ∈ member.assignments,
        assignment.collector ∈ Collector.all) →
      (members.map Member.endpoint).Nodup →
      (∀ member ∈ members, network.Alike member.endpoint later) →
        (visits later members).flatMap (Visit.additions seconds) =
          members.flatMap fun member => (Part.mk seconds member network).additions := by
    intro members
    induction members with
    | nil => intro later _ _ _; rfl
    | cons member members ih =>
      intro later enabled apart alike
      obtain ⟨alone, apartLater⟩ := List.nodup_cons.mp apart
      let visit : Visit := ⟨member, later, .empty, []⟩
      have known : ∀ around, (Visit.mk member around .empty []).Registered :=
        fun _ => enabled member List.mem_cons_self
      have same : (Part.mk seconds member network).visit.Alike visit :=
        ⟨⟨_, rfl⟩, .refl member.kept, alike member List.mem_cons_self⟩
      have first : (Part.mk seconds member network).visit.additions seconds =
          visit.additions seconds := additions_alike (known network) same rfl rfl seconds
      have rest := ih (scrape visit).2.network
        (fun next inside => enabled next (List.mem_cons_of_mem member inside)) apartLater ?_
      · rw [visits, List.flatMap_cons, List.flatMap_cons, rest]
        exact congrArg (· ++ _) first.symm
      · intro next inside
        -- Another device has another endpoint, and its store was not touched.
        have other : next.endpoint ≠ visit.member.endpoint := by
          intro equal
          exact alone (List.mem_map.mpr ⟨next, inside, equal⟩)
        exact (alike next (List.mem_cons_of_mem member inside)).trans
          (scrape_elsewhere (known later) rfl other)
  rw [(collect_visits seconds network fleet).2]
  exact general fleet.members network registered apart fun _ _ => rfl

/--
Devices that are scraped in parallel do not influence each other.

Of its network, a scrape depends only on what is in store for its own endpoint.
In whichever order the samples come to the sink, all of them are added, and each of them then stands in
the family of its name, under its own descriptor.
The sink has the same families as if the devices had been scraped one after another, with the same
samples, and in every family the samples of each device stand in their order.
-/
theorem parallel_scrapes_independent {config : Config} {fleet : Fleet}
    (configured : ofConfig config = .ok fleet) (parts : List Part)
    (ofFleet : List.Forall₂ Part.Of fleet.members parts) :
    (∀ part ∈ parts, ∀ network, part.network.Alike part.member.endpoint network →
      { part with network }.additions = part.additions) ∧
    ∀ merged, Interleaving (parts.map Part.additions) merged →
      ∃ sink, merged.foldlM Sink.add .empty = .ok sink ∧
        sink.Comprises (parts.map Part.additions) := by
  have registered := Part.registered ofFleet (ofConfig_registered configured)
  refine ⟨?_, ?_⟩
  · intro part inside network alike
    -- The device and what is kept of it are the same in both networks.
    have same : part.visit.Alike { part with network }.visit :=
      ⟨⟨_, rfl⟩, .refl part.member.kept, alike⟩
    exact (additions_alike (registered part inside) same rfl rfl part.seconds).symm
  · intro merged woven
    have known : ∀ addition ∈ (parts.map Part.additions).flatten, Known addition := by
      intro addition inside
      rw [← List.flatMap_def] at inside
      obtain ⟨part, member, added⟩ := List.mem_flatMap.mp inside
      exact known_visit (registered part member) rfl part.seconds addition added
    refine ⟨_, Sink.foldlM_add (fun addition inside => ?_) _, comprises_woven woven ?_⟩
    · exact (known addition (woven.perm.mem_iff.mp inside)).2
    · -- Descriptors of the program with the same name are the same.
      intro addition inside other inside' named
      exact descriptor_of_name (known addition inside).1 (known other inside').1 named

/-- A configuration of two devices, of which the load is told. -/
def pairConfig : Config :=
  ⟨[{ name := "gw1", address := "10.0.0.1" }, { name := "gw2", address := "10.0.0.2" }],
    .ofList [(.text "resource", .bool true)], .empty⟩

/-- The scrape of one of the two devices; it tells its load. -/
def pairPart (name address : String) : Part :=
  let done : List UInt8 := [5, 33, 100, 111, 110, 101, 0]
  let row : List UInt8 :=
    [3, 33, 114, 101, 11, 61, 99, 112, 117, 45, 108, 111, 97, 100, 61, 51, 0] ++ done
  ⟨0.5, .ofDevice { name, address } [⟨"resource", Collector.Resource.collector⟩],
    .ofAttempts (.ofList [(⟨address, 8728⟩, [.opens none [.answer done none, .answer row none]])])⟩

/-- The second device may come first, and go on when the first one is through. -/
theorem parallel_scrapes_of_pair :
    let parts := [pairPart "gw1" "10.0.0.1", pairPart "gw2" "10.0.0.2"]
    (pairPart "gw2" "10.0.0.2").additions.length = 5 ∧
      ∃ first rest, (pairPart "gw2" "10.0.0.2").additions = first :: rest ∧
        let merged := first :: ((pairPart "gw1" "10.0.0.1").additions ++ rest)
        ∃ sink, merged.foldlM Sink.add .empty = .ok sink ∧
          sink.Comprises (parts.map Part.additions) := by
  intro parts
  have five : (pairPart "gw2" "10.0.0.2").additions.length = 5 := by decide +kernel
  obtain ⟨first, rest, given⟩ :
      ∃ first rest, (pairPart "gw2" "10.0.0.2").additions = first :: rest :=
    List.exists_cons_of_length_pos (by omega)
  have ofFleet : List.Forall₂ Part.Of
      [.ofDevice { name := "gw1", address := "10.0.0.1" }
          [⟨"resource", Collector.Resource.collector⟩],
        .ofDevice { name := "gw2", address := "10.0.0.2" }
          [⟨"resource", Collector.Resource.collector⟩]] parts :=
    .cons ⟨none, 0, rfl⟩ (.cons ⟨none, 0, rfl⟩ .nil)
  -- The second part gives its first sample, and the rest comes behind the first part.
  have woven : Interleaving (parts.map Part.additions)
      (first :: ((pairPart "gw1" "10.0.0.1").additions ++ rest)) := by
    have later := Interleaving.flatten [(pairPart "gw1" "10.0.0.1").additions, rest]
    simp only [List.flatten_cons, List.flatten_nil, List.append_nil] at later
    have taken := @Interleaving.step _ [(pairPart "gw1" "10.0.0.1").additions] [] first rest _ later
    rw [← given] at taken
    exact taken
  have configured : ofConfig pairConfig = .ok ⟨_⟩ := rfl
  exact ⟨five, first, rest, given,
    (parallel_scrapes_independent configured parts ofFleet).2 _ woven⟩

end RouterMetrics.Fleet
