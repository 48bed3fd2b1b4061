import RouterMetrics.Proofs.Collector.LabelCount
import RouterMetrics.Proofs.Fleet.Reports

/-!
What the fleet describes before it is scraped, and what its scrapes give.

Main statement: every family that comes out of a scrape is one of those that were described, each of
its samples has one value for each label, and no collector comes up with a sample that has not.
-/

namespace RouterMetrics.Fleet

open RouterMetrics.Metric
open RouterMetrics.Session (Network)

section Distinct

variable (descriptors : List Descriptor)

/-- One more descriptor is left out if there is one of its name. -/
theorem distinct_concat (last : Descriptor) :
    distinct (descriptors ++ [last]) =
      if (distinct descriptors).any fun other => other.name == last.name then distinct descriptors
      else distinct descriptors ++ [last] := by
  -- Descriptors are looked at from the first to the last.
  simp [distinct]

/-- Descriptors with different names are some of all descriptors. -/
theorem mem_of_distinct {descriptor : Descriptor} (kept : descriptor ∈ distinct descriptors) :
    descriptor ∈ descriptors := by
  -- The induction is on the descriptors from the last one, which is kept or not.
  induction descriptors using List.reverseRecOn with
  | nil => exact kept
  | append_singleton descriptors last ih =>
    rw [distinct_concat] at kept
    split at kept
    · exact List.mem_append_left _ (ih kept)
    · exact List.mem_append.mpr ((List.mem_append.mp kept).imp_left ih)

/-- Descriptors with different names have every name once. -/
theorem distinct_nodup : ((distinct descriptors).map Descriptor.name).Nodup := by
  induction descriptors using List.reverseRecOn with
  | nil => exact List.nodup_nil
  | append_singleton descriptors last ih =>
    rw [distinct_concat]
    split
    · exact ih
    · rename_i fresh
      rw [List.map_append, List.nodup_append]
      -- A name that is added was not there.
      refine ⟨ih, List.nodup_singleton _, ?_⟩
      rintro name inside _ final rfl
      obtain ⟨other, member, same⟩ := List.mem_map.mp inside
      rw [List.mem_singleton.mp final] at same
      exact fresh (List.any_eq_true.mpr ⟨other, member, by simp [same]⟩)

/-- Of every descriptor the name is kept. -/
theorem exists_distinct {descriptor : Descriptor} (member : descriptor ∈ descriptors) :
    ∃ other ∈ distinct descriptors, other.name = descriptor.name := by
  induction descriptors using List.reverseRecOn with
  | nil => exact absurd member List.not_mem_nil
  | append_singleton descriptors last ih =>
    rw [distinct_concat]
    rcases List.mem_append.mp member with earlier | final
    · obtain ⟨other, kept, same⟩ := ih earlier
      refine ⟨other, ?_, same⟩
      split
      · exact kept
      · exact List.mem_append_left _ kept
    · obtain rfl := List.mem_singleton.mp final
      -- The last one is left out only if there is one of its name.
      split
      · rename_i known
        obtain ⟨other, kept, same⟩ := List.any_eq_true.mp known
        exact ⟨other, kept, by simpa using same⟩
      · exact ⟨descriptor, List.mem_append_right _ (List.mem_singleton_self _), rfl⟩

end Distinct

/-- The families without samples that tell beforehand what scrapes can give. -/
def described (fleet : Fleet) : List Family :=
  fleet.descriptors.map fun descriptor => ⟨descriptor, []⟩

/-- No counter has the ending in its name that is added to the names of its samples. -/
theorem family_name {descriptor : Descriptor} (known : descriptor ∈ allDescriptors)
    (samples : List Sample) : (Family.mk descriptor samples).name = descriptor.name := by
  -- The metrics of the program are looked at one by one.
  have bare : ∀ descriptor ∈ allDescriptors, (descriptor.kind == .counter &&
      Family.counterEnding.isSuffixOf descriptor.name.toList) = false := by decide +kernel
  simp [Family.name, bare descriptor known]

/-- No metric has the same label twice. -/
theorem labels_nodup : ∀ descriptor ∈ allDescriptors, descriptor.labels.Nodup := by decide +kernel

/-- The metrics of collectors have the labels of a device before all others. -/
theorem deviceLabels_first : ∀ collector ∈ Collector.all, ∀ descriptor ∈ collector.descriptors,
    deviceLabels <+: descriptor.labels := by decide +kernel

/--
A family of some scrapes of a fleet is what the fleet has described.

Only the families about scrapes may have labels other than those of a device before all others.
-/
structure AsDescribed (fleet : Fleet) (parts : List Part) (family : Family) : Prop where
  /-- Name, help, kind and label names are those of a family that was described. -/
  announced : ∃ other ∈ fleet.described, other.name = family.name ∧
    other.descriptor = family.descriptor
  /-- Every sample has one value for each label. -/
  labelled : ∀ sample ∈ family.samples,
    (family.sampleLabels sample).keys = family.descriptor.labels ∧
      (family.sampleLabels sample).values = sample.labels
  /-- A sample that was collected comes from a device, which it names first. -/
  ofDevice : family.descriptor ∉ scrapeDescriptors →
    deviceLabels <+: family.descriptor.labels ∧
      ∀ sample ∈ family.samples, ∃ part ∈ parts, ∃ addition ∈ part.additions,
        addition.descriptor = family.descriptor ∧ addition.sample = sample ∧
          [some part.member.device.name, some part.member.device.address] <+: sample.labels

section Described

variable {fleet : Fleet} (registered : fleet.Registered)

include registered

/-- A fleet describes the metrics about scrapes and those of its collectors. -/
theorem mem_descriptors_iff {descriptor : Descriptor} :
    descriptor ∈ fleet.descriptors ↔ descriptor ∈ scrapeDescriptors ∨
      ∃ member ∈ fleet.members, ∃ assignment ∈ member.assignments,
        descriptor ∈ assignment.collector.descriptors := by
  let given := scrapeDescriptors ++ fleet.members.flatMap fun (member : Member) =>
    member.assignments.flatMap fun assignment => assignment.collector.descriptors
  have known : ∀ descriptor ∈ given, descriptor ∈ allDescriptors := by
    intro descriptor inside
    rcases List.mem_append.mp inside with aboutScrapes | collected
    · exact List.mem_append_left _ aboutScrapes
    · obtain ⟨member, ofFleet, enabled⟩ := List.mem_flatMap.mp collected
      obtain ⟨assignment, enabled, described⟩ := List.mem_flatMap.mp enabled
      exact List.mem_append_right _
        (List.mem_flatMap.mpr ⟨_, registered member ofFleet assignment enabled, described⟩)
  have kept_iff : descriptor ∈ fleet.descriptors ↔ descriptor ∈ given := by
    refine ⟨mem_of_distinct given, fun inside => ?_⟩
    obtain ⟨other, kept, same⟩ := exists_distinct given inside
    -- What was kept under the name is the same metric.
    rwa [← descriptor_of_name (known other (mem_of_distinct given kept)) (known _ inside) same]
  rw [kept_iff]
  simp only [given, List.mem_append, List.mem_flatMap]

/-- A fleet describes metrics of the program only. -/
theorem descriptors_known {descriptor : Descriptor} (described : descriptor ∈ fleet.descriptors) :
    descriptor ∈ allDescriptors := by
  -- Metrics are about scrapes, or they are those of a registered collector.
  rcases (mem_descriptors_iff registered).mp described with aboutScrapes | collected
  · exact List.mem_append_left _ aboutScrapes
  · obtain ⟨member, ofFleet, assignment, enabled, given⟩ := collected
    exact List.mem_append_right _
      (List.mem_flatMap.mpr ⟨_, registered member ofFleet assignment enabled, given⟩)

/-- The described families have different names. -/
theorem described_nodup : (fleet.described.map Family.name).Nodup := by
  -- A family has the name of its descriptor.
  have names : fleet.described.map Family.name = fleet.descriptors.map Descriptor.name := by
    rw [described, List.map_map]
    exact List.map_congr_left fun descriptor kept =>
      family_name (descriptors_known registered kept) []
  rw [names]
  exact distinct_nodup _

/-- What holds of a sample of a scrape: it is described, and about the scrape or the device. -/
structure Given (fleet : Fleet) (part : Part) (addition : Addition) : Prop where
  described : addition.descriptor ∈ fleet.descriptors
  complete : addition.labels.length = addition.descriptor.labels.length
  ofDevice : addition.descriptor ∉ scrapeDescriptors →
    deviceLabels <+: addition.descriptor.labels ∧
      [some part.member.device.name, some part.member.device.address] <+: addition.labels

section Scrapes

variable {parts : List Part} (ofFleet : List.Forall₂ Part.Of fleet.members parts)

include ofFleet

/-- The samples of a scrape are described, those about the scrape as well as those of the device. -/
theorem given_of_part {part : Part} (inside : part ∈ parts) :
    ∀ addition ∈ part.additions, fleet.Given part addition := by
  intro addition added
  have known := Part.registered ofFleet registered part inside
  obtain ⟨member, ofMembers, kept, errors, same⟩ := exists_of_forall₂ ofFleet inside
  rcases List.mem_append.mp added with collected | about
  · obtain ⟨assignment, enabled, sampled⟩ := scrape_sampled known rfl addition collected
    -- The collectors of the scraped device are those of the fleet's member.
    have assigned : assignment ∈ member.assignments := by
      rw [Part.visit, same] at enabled
      exact enabled
    exact
      { described := (mem_descriptors_iff registered).mpr
          (.inr ⟨member, ofMembers, assignment, assigned, sampled.described⟩)
        complete := sampled.complete
        ofDevice := fun _ =>
          ⟨deviceLabels_first _ (known assignment enabled) _ sampled.described, sampled.ofDevice⟩ }
  · have aboutScrapes : addition.descriptor ∈ scrapeDescriptors ∧
        addition.labels.length = addition.descriptor.labels.length := by
      simp only [scrapeAdditions, List.mem_cons, List.not_mem_nil, or_false] at about
      rcases about with rfl | rfl | rfl <;> exact ⟨by simp [scrapeDescriptors], rfl⟩
    exact
      { described := (mem_descriptors_iff registered).mpr (.inl aboutScrapes.1)
        complete := aboutScrapes.2
        ofDevice := fun apart => absurd aboutScrapes.1 apart }

/-- The families of samples from scrapes are what the fleet has described. -/
theorem families_asDescribed {additions : List Addition}
    (scraped : ∀ addition ∈ additions, ∃ part ∈ parts, addition ∈ part.additions) :
    ∀ family ∈ (Sink.empty.insertAll additions).families, fleet.AsDescribed parts family := by
  intro family inside
  obtain ⟨⟨name, family⟩, entered, rfl⟩ := List.mem_map.mp inside
  have made := Sink.familyOf_insertAll additions _ entered
  dsimp only at made ⊢
  -- The family has its descriptor from a sample, and all others of the name have the same one.
  obtain ⟨first, known, opened⟩ := made.described
  obtain ⟨part, visited, added⟩ := scraped first known
  have given := given_of_part registered ofFleet visited first added
  have described : family.descriptor ∈ fleet.descriptors := opened ▸ given.described
  have samples : ∀ sample ∈ family.samples, ∃ part ∈ parts, ∃ addition ∈ part.additions,
      addition.descriptor = family.descriptor ∧ addition.sample = sample := by
    intro sample sampled
    obtain ⟨addition, known, named, same⟩ := made.sampled sample sampled
    obtain ⟨part, visited, added⟩ := scraped addition known
    have given := given_of_part registered ofFleet visited addition added
    exact ⟨part, visited, addition, added,
      descriptor_of_name (descriptors_known registered given.described)
        (descriptors_known registered described) (named.trans made.named.symm), same⟩
  exact
    { announced := ⟨⟨family.descriptor, []⟩, List.mem_map_of_mem described, rfl, rfl⟩
      labelled := by
        intro sample sampled
        obtain ⟨part, visited, addition, added, same, rfl⟩ := samples sample sampled
        have given := given_of_part registered ofFleet visited addition added
        exact Family.sampleLabels_paired
          (labels_nodup _ (descriptors_known registered described)) (same ▸ given.complete)
      ofDevice := by
        intro apart
        refine ⟨opened ▸ (given.ofDevice (opened ▸ apart)).1, fun sample sampled => ?_⟩
        obtain ⟨part, visited, addition, added, same, rfl⟩ := samples sample sampled
        have given := given_of_part registered ofFleet visited addition added
        exact ⟨part, visited, addition, added, same, rfl, (given.ofDevice (same ▸ apart)).2⟩ }

end Scrapes

end Described

namespace Call

/-- The scrapes of a call, each with the network as the one before has left it. -/
def parts (call : Call) : List Part :=
  call.visits.map fun visit => ⟨call.seconds, visit.member, visit.network⟩

/-- The samples of a call are those of its scrapes, one after another. -/
theorem additions_eq (call : Call) :
    call.round.additions = (call.parts.map Part.additions).flatten := by
  rw [round, (collect_visits call.seconds call.network call.fleet).2, List.flatMap_def, parts,
    List.map_map]
  congr 1
  refine List.map_congr_left fun visit inside => ?_
  -- A visit starts with nothing collected, as a scrape of its own does.
  have fresh := visits_fresh call.network call.fleet.members visit inside
  exact congrArg (Visit.additions call.seconds) fresh.symm

end Call

/-- The later member is the same device with the same collectors. -/
def Member.Becomes (member later : Member) : Prop :=
  ∃ kept errors, later = { member with kept, errors }

/-- The scrapes of every call are scrapes of the members with which the fleet has started. -/
theorem parts_of_calls {start : List Member} {fleet : Fleet}
    (became : List.Forall₂ Member.Becomes start fleet.members) (moments : List (Float × Network)) :
    ∀ call ∈ calls fleet moments, List.Forall₂ Part.Of start call.parts := by
  -- The invariant is that the members have only other clients and other errors.
  induction moments generalizing fleet with
  | nil => exact fun call none => absurd none List.not_mem_nil
  | cons moment later ih =>
    obtain ⟨seconds, network⟩ := moment
    let call : Call := ⟨fleet, seconds, network⟩
    rw [show fleet.members = call.visits.map Visit.member from call.visits_member.symm,
      List.forall₂_map_right_iff] at became
    refine List.forall_mem_cons.mpr ⟨List.forall₂_map_right_iff.mpr became, ih ?_⟩
    rw [call.round_members, List.forall₂_map_right_iff]
    refine became.imp fun member visit became => ?_
    obtain ⟨kept, errors, same⟩ := became
    obtain ⟨keptAfter, scraped⟩ := scrape_member visit
    exact ⟨keptAfter, _, by rw [scraped, same]⟩

/--
What is collected is what was described.

Every name is described once, and no enabled collector comes up with a sample that has more or fewer
values than labels.
Whatever is kept of the devices, whatever their networks hold for them and in whichever order the
samples come to the sink, all of them are added to families that were described.
That is so in every call of a run.
-/
theorem collected_as_described {config : Config} {fleet : Fleet}
    (configured : ofConfig config = .ok fleet) :
    (fleet.described.map Family.name).Nodup ∧
      (∀ member ∈ fleet.members, ∀ assignment ∈ member.assignments,
        Collector.Counts
          (assignment.collector.collect (.ofDevice member.device assignment.name))) ∧
      (∀ parts, List.Forall₂ Part.Of fleet.members parts →
        ∀ merged, Interleaving (parts.map Part.additions) merged →
          ∃ sink, merged.foldlM Sink.add .empty = .ok sink ∧
            ∀ family ∈ sink.families, fleet.AsDescribed parts family) ∧
      ∀ moments, ∀ call ∈ calls fleet moments,
        call.round.additions.foldlM Sink.add .empty = .ok call.round.sink ∧
          ∀ family ∈ call.round.sink.families, fleet.AsDescribed call.parts family := by
  have registered := ofConfig_registered configured
  have woven : ∀ parts, List.Forall₂ Part.Of fleet.members parts →
      ∀ merged, Interleaving (parts.map Part.additions) merged →
        merged.foldlM Sink.add .empty = .ok (Sink.empty.insertAll merged) ∧
          ∀ family ∈ (Sink.empty.insertAll merged).families, fleet.AsDescribed parts family := by
    intro parts ofFleet merged woven
    have scraped : ∀ addition ∈ merged, ∃ part ∈ parts, addition ∈ part.additions := by
      intro addition inside
      rw [woven.perm.mem_iff, ← List.flatMap_def] at inside
      exact List.mem_flatMap.mp inside
    refine ⟨Sink.foldlM_add (fun addition inside => ?_) _,
      families_asDescribed registered ofFleet scraped⟩
    obtain ⟨part, visited, added⟩ := scraped addition inside
    simp [Addition.fault?, (given_of_part registered ofFleet visited addition added).complete]
  refine ⟨described_nodup registered, fun member inside assignment enabled =>
    Collector.collect_counts (registered member inside assignment enabled) _ _,
    fun parts ofFleet merged interleaved => ⟨_, woven parts ofFleet merged interleaved⟩, ?_⟩
  intro moments call inside
  -- The samples of a call are those of its scrapes, in one of their orders.
  have members : List.Forall₂ Member.Becomes fleet.members fleet.members :=
    List.forall₂_same.mpr fun member _ => ⟨member.kept, member.errors, rfl⟩
  refine woven call.parts (parts_of_calls members moments call inside) call.round.additions ?_
  rw [call.additions_eq]
  exact .flatten _

/-- One of two devices listens and tells its load; the other one is only told to have failed. -/
theorem collected_as_described_of_pair :
    ∃ fleet, ofConfig pairConfig = .ok fleet ∧
      let call : Call := ⟨fleet, 0.5, (pairPart "gw1" "10.0.0.1").network⟩
      call.round.sink.families.map (fun family => (family.name, family.samples.length)) =
          [("mikrotik_system_routeros", 1), ("mikrotik_system_cpu_load", 1),
            ("mikrotik_scrape_device_duration_seconds", 2), ("mikrotik_scrape_device_success", 2),
            ("mikrotik_scrape_device_errors", 2)] ∧
        ∀ family ∈ call.round.sink.families, fleet.AsDescribed call.parts family := by
  -- The call is the only one of its run.
  have configured : ofConfig pairConfig = .ok ⟨_⟩ := rfl
  refine ⟨_, configured, by decide +kernel, ?_⟩
  obtain ⟨-, -, -, calls⟩ := collected_as_described configured
  exact (calls [(0.5, (pairPart "gw1" "10.0.0.1").network)] _ (List.mem_singleton_self _)).2

end RouterMetrics.Fleet
