import RouterMetrics.Proofs.Decimal.Counting
import RouterMetrics.Proofs.Fleet.Courses
import RouterMetrics.Proofs.Fleet.Parallel

/-!
What the samples about scrapes tell over whole runs.

Main statement: every call gives one sample of each kind for every configured device.
The errors of a device grow by what goes wrong, and a scrape is told to be a success exactly if that is
nothing: connecting succeeds, all collectors have their turns, and their courses end well.
-/

namespace RouterMetrics.Metric

/-- The samples of the family under a name; there are none without a family. -/
def Sink.samples (sink : Sink) (name : String) : List Sample :=
  ((sink.byName.get? name).map Family.samples).getD []

/-- The family under a name has all samples of that name. -/
theorem Sink.samples_insertAll (additions : List Addition) (name : String) :
    (empty.insertAll additions).samples name = samplesOf name additions := by
  unfold Sink.samples samplesOf
  rw [Sink.get?_insertAll]
  -- A family starts with its first sample.
  cases named name additions with
  | nil => rfl
  | cons first others => rfl

/-- Items that give one sample of a name each give one for every item. -/
theorem samplesOf_flatMap {α : Type} {name : String} {additions : α → List Addition}
    {items : List α} {sample : α → Sample}
    (each : ∀ item ∈ items, samplesOf name (additions item) = [sample item]) :
    samplesOf name (items.flatMap additions) = items.map sample := by
  -- The samples of all items are those of each item in turn.
  calc samplesOf name (items.flatMap additions)
      = items.flatMap fun item => samplesOf name (additions item) := by
        simp only [samplesOf_eq_filterMap, List.filterMap_flatMap]
    _ = items.flatMap fun item => [sample item] := List.flatMap_congr each
    _ = items.map sample := List.map_eq_flatMap.symm

end RouterMetrics.Metric

namespace RouterMetrics.Fleet

open RouterMetrics.Metric
open RouterMetrics.Session

/-- A number of errors as the value of a sample. -/
def shown (errors : Nat) : Float := Decimal.nearestDouble false errors 1

namespace Visit

/-- How many errors were counted of the device before. -/
def found (visit : Visit) : Nat := visit.member.errors

/-- How many errors are counted of the device after the scrape. -/
def counted (visit : Visit) : Nat := (scrape visit).2.member.errors

end Visit

/-- A scrape is a success exactly if it has no errors. -/
theorem Outcome.isSuccess_iff (outcome : Outcome) :
    outcome.isSuccess = true ↔ outcome.errors = 0 := by
  cases outcome with
  | unreachable fault => simp [isSuccess, errors]
  | unforeseen fault => simp [isSuccess, errors]
  | visited turns =>
    -- Every turn with a fault is an error.
    simp [isSuccess, errors, List.countP_eq_zero]

section Visits

variable {visit : Visit}

/-- A scrape adds its errors to those that were counted before. -/
theorem Visit.counted_eq (visit : Visit) :
    visit.counted = visit.found + (scrape visit).1.errors := by
  -- A scrape changes the connection and the count, and it adds its errors to this.
  obtain ⟨kept, member⟩ := scrape_member visit
  unfold Visit.counted
  rw [member]
  rfl

/-- The errors of a device never decrease. -/
theorem Visit.found_le_counted (visit : Visit) : visit.found ≤ visit.counted := by
  -- Errors are only added.
  rw [visit.counted_eq]
  exact Nat.le_add_right _ _

/-- A scrape leaves the device as it is configured. -/
theorem scrape_device (visit : Visit) : (scrape visit).2.member.device = visit.member.device := by
  -- A scrape changes the connection and the count only.
  obtain ⟨kept, member⟩ := scrape_member visit
  rw [member]

/-- A scrape is a success exactly if the errors stay as they are. -/
theorem scrape_isSuccess_iff : (scrape visit).1.isSuccess = true ↔ visit.counted = visit.found := by
  -- A success is an outcome without errors.
  rw [Outcome.isSuccess_iff, visit.counted_eq]
  omega

/-- The errors grow by as many things as go wrong. -/
theorem Visit.counted_eq_failures (registered : visit.Registered) :
    visit.counted = visit.found + visit.failures := by
  -- With registered collectors there is one error for each failure.
  rw [visit.counted_eq, scrape_errors registered]

/-- The errors stay as they are exactly if the visit is flawless. -/
theorem Visit.counted_eq_found_iff (registered : visit.Registered) :
    visit.counted = visit.found ↔ visit.Flawless := by
  -- Nothing is added exactly if there is no failure.
  rw [← Visit.failures_eq_zero_iff, visit.counted_eq_failures registered]
  omega

/-- What a visit tells about the scrape is not mixed with what it collects. -/
theorem samplesOf_visit (registered : visit.Registered) (fresh : visit.afresh = visit)
    (seconds : Float) {descriptor : Descriptor} (aboutScrapes : descriptor ∈ scrapeDescriptors) :
    samplesOf descriptor.name (visit.additions seconds) =
      samplesOf descriptor.name
        (scrapeAdditions seconds (scrape visit).1 (scrape visit).2.member) := by
  -- No collector has a metric with the name of one about scrapes.
  have apart : named descriptor.name (scrape visit).2.ledger.additions = [] := by
    refine List.filter_eq_nil_iff.mpr fun addition inside same => ?_
    obtain ⟨assignment, enabled, sampled⟩ := scrape_sampled registered fresh addition inside
    exact scrape_name_ne aboutScrapes (registered assignment enabled) sampled.described
      (of_decide_eq_true same)
  unfold samplesOf Visit.additions
  rw [named_append, apart, List.nil_append]

end Visits

/-- The metrics about scrapes have different names. -/
theorem scrapeDescriptors_nodup : (scrapeDescriptors.map Descriptor.name).Nodup :=
  -- They stand at the front of the metrics of a fleet, which have different names.
  names_nodup.sublist ((List.sublist_append_left _ _).map _)

/-- The three samples about a scrape stand under different names. -/
theorem samplesOf_scrapeAdditions (seconds : Float) (outcome : Outcome) (member : Member) :
    let additions := scrapeAdditions seconds outcome member
    samplesOf durationDescriptor.name additions = [⟨seconds, [some member.device.name]⟩] ∧
      samplesOf successDescriptor.name additions =
        [⟨if outcome.isSuccess then 1.0 else 0.0, [some member.device.name]⟩] ∧
      samplesOf errorsDescriptor.name additions =
        [⟨shown member.errors, [some member.device.name, some member.device.address]⟩] := by
  -- What is left under each name is one sample, as the other two have other names.
  have distinct := scrapeDescriptors_nodup
  simp only [scrapeDescriptors, List.map_cons, List.map_nil, List.nodup_cons, List.mem_cons,
    List.not_mem_nil, or_false, not_or] at distinct
  obtain ⟨⟨duration_success, duration_errors⟩, success_errors, -⟩ := distinct
  simp [samplesOf, named, scrapeAdditions, Addition.sample, shown, duration_success,
    duration_errors, success_errors, Ne.symm duration_success, Ne.symm duration_errors,
    Ne.symm success_errors]

/-- A call for the metrics of all devices, and the network as it is then. -/
structure Call where
  fleet : Fleet
  seconds : Float
  network : Network

namespace Call

/-- What the call leaves behind. -/
def round (call : Call) : Round := call.fleet.collect call.seconds call.network

/-- The scrapes of the devices, one after another. -/
def visits (call : Call) : List Visit := Fleet.visits call.network call.fleet.members

/-- What a call tells about the scrapes of the configured devices. -/
structure Told (config : Config) (call : Call) : Prop where
  /-- All samples come to the sink. -/
  added : call.round.additions.foldlM Sink.add .empty = .ok call.round.sink
  /-- The samples are those that the courses of the visits add, and those about the scrapes. -/
  collected : call.round.additions = call.visits.flatMap fun visit =>
    (visit.courses.flatMap fun turn => turn.2.added.additions) ++
      scrapeAdditions call.seconds (scrape visit).1 (scrape visit).2.member
  /-- Every device is scraped once. -/
  scraped : call.visits.map (fun visit => visit.member.device) = config.devices
  /-- The collectors of a scraped device are those that are enabled for it. -/
  enabled : ∀ visit ∈ call.visits, memberOf config visit.member.device =
    .ok (.ofDevice visit.member.device visit.member.assignments)
  durations : call.round.sink.samples durationDescriptor.name =
    config.devices.map fun device => ⟨call.seconds, [some device.name]⟩
  successes : call.round.sink.samples successDescriptor.name =
    call.visits.map fun visit =>
      ⟨if visit.counted = visit.found then 1.0 else 0.0, [some visit.member.device.name]⟩
  errors : call.round.sink.samples errorsDescriptor.name =
    call.visits.map fun visit =>
      ⟨shown visit.counted, [some visit.member.device.name, some visit.member.device.address]⟩
  /-- Neither the errors nor their values decrease. -/
  grows : ∀ visit ∈ call.visits,
    visit.found ≤ visit.counted ∧ shown visit.found ≤ shown visit.counted
  /-- The errors are those from before and what goes wrong: connecting, or the courses that fail. -/
  counts : ∀ visit ∈ call.visits, visit.counted = visit.found + visit.failures
  /-- The errors are those from before exactly if connecting and all courses of collectors succeed. -/
  flawless : ∀ visit ∈ call.visits, visit.counted = visit.found ↔ visit.Flawless
  /-- Up to the largest number that doubles count one by one, the values tell the same. -/
  toldApart : ∀ visit ∈ call.visits, visit.found < 2 ^ 53 →
    (shown visit.counted = shown visit.found ↔ visit.counted = visit.found)

end Call

/-- Calls one after another: each takes the fleet as the one before has left it. -/
def calls (fleet : Fleet) : List (Float × Network) → List Call
  | [] => []
  | (seconds, network) :: later =>
      let call : Call := ⟨fleet, seconds, network⟩
      call :: calls call.round.fleet later

/-- Each call finds the errors that the one before has counted, and the first one finds these. -/
def Continues (told : List Nat) : List Call → Prop
  | [] => True
  | call :: later =>
      call.visits.map Visit.found = told ∧ Continues (call.visits.map Visit.counted) later

/-- The fleet has the devices of a configuration, with the collectors that are enabled for them. -/
structure Serves (config : Config) (fleet : Fleet) : Prop where
  devices : fleet.members.map Member.device = config.devices
  enabled : ∀ member ∈ fleet.members,
    memberOf config member.device = .ok (.ofDevice member.device member.assignments)

namespace Serves

variable {config : Config} {fleet : Fleet}

/-- The fleet of a configuration has its devices, and no errors were counted of them. -/
theorem of_configured (configured : ofConfig config = .ok fleet) :
    fleet.Serves config ∧ fleet.members.map Member.errors = config.devices.map fun _ => 0 := by
  -- The members are made of the devices, in their order, and without errors.
  have made := ofConfig_members configured
  have devices : List.Forall₂ (· = ·) config.devices (fleet.members.map Member.device) := by
    refine List.forall₂_map_right_iff.mpr (made.imp fun device member made => ?_)
    obtain ⟨features, names, assignments, -, -, -, rfl⟩ := memberOf_ok made
    rfl
  have errors : List.Forall₂ (· = ·) (config.devices.map fun _ => 0)
      (fleet.members.map Member.errors) := by
    refine List.forall₂_map_left_iff.mpr (List.forall₂_map_right_iff.mpr ?_)
    refine made.imp fun device member made => ?_
    obtain ⟨features, names, assignments, -, -, -, rfl⟩ := memberOf_ok made
    rfl
  rw [List.forall₂_eq_eq_eq] at devices errors
  refine ⟨⟨devices.symm, fun member inside => ?_⟩, errors.symm⟩
  obtain ⟨device, -, made⟩ := exists_of_forall₂ made inside
  obtain ⟨features, names, assignments, -, -, -, rfl⟩ := memberOf_ok made
  exact made

/-- A fleet that serves a configuration has registered collectors only. -/
theorem registered (serves : fleet.Serves config) : fleet.Registered := by
  -- The enabled collectors come from the configuration, which knows registered ones only.
  intro member inside assignment enabled
  exact memberOf_registered (serves.enabled member inside) assignment enabled

end Serves

namespace Call

variable {config : Config} {call : Call}

/-- Every member is scraped once, in the order of the fleet. -/
theorem visits_member (call : Call) : call.visits.map Visit.member = call.fleet.members :=
  -- A round makes one visit for each of its members.
  visits_members call.network call.fleet.members

/-- The visits are visits to members. -/
theorem member_of_visited {visit : Visit} (inside : visit ∈ call.visits) :
    visit.member ∈ call.fleet.members := by
  -- The members of the visits are those of the fleet.
  rw [← call.visits_member]
  exact List.mem_map_of_mem inside

/-- A call leaves every member as the scrape has left it. -/
theorem round_members (call : Call) :
    call.round.fleet.members = call.visits.map fun visit => (scrape visit).2.member := by
  show (call.fleet.collect call.seconds call.network).members = _
  rw [(collect_visits call.seconds call.network call.fleet).1]
  -- Each visit is made on its own, as the devices do not share anything.
  refine List.map_congr_left fun visit inside => ?_
  rw [Visit.perform, visits_fresh call.network call.fleet.members visit inside]

/-- A call leaves the fleet with its devices and their collectors. -/
theorem round_serves (serves : call.fleet.Serves config) : call.round.fleet.Serves config where
  devices := by
    -- The devices stay as they were configured.
    rw [← serves.devices, ← call.visits_member, call.round_members, List.map_map, List.map_map]
    exact List.map_congr_left fun visit _ => scrape_device visit
  enabled := by
    -- The collectors stay as they were enabled.
    intro member inside
    rw [call.round_members] at inside
    obtain ⟨visit, visited, rfl⟩ := List.mem_map.mp inside
    obtain ⟨kept, member⟩ := scrape_member visit
    rw [member]
    exact serves.enabled visit.member (member_of_visited visited)

/-- The family of a metric about scrapes has one sample of every scrape. -/
theorem samples_round (registered : call.fleet.Registered) {descriptor : Descriptor}
    (aboutScrapes : descriptor ∈ scrapeDescriptors) {sample : Visit → Sample}
    (each : ∀ visit, samplesOf descriptor.name
      (scrapeAdditions call.seconds (scrape visit).1 (scrape visit).2.member) = [sample visit]) :
    call.round.sink.samples descriptor.name = call.visits.map sample := by
  unfold Round.sink round
  rw [Sink.samples_insertAll, (collect_visits call.seconds call.network call.fleet).2]
  -- The samples of the round are those of its visits, one visit after another.
  refine samplesOf_flatMap fun visit inside => ?_
  have known := visits_registered registered call.network visit inside
  have fresh := visits_fresh call.network call.fleet.members visit inside
  rw [samplesOf_visit known fresh call.seconds aboutScrapes, each]

/-- A call to a fleet that serves a configuration tells about all of its devices. -/
theorem told (serves : call.fleet.Serves config) : call.Told config where
  added := by
    refine Sink.foldlM_add (fun addition inside => ?_) _
    unfold round at inside
    rw [(collect_visits call.seconds call.network call.fleet).2] at inside
    obtain ⟨visit, visited, given⟩ := List.mem_flatMap.mp inside
    exact (known_visit (visits_registered serves.registered call.network visit visited)
      (visits_fresh call.network call.fleet.members visit visited) call.seconds addition given).2
  collected := by
    unfold round
    rw [(collect_visits call.seconds call.network call.fleet).2]
    refine List.flatMap_congr fun visit visited => ?_
    -- A visit of a round starts without samples, so it has only those of its own courses.
    rw [Visit.additions, scrape_collects (visits_registered serves.registered call.network visit visited)
      (visits_fresh call.network call.fleet.members visit visited)]
  scraped := by
    rw [← serves.devices, ← call.visits_member, List.map_map]
    rfl
  enabled := fun visit inside => serves.enabled visit.member (member_of_visited inside)
  durations := by
    -- The devices of the configuration are those of the visits.
    have devices := serves.devices
    rw [← call.visits_member, List.map_map] at devices
    rw [samples_round serves.registered (by simp [scrapeDescriptors]) fun visit =>
      (samplesOf_scrapeAdditions _ _ _).1, ← devices, List.map_map]
    refine List.map_congr_left fun visit _ => ?_
    rw [scrape_device]
    rfl
  successes := by
    refine samples_round serves.registered (by simp [scrapeDescriptors]) fun visit => ?_
    -- What is told is the outcome; the counter is put in its place.
    rw [(samplesOf_scrapeAdditions _ _ _).2.1, scrape_device, if_congr scrape_isSuccess_iff rfl rfl]
  errors := by
    refine samples_round serves.registered (by simp [scrapeDescriptors]) fun visit => ?_
    rw [(samplesOf_scrapeAdditions _ _ _).2.2, scrape_device]
    rfl
  grows := fun visit _ => ⟨visit.found_le_counted, Decimal.nearestDouble_mono visit.found_le_counted⟩
  counts := fun visit visited =>
    visit.counted_eq_failures (visits_registered serves.registered call.network visit visited)
  flawless := fun visit visited =>
    visit.counted_eq_found_iff (visits_registered serves.registered call.network visit visited)
  toldApart := fun visit _ small => Decimal.nearestDouble_eq_iff small visit.found_le_counted

end Call

/-- Calls to a fleet that serves a configuration tell about its devices, and continue each other. -/
theorem told_calls {config : Config} {fleet : Fleet} (serves : fleet.Serves config)
    (moments : List (Float × Network)) :
    (∀ call ∈ calls fleet moments, call.Told config) ∧
      Continues (fleet.members.map Member.errors) (calls fleet moments) := by
  -- The invariant is that the fleet serves the configuration.
  induction moments generalizing fleet with
  | nil => exact ⟨fun call none => absurd none List.not_mem_nil, trivial⟩
  | cons moment later ih =>
    obtain ⟨seconds, network⟩ := moment
    let call : Call := ⟨fleet, seconds, network⟩
    obtain ⟨toldLater, continued⟩ := ih (call.round_serves serves)
    have counted : call.round.fleet.members.map Member.errors = call.visits.map Visit.counted := by
      rw [call.round_members, List.map_map]
      rfl
    have found : call.visits.map Visit.found = fleet.members.map Member.errors := by
      rw [show fleet.members = call.visits.map Visit.member from call.visits_member.symm,
        List.map_map]
      rfl
    refine ⟨List.forall_mem_cons.mpr ⟨call.told serves, toldLater⟩, found, ?_⟩
    rw [← counted]
    exact continued

/--
The samples about scrapes are complete over every run, and tell the same.

In every call all samples come to the sink: those that the courses of the collectors have added, and
for every configured device one of its duration, one of its success and one of its errors.
The errors never decrease; there is one more for a connection that fails, or else for each course that does.
A device is told to have been scraped with success exactly if its errors are those of the call
before, of which there were none before the first one.
That is so exactly if connecting has succeeded, every enabled collector has had its turn and the course
of each has ended well.
-/
theorem scrape_samples_consistent {config : Config} {fleet : Fleet}
    (configured : ofConfig config = .ok fleet) (moments : List (Float × Network)) :
    (∀ call ∈ calls fleet moments, call.Told config) ∧
      Continues (config.devices.map fun _ => 0) (calls fleet moments) := by
  -- The run starts with no errors, and the induction over its calls carries the counts.
  obtain ⟨serves, none⟩ := Serves.of_configured configured
  rw [← none]
  exact told_calls serves moments

/-- One of two devices listens for one call; before and after it there is neither of them. -/
theorem scrape_samples_of_pair :
    ∃ fleet, ofConfig pairConfig = .ok fleet ∧
      let nowhere : Network := .ofAttempts .empty
      let run := calls fleet
        [(0.5, nowhere), (0.25, (pairPart "gw1" "10.0.0.1").network), (0.5, nowhere)]
      run.map (fun call => call.visits.map Visit.counted) = [[1, 1], [1, 2], [2, 3]] ∧
        (∀ call ∈ run, call.Told pairConfig) ∧ Continues [0, 0] run := by
  have configured : ofConfig pairConfig = .ok ⟨_⟩ := rfl
  exact ⟨_, configured, by decide +kernel, scrape_samples_consistent configured _⟩

end RouterMetrics.Fleet
