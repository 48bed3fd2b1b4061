import RouterMetrics.Proofs.Collector.Anonymous
import RouterMetrics.Proofs.Collector.Group
import RouterMetrics.Proofs.Exposition
import RouterMetrics.Proofs.Fleet.History

/-!
The samples of a round through the fleet.

Main statement: they have a text for every label exactly if no turn of a device is an anonymous one.
-/

namespace RouterMetrics.Fleet

open RouterMetrics.Metric
open RouterMetrics.Session

/-- The visits of a round, each one as it starts. -/
def visits (network : Network) : List Member → List Visit
  | [] => []
  | member :: members =>
      let visit : Visit := ⟨member, network, .empty, []⟩
      visit :: visits (scrape visit).2.network members

/-- The samples of a visit: those of the device, and those about the scrape. -/
def Visit.additions (seconds : Float) (visit : Visit) : List Addition :=
  (scrape visit).2.ledger.additions ++
    scrapeAdditions seconds (scrape visit).1 (scrape visit).2.member

/-- A turn among wireless interfaces of which one tells its state without a name. -/
def AnonymousTurn (turn : Assignment × List Exchange) : Prop :=
  turn.1.collector.name = Collector.WirelessInterface.collector.name ∧
    Collector.WirelessInterface.Anonymous turn.2

/-- Every member has one visit, in the order of the fleet. -/
theorem visits_members (network : Network) (members : List Member) :
    (visits network members).map Visit.member = members := by
  -- The induction is on the members, for any network that a visit may leave.
  induction members generalizing network with
  | nil => rfl
  | cons member members ih =>
    rw [visits, List.map_cons, ih]

/-- A visit of a round starts without samples. -/
theorem visits_fresh (network : Network) (members : List Member) :
    ∀ visit ∈ visits network members, visit.afresh = visit := by
  induction members generalizing network with
  | nil => exact fun visit member => absurd member List.not_mem_nil
  | cons first members ih =>
    intro visit member
    -- The ledger of a visit is empty where it starts, and the notices are, too.
    rcases List.mem_cons.mp member with rfl | later
    · rfl
    · exact ih _ visit later

/-- A round leaves the members as their visits do, and has the samples of all visits. -/
theorem collect_visits (seconds : Float) (network : Network) (fleet : Fleet) :
    (fleet.collect seconds network).members =
        (visits network fleet.members).map (fun visit => (visit.perform .collect).member) ∧
      (fleet.collect seconds network).additions =
        (visits network fleet.members).flatMap (Visit.additions seconds) := by
  -- The visits of the other members follow on those that were made before.
  have general : ∀ (members : List Member) (round : Round),
      (members.foldl (Round.visit seconds) round).members =
          round.members ++ (visits round.network members).map
            (fun visit => (visit.perform .collect).member) ∧
        (members.foldl (Round.visit seconds) round).additions =
          round.additions ++ (visits round.network members).flatMap (Visit.additions seconds) := by
    intro members
    induction members with
    | nil => intro round; simp [visits]
    | cons member members ih =>
      intro round
      obtain ⟨left, added⟩ := ih (round.visit seconds member)
      rw [List.foldl_cons, left, added]
      simp [visits, Round.visit, Visit.additions, Visit.perform, Visit.afresh]
  unfold collect
  simpa using general fleet.members ⟨[], network, [], []⟩

/-- Connecting collects nothing. -/
theorem connect_ledger (visit : Visit) : (visitOf (connect visit)).ledger = visit.ledger := by
  have probed : (visitOf (probe visit)).ledger = visit.ledger := by
    -- Neither looking after the client nor dialling writes into the ledger.
    unfold probe
    split
    · rfl
    · split <;> split <;> rfl
  have dialled : ∀ visit : Visit, (visitOf (dial visit)).ledger = visit.ledger := by
    intro visit
    simp only [dial]
    split <;> rfl
  unfold connect
  simp only [Bind.bind, EStateM.bind]
  cases met : probe visit with
  | error fault later =>
    rw [met] at probed
    exact probed
  | ok found later =>
    rw [met] at probed
    cases found with
    | some client => exact probed
    | none => exact (dialled later).trans probed

/-- What was collected stays when the client is dropped. -/
theorem Visit.drop_ledger (visit : Visit) : visit.drop.ledger = visit.ledger := by
  -- Dropping a client closes its connection.
  unfold Visit.drop
  split <;> rfl

/-- What holds of the samples of turns is what holds of each turn. -/
theorem takeTurns_additions {holds : Addition → Prop} {ofTurn : Assignment × List Exchange → Prop}
    {assignments : List Assignment}
    (registered : ∀ assignment ∈ assignments, assignment.collector ∈ Collector.all)
    (client : Client) (visit : Visit)
    (each : ∀ assignment ∈ assignments, ∀ client later, visit.SameMember later →
      ((∀ addition ∈ (turnCourse assignment client later).added.additions, holds addition) ↔
        ofTurn (assignment, (turnCourse assignment client later).exchanges))) :
    (∀ addition ∈ (takeTurns client visit assignments).2.ledger.additions, holds addition) ↔
      (∀ addition ∈ visit.ledger.additions, holds addition) ∧
        ∀ turn ∈ turnsTaken client visit assignments, ofTurn turn := by
  induction assignments generalizing client visit with
  | nil => simp [takeTurns, turnsTaken]
  | cons assignment later ih =>
    have taken := takeTurn_eq (registered assignment List.mem_cons_self) client visit
    -- The turn leaves the device as it is, so what is known of its turns is known of the later ones.
    have same : visit.SameMember (turnVisit assignment client visit) := ⟨_, rfl⟩
    have rest := ih (fun other member => registered other (List.mem_cons_of_mem assignment member))
      (turnCourse assignment client visit).line.client (turnVisit assignment client visit)
      fun other member client further onward =>
        each other (List.mem_cons_of_mem assignment member) client further (same.trans onward)
    have first := each assignment List.mem_cons_self client visit (.refl visit)
    -- The samples of the first turn stand behind the earlier ones.
    have added : (∀ addition ∈ (turnVisit assignment client visit).ledger.additions, holds addition) ↔
        (∀ addition ∈ visit.ledger.additions, holds addition) ∧
          ofTurn (assignment, (turnCourse assignment client visit).exchanges) := by
      rw [← first]
      exact List.forall_mem_append
    -- The scrape goes on: the samples of the later turns are added.
    have onward : (∀ addition ∈ (takeTurns (turnCourse assignment client visit).line.client
          (turnVisit assignment client visit) later).2.ledger.additions, holds addition) ↔
        (∀ addition ∈ visit.ledger.additions, holds addition) ∧
          ∀ turn ∈ (assignment, (turnCourse assignment client visit).exchanges) ::
            turnsTaken (turnCourse assignment client visit).line.client
              (turnVisit assignment client visit) later, ofTurn turn := by
      rw [rest, added, List.forall_mem_cons, and_assoc]
    -- The scrape ends: there are no later turns.
    have final : (∀ addition ∈ (turnVisit assignment client visit).ledger.additions, holds addition) ↔
        (∀ addition ∈ visit.ledger.additions, holds addition) ∧
          ∀ turn ∈ [(assignment, (turnCourse assignment client visit).exchanges)], ofTurn turn := by
      rw [added, List.forall_mem_singleton]
    -- Both of them go on, or end, by what follows on the turn.
    rw [takeTurns_step, turnsTaken_step, taken]
    dsimp only
    cases sequelOf _ with
    | onward => exact onward
    | dropped => rw [Visit.drop_ledger]; exact final
    | ended => exact final

section Scraped

variable {visit : Visit} (registered : visit.Registered) (fresh : visit.afresh = visit)

include registered fresh

/-- What holds of the samples of each turn holds of all samples that a visit collects. -/
theorem scrape_additions (holds : Addition → Prop) (ofTurn : Assignment × List Exchange → Prop)
    (each : ∀ assignment ∈ visit.member.assignments, ∀ client later, visit.SameMember later →
      ((∀ addition ∈ (turnCourse assignment client later).added.additions, holds addition) ↔
        ofTurn (assignment, (turnCourse assignment client later).exchanges))) :
    (∀ addition ∈ (scrape visit).2.ledger.additions, holds addition) ↔
      ∀ turn ∈ visitTurns visit, ofTurn turn := by
  have none : visit.ledger.additions = [] := by
    -- What was collected before has been put away.
    rw [← fresh]
    rfl
  have same := connect_sameMember visit
  have kept := connect_ledger visit
  unfold scrape attend visitTurns
  cases met : connect visit with
  -- Nothing was collected without a connection.
  | error fault later =>
    rw [met] at kept
    change (∀ addition ∈ later.ledger.additions, holds addition) ↔ _
    rw [show later.ledger = visit.ledger from kept, none]
    simp
  | ok client later =>
    rw [met] at same kept
    -- The collectors that are called are those of the visit.
    have enabled : later.member.assignments = visit.member.assignments := same.assignments
    have known : later.Registered := same.registered registered
    have turns := takeTurns_additions known client later
      fun assignment member client further onward =>
        each assignment (enabled ▸ member) client further (same.trans onward)
    refine turns.trans ?_
    rw [show later.ledger = visit.ledger from kept, none]
    simp

/-- A visit collects samples of its own device only, under the descriptors of its collectors. -/
theorem scrape_sampled :
    ∀ addition ∈ (scrape visit).2.ledger.additions, ∃ assignment ∈ visit.member.assignments,
      Collector.Sampled assignment.collector.descriptors
        (Collector.Target.ofDevice visit.member.device assignment.name).scope addition := by
  refine (scrape_additions registered fresh _ (fun _ => True) ?_).mpr fun _ _ => trivial
  -- Each sample comes from one turn, where it is one of its collector.
  intro assignment enabled client later same
  refine iff_true_intro fun addition inside => ⟨assignment, enabled, ?_⟩
  obtain ⟨sampled, -, -⟩ := Collector.added_scriptOf (registered assignment enabled)
    later.member.device assignment.name (later.line client) addition inside
  rwa [same.device] at sampled

/-- What holds of the samples about scrapes and of those of each turn holds of a whole visit. -/
theorem visit_additions (holds : Addition → Prop) (ofTurn : Assignment × List Exchange → Prop)
    (aboutScrape : ∀ seconds outcome member,
      ∀ addition ∈ scrapeAdditions seconds outcome member, holds addition)
    (each : ∀ {assignment : Assignment}, assignment.collector ∈ Collector.all → ∀ client later,
      ((∀ addition ∈ (turnCourse assignment client later).added.additions, holds addition) ↔
        ofTurn (assignment, (turnCourse assignment client later).exchanges)))
    (seconds : Float) :
    (∀ addition ∈ visit.additions seconds, holds addition) ↔ ∀ turn ∈ visitTurns visit, ofTurn turn := by
  rw [← scrape_additions registered fresh holds ofTurn fun assignment enabled client later _ =>
    each (registered assignment enabled) client later]
  -- What is said about the scrape itself holds in any case.
  unfold Visit.additions
  rw [List.forall_mem_append]
  exact and_iff_left (aboutScrape _ _ _)

end Scraped

private theorem valued_scrapeAdditions (seconds : Float) (outcome : Outcome) (member : Member) :
    ∀ addition ∈ scrapeAdditions seconds outcome member, Valued addition := by
  -- The samples about scrapes have a text for every label.
  simp [scrapeAdditions, Metric.Valued]

/-- A visit gives only texts as labels exactly if none of its turns is anonymous. -/
theorem visit_valued_iff {visit : Visit} (registered : visit.Registered)
    (fresh : visit.afresh = visit) (seconds : Float) :
    (∀ addition ∈ visit.additions seconds, Valued addition) ↔
      ∀ turn ∈ visitTurns visit, ¬ AnonymousTurn turn := by
  -- What is true of the samples about scrapes and of each turn is true of the visit.
  refine visit_additions registered fresh Valued (fun turn => ¬ AnonymousTurn turn)
    valued_scrapeAdditions ?_ seconds
  intro assignment known client visit
  exact Collector.valued_scriptOf known visit.member.device assignment.name (visit.line client)

/--
A sample in which at most the name of a wireless interface is missing.

Those of all other groups have a text for every label.
-/
def Regular (addition : Addition) : Prop :=
  (∃ group ∈ Collector.otherGroups, addition.descriptor.InGroup group) ∧ Valued addition ∨
    addition.descriptor ∈ Collector.WirelessInterface.collector.descriptors ∧
      (¬ Valued addition → addition.labels[2]? = some none)

private theorem regular_scrapeAdditions (seconds : Float) (outcome : Outcome) (member : Member) :
    ∀ addition ∈ scrapeAdditions seconds outcome member, Regular addition := by
  -- The samples about scrapes are regular.
  intro addition inside
  have described : addition.descriptor ∈ scrapeDescriptors := by
    simp only [scrapeAdditions, List.mem_cons, List.not_mem_nil, or_false] at inside
    rcases inside with rfl | rfl | rfl <;> simp [scrapeDescriptors]
  exact .inl ⟨⟨"scrape", by decide, Collector.scrape_inGroup _ described⟩,
    valued_scrapeAdditions _ _ _ addition inside⟩

/-- The samples of a registered collector's turn are regular. -/
theorem regular_turn {assignment : Assignment} (registered : assignment.collector ∈ Collector.all)
    (client : Client) (visit : Visit) :
    ∀ addition ∈ (turnCourse assignment client visit).added.additions, Regular addition := by
  intro addition inside
  obtain ⟨sampled, valued, missing⟩ := Collector.added_scriptOf registered visit.member.device
    assignment.name (visit.line client) addition inside
  by_cases wireless : assignment.collector.name = Collector.WirelessInterface.collector.name
  · -- Registered collectors of the same name are the same.
    have same : assignment.collector = Collector.WirelessInterface.collector :=
      List.inj_on_of_nodup_map Collector.all_nodup registered (by simp [Collector.all]) wireless
    exact .inr ⟨same ▸ sampled.described, missing⟩
  · exact .inl ⟨Collector.collector_inGroup registered wireless _ sampled.described, valued wireless⟩

/-- The samples of a visit are regular. -/
theorem regular_visit {visit : Visit} (registered : visit.Registered)
    (fresh : visit.afresh = visit) (seconds : Float) :
    ∀ addition ∈ visit.additions seconds, Regular addition := by
  -- Regularity holds of every turn, so there is nothing to be said of a turn's requests.
  have each : ∀ {assignment : Assignment}, assignment.collector ∈ Collector.all → ∀ client visit,
      (∀ addition ∈ (turnCourse assignment client visit).added.additions, Regular addition) ↔ True :=
    fun known client visit => iff_true_intro (regular_turn known client visit)
  refine (visit_additions registered fresh Regular (fun _ => True) regular_scrapeAdditions each
    seconds).mpr ?_
  exact fun _ _ => trivial

/-- The metrics of wireless interfaces have different labels, the name of the interface among them. -/
private theorem wireless_labels : ∀ descriptor ∈ Collector.WirelessInterface.collector.descriptors,
    descriptor.labels.Nodup ∧ 2 < descriptor.labels.length := by decide

/-- Regular samples that lack the value of a label lack it in every family under their name. -/
theorem uniform_of_regular {additions : List Addition}
    (regular : ∀ addition ∈ additions, Regular addition) : Exposition.Uniform additions := by
  intro addition inside unvalued other known named
  -- Only a wireless interface lacks a value, and its family has only its own kind of samples.
  rcases regular addition inside with ⟨-, valued⟩ | ⟨described, missing⟩
  · exact absurd valued unvalued
  rcases regular other known with ⟨group, -⟩ | ⟨wireless, -⟩
  · exact absurd named (Collector.wireless_name_ne group described)
  · obtain ⟨distinct, inRange⟩ := wireless_labels _ wireless
    exact ⟨distinct, 2, inRange, missing unvalued⟩

/-- All collectors of the fleet are registered. -/
def Registered (fleet : Fleet) : Prop :=
  ∀ member ∈ fleet.members, ∀ assignment ∈ member.assignments, assignment.collector ∈ Collector.all

section Registered

variable {fleet : Fleet} (registered : fleet.Registered) (seconds : Float) (network : Network)

include registered

/-- The visits of a round to a registered fleet are visits to registered collectors. -/
theorem visits_registered : ∀ visit ∈ visits network fleet.members, visit.Registered := by
  -- The members of the visits are those of the fleet.
  intro visit inside
  refine registered visit.member ?_
  rw [← visits_members network fleet.members]
  exact List.mem_map_of_mem inside

/-- A round leaves the fleet with its collectors. -/
theorem collect_registered : (fleet.collect seconds network).fleet.Registered := by
  intro member inside assignment enabled
  -- The members of the fleet are those that the visits left.
  change member ∈ (fleet.collect seconds network).members at inside
  rw [(collect_visits seconds network fleet).1] at inside
  obtain ⟨visit, visited, rfl⟩ := List.mem_map.mp inside
  rw [Visit.perform_assignments] at enabled
  exact visits_registered registered network visit visited assignment enabled

/-- The samples of a round are regular. -/
theorem collect_regular : ∀ addition ∈ (fleet.collect seconds network).additions, Regular addition := by
  -- Each sample of a round is one of a visit.
  rw [(collect_visits seconds network fleet).2]
  intro addition inside
  obtain ⟨visit, visited, added⟩ := List.mem_flatMap.mp inside
  exact regular_visit (visits_registered registered network visit visited)
    (visits_fresh network fleet.members visit visited) seconds addition added

/-- The samples of a round have only texts as labels exactly if no turn is anonymous. -/
theorem collect_valued_iff :
    (∀ addition ∈ (fleet.collect seconds network).additions, Valued addition) ↔
      ∀ visit ∈ visits network fleet.members, ∀ turn ∈ visitTurns visit, ¬ AnonymousTurn turn := by
  -- Visit by visit, the samples are put beside the turns.
  rw [(collect_visits seconds network fleet).2, List.forall_mem_flatMap]
  refine forall₂_congr fun visit visited => ?_
  exact visit_valued_iff (visits_registered registered network visit visited)
    (visits_fresh network fleet.members visit visited) seconds

/-- A round gives a page exactly if no turn is anonymous. -/
theorem collect_page_iff :
    (∃ text, Exposition.page (fleet.collect seconds network).sink.families = .ok text) ↔
      ∀ visit ∈ visits network fleet.members, ∀ turn ∈ visitTurns visit, ¬ AnonymousTurn turn := by
  -- The samples that lack a label's value are those of nameless interfaces only.
  rw [← collect_valued_iff registered seconds network]
  exact Exposition.page_insertAll_iff
    (uniform_of_regular (collect_regular registered seconds network))

end Registered

end RouterMetrics.Fleet
