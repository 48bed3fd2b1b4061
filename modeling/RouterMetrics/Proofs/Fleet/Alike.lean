import RouterMetrics.Proofs.Fleet.Round
import RouterMetrics.Proofs.Session.Alike

/-!
Scrapes that cannot be told apart.

A scrape depends on the device, on the client that is kept of it and on what the network has in store
for its endpoint, and on nothing else.
-/

namespace RouterMetrics.Collector

open RouterMetrics.Session (Line)

/-- A script takes the same course on lines that are alike. -/
theorem Script.course_alike {α : Type} (script : Script α) {line other : Line}
    (alike : line.Alike other) :
    (script.course line).line.Alike (script.course other).line ∧
      (script.course line).added = (script.course other).added ∧
      (script.course line).outcome = (script.course other).outcome := by
  induction script generalizing line other with
  | finish outcome => exact ⟨alike, rfl, rfl⟩
  | add added next ih =>
    obtain ⟨left, more, outcome⟩ := ih alike
    exact ⟨left, congrArg added.followedBy more, outcome⟩
  | ask words next ih =>
    -- The answer is the same, so the script goes on in the same way.
    obtain ⟨answer, after⟩ := Session.Exchange.alike alike words
    simp only [course, answer]
    exact ih _ after

end RouterMetrics.Collector

namespace RouterMetrics.Fleet

open RouterMetrics.Session

/-- What two visits have kept gets the same answers. -/
abbrev KeptAlike : Option Client → Option Client → Prop := Option.Rel Client.Alike

/-- What is kept gets the same answers as itself. -/
theorem KeptAlike.refl (kept : Option Client) : KeptAlike kept kept := by
  -- A client is alike to itself.
  cases kept with
  | none => exact .none
  | some client => exact .some (.refl client)

/-- Two visits to the same device, whose clients and networks cannot be told apart there. -/
structure Visit.Alike (visit other : Visit) : Prop where
  same : visit.SameMember other
  kept : KeptAlike visit.member.kept other.member.kept
  network : visit.network.Alike visit.member.endpoint other.network

/-- The same turns were taken on both sides, and the same was collected in them. -/
structure TurnsAlike (visit other : Visit) (taken taken' : List Turn × Visit) : Prop where
  turns : taken.1 = taken'.1
  kept : KeptAlike taken.2.member.kept taken'.2.member.kept
  collected : ∃ added, taken.2.ledger = visit.ledger.followedBy added ∧
    taken'.2.ledger = other.ledger.followedBy added

/-- Dropping the clients leaves none on both sides. -/
theorem KeptAlike.drop {visit other : Visit} (alike : KeptAlike visit.member.kept other.member.kept) :
    KeptAlike visit.drop.member.kept other.drop.member.kept := by
  unfold Visit.drop
  cases kept : visit.member.kept <;> cases kept' : other.member.kept <;> rw [kept, kept'] at alike
  -- Where no client is kept, nothing is dropped.
  case none.none => simp [kept, kept']
  case some.some => exact .none
  all_goals cases alike

/-- What the network has in store stays when the client is dropped. -/
theorem Visit.drop_attempts (visit : Visit) :
    visit.drop.network.attempts = visit.network.attempts := by
  -- Dropping a client only closes its connection.
  unfold Visit.drop
  split <;> rfl

/-- One turn with clients that are alike takes the same course. -/
theorem turnCourse_alike (assignment : Assignment) {client client' : Client} {visit other : Visit}
    (device : other.member.device = visit.member.device) (alike : client.Alike client') :
    (turnCourse assignment client visit).line.Alike (turnCourse assignment client' other).line ∧
      (turnCourse assignment client visit).added = (turnCourse assignment client' other).added ∧
      (turnCourse assignment client visit).outcome =
        (turnCourse assignment client' other).outcome := by
  -- The script is the same on both lines, as it is made for the same device.
  have onLines : (visit.line client).Alike (other.line client') := alike
  unfold turnCourse
  rw [device]
  exact Collector.Script.course_alike _ onLines

/-- Turns are alike if a first one, in which the same is collected, is followed by such turns. -/
theorem TurnsAlike.cons {visit other middle middle' : Visit} {left left' : List Turn × Visit}
    {added : Metric.Ledger} (collected : middle.ledger = visit.ledger.followedBy added)
    (collected' : middle'.ledger = other.ledger.followedBy added)
    (later : TurnsAlike middle middle' left left') (turn : Turn) :
    TurnsAlike visit other (turn :: left.1, left.2) (turn :: left'.1, left'.2) := by
  obtain ⟨turns, kept, more, added_left, added_left'⟩ := later
  -- The samples of the later turns stand behind those of the first one, on both sides.
  refine ⟨congrArg (turn :: ·) turns, kept, added.followedBy more, ?_, ?_⟩
  · rw [← Metric.Ledger.followedBy_assoc, ← collected, added_left]
  · rw [← Metric.Ledger.followedBy_assoc, ← collected', added_left']

/-- Turns with clients that are alike are the same turns, in which the same is collected. -/
theorem takeTurns_alike {assignments : List Assignment}
    (registered : ∀ assignment ∈ assignments, assignment.collector ∈ Collector.all)
    {client client' : Client} {visit other : Visit}
    (device : other.member.device = visit.member.device) (alike : client.Alike client')
    (kept : KeptAlike visit.member.kept other.member.kept) :
    TurnsAlike visit other (takeTurns client visit assignments)
      (takeTurns client' other assignments) := by
  -- The induction is on the collectors; each turn leaves clients that are alike again.
  induction assignments generalizing client client' visit other with
  | nil => exact ⟨rfl, kept, .empty, by simp [takeTurns], by simp [takeTurns]⟩
  | cons assignment later ih =>
    have known := registered assignment List.mem_cons_self
    obtain ⟨left, added, outcome⟩ := turnCourse_alike assignment device alike
    have enabled : ∀ next ∈ later, next.collector ∈ Collector.all := fun next member =>
      registered next (List.mem_cons_of_mem assignment member)
    have keptAfter : KeptAlike (turnVisit assignment client visit).member.kept
        (turnVisit assignment client' other).member.kept := .some left
    have ledger : (turnVisit assignment client visit).ledger =
        visit.ledger.followedBy (turnCourse assignment client' other).added := by
      rw [← added]
      rfl
    have ledger' : (turnVisit assignment client' other).ledger =
        other.ledger.followedBy (turnCourse assignment client' other).added := rfl
    have others : TurnsAlike (turnVisit assignment client visit) (turnVisit assignment client' other)
        (takeTurns (turnCourse assignment client visit).line.client _ later)
        (takeTurns (turnCourse assignment client' other).line.client _ later) :=
      ih enabled device left keptAfter
    rw [takeTurns_step, takeTurns_step, takeTurn_eq known, takeTurn_eq known]
    dsimp only
    rw [outcome]
    cases sequelOf _ with
    | onward => exact others.cons ledger ledger' _
    | dropped =>
      exact ⟨rfl, keptAfter.drop, _, (Visit.drop_ledger _).trans ledger, Visit.drop_ledger _⟩
    | ended => exact ⟨rfl, keptAfter, _, ledger, rfl⟩

/-- Turns leave in store what there was. -/
theorem takeTurns_attempts {assignments : List Assignment}
    (registered : ∀ assignment ∈ assignments, assignment.collector ∈ Collector.all)
    (client : Client) (visit : Visit) :
    (takeTurns client visit assignments).2.network.attempts = visit.network.attempts := by
  -- The induction is on the collectors: one turn after another leaves the attempts alone.
  induction assignments generalizing client visit with
  | nil => rfl
  | cons assignment later ih =>
    have known := registered assignment List.mem_cons_self
    have goesOn := ih (fun next member => registered next (List.mem_cons_of_mem assignment member))
      (turnCourse assignment client visit).line.client (turnVisit assignment client visit)
    rw [takeTurns_step, takeTurn_eq known]
    dsimp only
    cases sequelOf _ with
    | onward => exact goesOn
    | dropped => exact Visit.drop_attempts _
    | ended => rfl

namespace Visit.Alike

variable {visit other : Visit}

/-- What happens on lines that are alike leaves visits alike. -/
theorem after (alike : visit.Alike other) {line line' : Line} (left : line.Alike line') :
    (visit.after line).Alike (other.after line') where
  -- The clients are what has become of the lines.
  same := by
    obtain ⟨kept, member⟩ := alike.same
    refine ⟨some line'.client, ?_⟩
    simp [Visit.after, Visit.keeping, member]
  kept := .some left
  network := alike.network

/-- Notices make no difference. -/
theorem notify (alike : visit.Alike other) (notice notice' : Notice) :
    (visit.notify notice).Alike (other.notify notice') := ⟨alike.same, alike.kept, alike.network⟩

/-- Dropping the clients leaves visits alike. -/
theorem drop (alike : visit.Alike other) : visit.drop.Alike other.drop where
  -- The device stays the same, and neither side keeps a client.
  same := by
    obtain ⟨kept, member⟩ := alike.same
    obtain ⟨_, dropped⟩ := visit.drop_sameMember
    obtain ⟨kept', dropped'⟩ := other.drop_sameMember
    exact ⟨kept', by rw [dropped', member, dropped]⟩
  kept := KeptAlike.drop alike.kept
  network := by
    obtain ⟨kept, dropped⟩ := visit.drop_sameMember
    unfold Network.Alike
    rw [visit.drop_attempts, other.drop_attempts, dropped]
    exact alike.network

/-- Looking after the kept clients goes alike. -/
theorem probe (alike : visit.Alike other) :
    Agree Visit.Alike KeptAlike (Fleet.probe visit) (Fleet.probe other) := by
  have keptAlike := alike.kept
  unfold Fleet.probe
  cases kept : visit.member.kept <;> cases kept' : other.member.kept <;> rw [kept, kept'] at keptAlike
  case none.none => exact .ok .none alike
  case some.some client client' =>
    cases keptAlike with
    | some clientAlike =>
      -- The probes have the same answer, and leave the clients alike.
      have onLines : (visit.line client).Alike (other.line client') := clientAlike
      have asking := run_alike onLines identityRequest
      dsimp only
      generalize run identityRequest (visit.line client) = outcome at asking
      generalize run identityRequest (other.line client') = outcome' at asking
      cases asking with
      | ok same left =>
        subst same
        dsimp only
        split
        · exact .ok .none ((alike.after left).notify _ _).drop
        · exact .ok (.some left) (alike.after left)
      | error left =>
        dsimp only
        split
        · exact .ok .none ((alike.after left).notify _ _).drop
        · exact .error (alike.after left)
  all_goals cases keptAlike

/-- Dialling goes alike. -/
theorem dial (alike : visit.Alike other) :
    Agree Visit.Alike Client.Alike (Fleet.dial visit) (Fleet.dial other) := by
  obtain ⟨kept, member⟩ := alike.same
  -- Both dial to the same device in the same way.
  have dialling := dial_alike alike.network visit.member.security visit.member.timeout
    visit.member.device.user visit.member.device.password
  have keptAlike := alike.kept
  unfold Fleet.dial
  rw [member] at keptAlike ⊢
  dsimp only [Member.endpoint, Member.security, Member.timeout] at dialling ⊢
  generalize visit.network.dial _ _ _ _ _ = outcome at dialling ⊢
  generalize other.network.dial _ _ _ _ _ = outcome' at dialling ⊢
  cases dialling with
  | ok clientAlike left => exact .ok clientAlike ⟨⟨_, rfl⟩, .some clientAlike, left⟩
  | error left => exact .error ⟨⟨_, rfl⟩, keptAlike, left⟩

/-- Connecting goes alike. -/
theorem connect (alike : visit.Alike other) :
    Agree Visit.Alike Client.Alike (Fleet.connect visit) (Fleet.connect other) := by
  refine Agree.bind alike.probe ?_
  intro found found' later later' foundAlike laterAlike
  -- A client that was found is taken on both sides; else both dial.
  cases foundAlike with
  | some clientAlike => exact .ok clientAlike laterAlike
  | none => exact laterAlike.dial

/-- Counting the errors of the same outcome leaves visits alike. -/
theorem conclude (alike : visit.Alike other) (outcome : Outcome) :
    (visit.conclude outcome).Alike (other.conclude outcome) where
  -- The count is the same on both sides.
  same := by
    obtain ⟨kept, member⟩ := alike.same
    exact ⟨kept, by simp [Visit.conclude, member]⟩
  kept := alike.kept
  network := alike.network

end Visit.Alike

/-- Scrapes of visits that are alike go alike, collect the same, and leave the visits alike. -/
theorem scrape_alike {visit other : Visit} (registered : visit.Registered)
    (alike : visit.Alike other) :
    (scrape visit).1 = (scrape other).1 ∧ (scrape visit).2.Alike (scrape other).2 ∧
      ∃ added, (scrape visit).2.ledger = visit.ledger.followedBy added ∧
        (scrape other).2.ledger = other.ledger.followedBy added := by
  have connecting := alike.connect
  have same := connect_sameMember visit
  have ledger := connect_ledger visit
  have ledger' := connect_ledger other
  unfold scrape attend
  generalize connect visit = outcome at connecting same ledger
  generalize connect other = outcome' at connecting ledger'
  cases connecting with
  | error later =>
    -- Without a connection nothing is collected.
    refine ⟨rfl, later.conclude _, .empty, ?_, ?_⟩
    · rw [Metric.Ledger.followedBy_empty]
      exact ledger
    · rw [Metric.Ledger.followedBy_empty]
      exact ledger'
  | @ok client client' later later' clientAlike laterAlike =>
    have enabled : later.Registered := Visit.SameMember.registered same registered
    obtain ⟨turns, kept, added, collected, collected'⟩ :=
      takeTurns_alike enabled laterAlike.same.device clientAlike laterAlike.kept
    -- Both devices have the same collectors, so the turns to be taken are the same.
    have assignments : later'.member.assignments = later.member.assignments :=
      laterAlike.same.assignments
    dsimp only
    rw [assignments, turns]
    refine ⟨rfl, Visit.Alike.conclude ⟨?_, kept, ?_⟩ _, added, ?_, ?_⟩
    · obtain ⟨_, member⟩ := laterAlike.same
      obtain ⟨_, taken⟩ := takeTurns_sameMember client later later.member.assignments
      obtain ⟨_, taken'⟩ := takeTurns_sameMember client' later' later.member.assignments
      exact ⟨_, by rw [taken', member, taken]⟩
    · obtain ⟨_, taken⟩ := takeTurns_sameMember client later later.member.assignments
      unfold Network.Alike
      rw [takeTurns_attempts enabled, takeTurns_attempts enabled, taken]
      exact laterAlike.network
    · rw [← show later.ledger = visit.ledger from ledger]
      exact collected
    · rw [← show later'.ledger = other.ledger from ledger']
      exact collected'

end RouterMetrics.Fleet
