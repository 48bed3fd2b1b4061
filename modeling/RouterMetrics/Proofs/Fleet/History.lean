import RouterMetrics.Fleet.Visit
import RouterMetrics.Proofs.Collector.Routine
import RouterMetrics.Proofs.Session.Login

/-! Histories: all requests that are made while a device is scraped and closed again and again. -/

namespace RouterMetrics.Fleet

open RouterMetrics.Collector (Course scriptOf)
open RouterMetrics.Session

/-- What is done to a device between the start and the end of the program. -/
inductive Command where
  /-- The device is scraped for a page of its own. -/
  | collect
  | close
deriving Repr, DecidableEq

namespace Visit

/-- All collectors of the device are registered. -/
def Registered (visit : Visit) : Prop :=
  ∀ assignment ∈ visit.member.assignments, assignment.collector ∈ Collector.all

/-- A device that was never scraped, in a network on which nothing has happened. -/
def start (device : Config.Device) (assignments : List Assignment)
    (attempts : OrderedMap Endpoint (List Attempt)) : Visit :=
  ⟨.ofDevice device assignments, .ofAttempts attempts, .empty, []⟩

/-- The visit with nothing collected and nothing noticed. -/
def afresh (visit : Visit) : Visit := { visit with ledger := .empty, notices := [] }

/-- The visit after a command. -/
def perform (visit : Visit) : Command → Visit
  | .collect => (scrape visit.afresh).2
  | .close => visit.drop

/-- The visit after commands. -/
def performAll (visit : Visit) (commands : List Command) : Visit := commands.foldl perform visit

end Visit

/-- The requests that look whether the kept client still answers. -/
def probeExchanges (visit : Visit) : List Exchange :=
  match visit.member.kept with
  | none => []
  | some client => [⟨visit.line client, identityRequest⟩]

/-- The requests on a connection that is made anew. -/
def dialExchanges (visit : Visit) : List Exchange :=
  let member := visit.member
  match Network.connect member.endpoint member.timeout visit.network with
  | .error _ _ => []
  | .ok (handshake, link) network =>
      match Network.secure member.endpoint.address member.security handshake link network with
      | .error _ _ => []
      | .ok () network =>
          loginExchanges member.device.user member.device.password ⟨.ofLink link, network.events⟩

/-- The requests that are made until a client answers. -/
def connectExchanges (visit : Visit) : List Exchange :=
  match probe visit with
  | .ok none later => probeExchanges visit ++ dialExchanges later
  | .ok (some _) _ | .error _ _ => probeExchanges visit

/-- The course of one collector's turn. -/
def turnCourse (assignment : Assignment) (client : Client) (visit : Visit) : Course Unit :=
  (scriptOf assignment.collector visit.member.device assignment.name).course (visit.line client)

/-- The visit after one collector's turn, with the client kept as it then is. -/
def turnVisit (assignment : Assignment) (client : Client) (visit : Visit) : Visit :=
  let course := turnCourse assignment client visit
  { visit.after course.line with ledger := visit.ledger.followedBy course.added }

/-- The turns that are taken, with the requests of each. -/
def turnsTaken (client : Client) (visit : Visit) :
    List Assignment → List (Assignment × List Exchange)
  | [] => []
  | assignment :: later =>
      let (turn, next, visitAfter) := takeTurn assignment client visit
      (assignment, (turnCourse assignment client visit).exchanges) ::
        match turn.fault.map consequence with
        | none | some .collectorFailed => turnsTaken next visitAfter later
        | some .connectionLost | some .sessionEnded | some .unforeseen => []

/-- The turns of a visit; without a connection there are none. -/
def visitTurns (visit : Visit) : List (Assignment × List Exchange) :=
  match connect visit with
  | .error _ _ => []
  | .ok client later => turnsTaken client later later.member.assignments

/-- The requests of one scrape. -/
def scrapeExchanges (visit : Visit) : List Exchange :=
  match connect visit with
  | .error _ _ => connectExchanges visit
  | .ok client later =>
      connectExchanges visit ++
        (turnsTaken client later later.member.assignments).flatMap Prod.snd

/-- The requests of a command. -/
def commandExchanges (visit : Visit) : Command → List Exchange
  | .collect => scrapeExchanges visit.afresh
  | .close => []

/-- The requests of all commands. -/
def history (visit : Visit) : List Command → List Exchange
  | [] => []
  | command :: later => commandExchanges visit command ++ history (visit.perform command) later

/-- A registered collector's turn goes as the course of its script says. -/
theorem takeTurn_eq {assignment : Assignment} (registered : assignment.collector ∈ Collector.all)
    (client : Client) (visit : Visit) :
    takeTurn assignment client visit =
      let course := turnCourse assignment client visit
      (⟨assignment.name, match course.outcome with | .ok () => none | .error fault => some fault⟩,
        course.line.client, turnVisit assignment client visit) := by
  -- What a script performs is what its course says, on the line that the visit gives.
  have performed := Collector.Script.perform_eq (scriptOf assignment.collector visit.member.device
    assignment.name) ⟨visit.line client, visit.ledger⟩
  rw [Collector.perform_scriptOf registered] at performed
  unfold takeTurn turnVisit turnCourse
  simp only [performed, Collector.resultOf]
  cases ((scriptOf assignment.collector visit.member.device assignment.name).course
    (visit.line client)).outcome <;> rfl

/-- A visit to the same device, whatever client is kept there. -/
def Visit.SameMember (visit later : Visit) : Prop :=
  ∃ kept, later.member = { visit.member with kept }

namespace Visit.SameMember

/-- A visit is one to the same device as itself. -/
theorem refl (visit : Visit) : visit.SameMember visit := ⟨visit.member.kept, rfl⟩

/-- Visits to the same device in turn. -/
theorem trans {visit middle later : Visit} (first : visit.SameMember middle)
    (second : middle.SameMember later) : visit.SameMember later := by
  -- Only the client and the count differ, and both are replaced again.
  obtain ⟨kept, same⟩ := second
  obtain ⟨before, earlier⟩ := first
  exact ⟨kept, by rw [same, earlier]⟩

/-- The same device has the same collectors. -/
theorem assignments {visit later : Visit} (same : visit.SameMember later) :
    later.member.assignments = visit.member.assignments := by
  -- Only the client and the count may differ.
  obtain ⟨kept, member⟩ := same
  rw [member]

/-- The same device listens at the same endpoint. -/
theorem endpoint {visit later : Visit} (same : visit.SameMember later) :
    later.member.endpoint = visit.member.endpoint := by
  -- Only the client and the count may differ.
  obtain ⟨kept, member⟩ := same
  rw [member]
  rfl

/-- The same device is described in the same way. -/
theorem device {visit later : Visit} (same : visit.SameMember later) :
    later.member.device = visit.member.device := by
  -- Only the client and the count may differ.
  obtain ⟨kept, member⟩ := same
  rw [member]

/-- The collectors of the same device are registered, too. -/
theorem registered {visit later : Visit} (same : visit.SameMember later)
    (registered : visit.Registered) : later.Registered := by
  -- The collectors are those that were registered.
  intro assignment enabled
  rw [same.assignments] at enabled
  exact registered assignment enabled

end Visit.SameMember

/-- Dropping the client changes nothing else about the device. -/
theorem Visit.drop_sameMember (visit : Visit) : visit.SameMember visit.drop := by
  unfold Visit.drop
  -- Without a kept client there is nothing to drop.
  split
  · exact .refl visit
  · exact ⟨none, rfl⟩

/-- The visit that a step ends with, also when it fails. -/
def visitOf {α ε : Type} : EStateM.Result ε Visit α → Visit
  | .ok _ visit | .error _ visit => visit

/-- Looking after the kept client changes nothing else about the device. -/
theorem probe_sameMember (visit : Visit) : visit.SameMember (visitOf (probe visit)) := by
  unfold probe
  split
  · -- No client is kept.
    exact .refl visit
  · split
    · rename_i line _
      split
      · -- An identity without rows counts as a client that does not answer.
        exact .trans ⟨_, rfl⟩ (((visit.after line).notify .emptyIdentity).drop_sameMember)
      · exact ⟨_, rfl⟩
    · rename_i fault line _
      split
      · exact .trans ⟨_, rfl⟩ (((visit.after line).notify (.stale fault)).drop_sameMember)
      · -- A fault of another kind is passed on, with the client left as it is.
        exact ⟨_, rfl⟩

/-- Connecting changes only the kept client. -/
theorem connect_sameMember (visit : Visit) : visit.SameMember (visitOf (connect visit)) := by
  have probing := probe_sameMember visit
  unfold connect
  simp only [Bind.bind, EStateM.bind]
  cases probed : probe visit with
  | error fault later =>
    rw [probed] at probing
    exact probing
  | ok found later =>
    rw [probed] at probing
    cases found with
    -- The kept client answers, and nothing else is done.
    | some client => exact probing
    | none =>
      -- A new client takes the place of one that does not answer.
      refine probing.trans ?_
      simp only [dial]
      split
      · exact ⟨_, rfl⟩
      · exact .refl later

/-- A turn is told of under the collector's name, whatever came of it. -/
theorem takeTurn_collector (assignment : Assignment) (client : Client) (visit : Visit) :
    (takeTurn assignment client visit).1.collector = assignment.name := by
  -- The report of a turn is made before its consequence is looked at.
  unfold takeTurn
  dsimp only
  split <;> rfl

/-- What follows on the turn of a collector. -/
inductive Sequel where
  /-- The next collector has its turn. -/
  | onward
  /-- The client is dropped, and there are no more turns. -/
  | dropped
  /-- There are no more turns, and the client is kept. -/
  | ended

/-- What follows on the fault of a turn, or on there being none. -/
def sequelOf (fault : Option Collector.Fault) : Sequel :=
  match fault.map consequence with
  | none | some .collectorFailed => .onward
  | some .connectionLost | some .sessionEnded => .dropped
  | some .unforeseen => .ended

/-- The turns of collectors go on as the first of them says. -/
theorem takeTurns_step (assignment : Assignment) (later : List Assignment) (client : Client)
    (visit : Visit) :
    takeTurns client visit (assignment :: later) =
      let taken := takeTurn assignment client visit
      match sequelOf taken.1.fault with
      | .onward =>
          let others := takeTurns taken.2.1 taken.2.2 later
          (taken.1 :: others.1, others.2)
      | .dropped => ([taken.1], taken.2.2.drop)
      | .ended => ([taken.1], taken.2.2) := by
  -- Of the five ways in which a turn can end, two and two are followed by the same.
  rw [takeTurns]
  unfold sequelOf
  dsimp only
  rcases (takeTurn assignment client visit).1.fault.map consequence with _ | (_ | _ | _ | _) <;> rfl

/-- Turns are taken as long as others follow on them. -/
theorem turnsTaken_step (assignment : Assignment) (later : List Assignment) (client : Client)
    (visit : Visit) :
    turnsTaken client visit (assignment :: later) =
      let taken := takeTurn assignment client visit
      (assignment, (turnCourse assignment client visit).exchanges) ::
        match sequelOf taken.1.fault with
        | .onward => turnsTaken taken.2.1 taken.2.2 later
        | .dropped | .ended => [] := by
  -- Each consequence of a fault is looked at.
  rw [turnsTaken]
  unfold sequelOf
  dsimp only
  rcases (takeTurn assignment client visit).1.fault.map consequence with _ | (_ | _ | _ | _) <;> rfl

/-- The turns of collectors change only the kept client. -/
theorem takeTurns_sameMember (client : Client) (visit : Visit) (assignments : List Assignment) :
    visit.SameMember (takeTurns client visit assignments).2 := by
  induction assignments generalizing client visit with
  | nil => exact .refl visit
  | cons assignment later ih =>
    -- One turn writes the client back, whether it succeeds or fails.
    have turned : visit.SameMember (takeTurn assignment client visit).2.2 := by
      unfold takeTurn
      dsimp only
      split <;> exact ⟨_, rfl⟩
    rw [takeTurns_step]
    dsimp only
    cases sequelOf (takeTurn assignment client visit).1.fault with
    | onward => exact turned.trans (ih _ _)
    | dropped => exact turned.trans (Visit.drop_sameMember _)
    | ended => exact turned

/-- Attending to a device changes only the kept client. -/
theorem attend_sameMember (visit : Visit) : visit.SameMember (attend visit).2 := by
  have connected := connect_sameMember visit
  unfold attend
  -- The collectors have their turns if there is a connection.
  cases met : connect visit with
  | error fault later =>
    rw [met] at connected
    exact connected
  | ok client later =>
    rw [met] at connected
    exact connected.trans (takeTurns_sameMember client later later.member.assignments)

/-- A scrape changes the kept client, and counts the errors. -/
theorem scrape_member (visit : Visit) :
    ∃ kept, (scrape visit).2.member = { visit.member with
      kept, errors := visit.member.errors + (scrape visit).1.errors } := by
  -- Attending leaves the member but for its client; the count comes behind.
  obtain ⟨kept, same⟩ := attend_sameMember visit
  refine ⟨kept, ?_⟩
  unfold scrape Visit.conclude
  dsimp only
  rw [same]

/-- A command leaves the device with its collectors. -/
theorem Visit.perform_assignments (visit : Visit) (command : Command) :
    (visit.perform command).member.assignments = visit.member.assignments := by
  cases command with
  -- Closing drops the client only.
  | close => exact visit.drop_sameMember.assignments
  -- A scrape changes the client and the count only.
  | collect =>
    obtain ⟨kept, member⟩ := scrape_member visit.afresh
    show (scrape visit.afresh).2.member.assignments = _
    rw [member]
    rfl

/-- A command leaves the device with registered collectors. -/
theorem Visit.perform_registered {visit : Visit} (registered : visit.Registered)
    (command : Command) : (visit.perform command).Registered := by
  -- The collectors stay the same.
  intro assignment enabled
  rw [visit.perform_assignments command] at enabled
  exact registered assignment enabled

end RouterMetrics.Fleet
