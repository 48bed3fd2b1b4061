import RouterMetrics.Proofs.Fleet.Dialling
import RouterMetrics.Proofs.Fleet.Passage

/-!
Dealings: the requests that commands make, each with what is held when it is made.

Every command deals with its device in such steps, whatever the device does.
-/

namespace RouterMetrics.Fleet

open RouterMetrics.Config (Device)
open RouterMetrics.Session

/-- The requests about a device that have nothing to do with logging in. -/
def Queries (device : Device) (words : List String) : Prop :=
  words = identityRequest ∨
    ∃ routine ∈ Collector.routines, ∃ name,
      (routine.conduct (.ofDevice device name)).asks words

/-- The visit is one to this device at this port. -/
def Visit.IsOf (visit : Visit) (device : Device) (port : Int) : Prop :=
  visit.member.device = device ∧ visit.member.port = port

/-- A visit to the same member is one to the same device. -/
theorem Visit.SameMember.isOf {visit later : Visit} {device : Device} {port : Int}
    (same : visit.SameMember later) (ours : visit.IsOf device port) : later.IsOf device port := by
  -- Only the client and the count may differ.
  obtain ⟨kept, member⟩ := same
  unfold Visit.IsOf
  rw [member]
  exact ours

/-- The connection has opened at the device, by all that was seen so far. -/
def Holding.Reaches (holding : Holding) (device : Device) (port : Int) (id : Nat) : Prop :=
  .connect ⟨device.address, port⟩ (.whole device.timeout) (some id) ∈ holding.network.events

/-- What has opened is not forgotten when more is seen. -/
theorem Holding.Reaches.later {holding next : Holding} {device : Device} {port : Int} {id : Nat}
    (reached : holding.Reaches device port id) {more : List Event}
    (after : next.network.events = holding.network.events ++ more) :
    next.Reaches device port id := by
  -- The opening stays among what was seen.
  unfold Holding.Reaches at reached ⊢
  rw [after]
  exact List.mem_append_left more reached

/--
What comes about from what is held at the start, and the requests that are made on the way.

Dialling needs that no client is kept; queries are made with the kept client, which can be dropped.
-/
inductive Dealings (device : Device) (port : Int) (start : Holding) :
    List Exchange → Holding → Prop
  | refl : Dealings device port start [] start
  | dialled {exchanges : List Exchange} {visit : Visit}
      (before : Dealings device port start exchanges visit.holding)
      (ours : visit.IsOf device port) (free : visit.member.kept = none) :
      Dealings device port start (exchanges ++ dialExchanges visit) (visitOf (dial visit)).holding
  | asked {exchanges : List Exchange} {client : Client} {network : Network}
      (before : Dealings device port start exchanges ⟨some client, network⟩)
      {words : List String} (allowed : Queries device words) :
      Dealings device port start (exchanges ++ [⟨⟨client, network.events⟩, words⟩])
        ⟨some (Exchange.mk ⟨client, network.events⟩ words).after.client,
          { network with events := (Exchange.mk ⟨client, network.events⟩ words).after.events }⟩
  | dropped {exchanges : List Exchange} {client : Client} {network : Network}
      (before : Dealings device port start exchanges ⟨some client, network⟩) :
      Dealings device port start exchanges
        ⟨none, { network with events := (Line.mk client network.events).close.events }⟩

namespace Dealings

variable {device : Device} {port : Int}

/-- One dealing can follow another. -/
theorem trans {start middle stop : Holding} {exchanges later : List Exchange}
    (first : Dealings device port start exchanges middle)
    (second : Dealings device port middle later stop) :
    Dealings device port start (exchanges ++ later) stop := by
  -- The induction is on the second dealing, whose requests stand behind those of the first.
  induction second with
  | refl => rwa [List.append_nil]
  | dialled _ ours free ih => rw [← List.append_assoc]; exact ih.dialled ours free
  | asked _ allowed ih => rw [← List.append_assoc]; exact ih.asked allowed
  | dropped _ ih => exact ih.dropped

/-- A collector deals with the device in the queries of its course. -/
theorem course {α : Type} (script : Collector.Script α) (client : Client) (network : Network)
    (allowed : ∀ exchange ∈ (script.course ⟨client, network.events⟩).exchanges,
      Queries device exchange.words) :
    let course := script.course ⟨client, network.events⟩
    Dealings device port ⟨some client, network⟩ course.exchanges
      ⟨some course.line.client, { network with events := course.line.events }⟩ := by
  induction script generalizing client network with
  | finish outcome => exact .refl
  | add added next ih => exact ih client network allowed
  | ask words next ih =>
    let exchange : Exchange := ⟨⟨client, network.events⟩, words⟩
    have first : Dealings device port ⟨some client, network⟩ [exchange]
        ⟨some exchange.after.client, { network with events := exchange.after.events }⟩ :=
      .asked .refl (allowed exchange List.mem_cons_self)
    -- The rest of the course starts on the line that the first query has left.
    have rest := ih exchange.answer exchange.after.client
      { network with events := exchange.after.events }
      fun other member => allowed other (List.mem_cons_of_mem exchange member)
    exact first.trans rest

/-- The requests of a dealing are queries, and those of logins. -/
theorem words {start stop : Holding} {exchanges : List Exchange}
    (dealings : Dealings device port start exchanges stop) :
    ∀ exchange ∈ exchanges, exchange.words = loginRequest device.user device.password ∨
      (∃ response, exchange.words = challengeRequest device.user response) ∨
      Queries device exchange.words := by
  -- Each dealing adds requests of one kind, or none.
  induction dealings with
  | refl => exact fun exchange member => absurd member List.not_mem_nil
  | dialled _ ours free ih =>
    refine List.forall_mem_append.mpr ⟨ih, fun exchange member => ?_⟩
    have logins := (dialling_dial free).words exchange member
    rw [ours.1] at logins
    exact logins.imp_right .inl
  | asked _ allowed ih =>
    exact List.forall_mem_append.mpr ⟨ih, by simpa using .inr (.inr allowed)⟩
  | dropped _ ih => exact ih

/-- What is seen of a dealing are its requests, behind everything that was seen before. -/
theorem events {start stop : Holding} {exchanges : List Exchange}
    (dealings : Dealings device port start exchanges stop) :
    ∃ seen, stop.network.events = start.network.events ++ seen ∧
      seen.filter Event.isSend = exchanges.flatMap Exchange.sends := by
  induction dealings with
  | refl => exact ⟨[], by simp, rfl⟩
  | @dialled _ visit _ _ free ih =>
    obtain ⟨seen, before, sends⟩ := ih
    obtain ⟨more, after, logins⟩ := (dialling_dial free).events
    refine ⟨seen ++ more, ?_, by rw [List.filter_append, sends, logins, List.flatMap_append]⟩
    rw [after, ← List.append_assoc, ← before]
    rfl
  | @asked _ client network _ words _ ih =>
    obtain ⟨seen, before, sends⟩ := ih
    let exchange : Exchange := ⟨⟨client, network.events⟩, words⟩
    refine ⟨seen ++ exchange.sends, ?_, ?_⟩
    · have after : exchange.after.events = network.events ++ exchange.sends :=
        exchange.after_keeps.2.2.2
      rw [← List.append_assoc, ← before]
      exact after
    · rw [List.filter_append, sends, exchange.filter_sends, List.flatMap_append,
        List.flatMap_singleton]
  | @dropped _ client network _ ih =>
    obtain ⟨seen, before, sends⟩ := ih
    -- Closing is seen, unless the client was closed before, but it is no request.
    by_cases closed : client.isClosed = true
    · exact ⟨seen, by simpa [Line.close, closed] using before, sends⟩
    · refine ⟨seen ++ [.closed client.link.id], ?_, ?_⟩
      · rw [← List.append_assoc, ← before]
        simp [Line.close, Line.record, closed]
      · rw [List.filter_append, sends]
        exact List.append_nil _

/-- A connection on which requests are made has opened at the device. -/
theorem reaches {start stop : Holding} {exchanges : List Exchange}
    (dealings : Dealings device port start exchanges stop)
    (before : ∀ client, start.kept = some client →
      start.Reaches device port client.link.id) :
    (∀ exchange ∈ exchanges, stop.Reaches device port exchange.connection) ∧
      ∀ client, stop.kept = some client → stop.Reaches device port client.link.id := by
  induction dealings with
  | refl => exact ⟨fun exchange member => absurd member List.not_mem_nil, before⟩
  | @dialled _ visit earlier ours free ih =>
    obtain ⟨rfl, rfl⟩ := ours
    have dialling := dialling_dial free
    obtain ⟨more, after, -⟩ := dialling.events
    refine ⟨List.forall_mem_append.mpr ⟨fun exchange member => ?_, dialling.reaches⟩,
      fun client kept => (dialling.kept client kept).2.2⟩
    exact Holding.Reaches.later (ih.1 exchange member) after
  | @asked _ client network _ words _ ih =>
    let exchange : Exchange := ⟨⟨client, network.events⟩, words⟩
    obtain ⟨-, number, -, after⟩ := exchange.after_keeps
    -- The query is made on the connection of the kept client, and leaves it there.
    have stays : ∀ id, Holding.Reaches ⟨some client, network⟩ device port id →
        Holding.Reaches ⟨some exchange.after.client,
          { network with events := exchange.after.events }⟩ device port id :=
      fun id reached => reached.later after
    have kept := stays _ (ih.2 client rfl)
    refine ⟨List.forall_mem_append.mpr ⟨fun other member => stays _ (ih.1 other member), ?_⟩, ?_⟩
    · intro other member
      rw [List.mem_singleton.mp member]
      exact kept
    · rintro _ ⟨⟩
      exact number.symm ▸ kept
  | @dropped _ client network _ ih =>
    refine ⟨fun exchange member => ?_, nofun⟩
    have reached := ih.1 exchange member
    unfold Holding.Reaches Line.close at *
    split <;> simp_all [Line.record]

end Dealings

/-- The queries of a registered collector are among those about its device. -/
theorem queries_of_turn {assignment : Assignment} (registered : assignment.collector ∈ Collector.all)
    (client : Client) (visit : Visit) :
    ∀ exchange ∈ (turnCourse assignment client visit).exchanges,
      Queries visit.member.device exchange.words := by
  rw [← Collector.routines_collectors] at registered
  obtain ⟨routine, listed, same⟩ := List.mem_map.mp registered
  intro exchange asked
  -- The script of the collector is that of its routine, and it obeys the routine's conduct.
  unfold turnCourse at asked
  rw [← same, Collector.scriptOf_routine listed] at asked
  have allowed := (routine.scripted _).obeys.asks exchange asked
  exact .inr ⟨routine, listed, assignment.name, allowed⟩

section Steps

variable {device : Device} {port : Int} {visit : Visit}

/-- Dropping what is kept makes no request. -/
theorem dealings_drop (device : Device) (port : Int) (visit : Visit) :
    Dealings device port visit.holding [] visit.drop.holding := by
  rw [Visit.drop_holding]
  cases kept : visit.member.kept with
  | none => exact .refl
  -- The client is closed, which is all.
  | some client =>
    have held : visit.holding = ⟨some client, visit.network⟩ := by rw [Visit.holding, kept]
    rw [held]
    exact .dropped .refl

/-- Looking after the kept client is at most one query. -/
theorem dealings_probe (device : Device) (port : Int) (visit : Visit) :
    Dealings device port visit.holding (probeExchanges visit) (visitOf (probe visit)).holding := by
  unfold probe probeExchanges
  cases kept : visit.member.kept with
  | none => exact .refl
  | some client =>
    have held : visit.holding = ⟨some client, visit.network⟩ := by rw [Visit.holding, kept]
    rw [held]
    have asking : Dealings device port ⟨some client, visit.network⟩
        [⟨visit.line client, identityRequest⟩]
        (visit.after (Exchange.mk (visit.line client) identityRequest).after).holding :=
      .asked .refl (.inl rfl)
    have dropping := asking.dropped
    simp only [run_eq]
    -- The client is dropped for an answer without rows and for faults that devices have.
    cases (Exchange.mk (visit.line client) identityRequest).answer with
    | ok reply =>
      cases silent : reply.rows.isEmpty with
      | true =>
        simp only [silent, if_true]
        exact dropping
      | false =>
        simp only [silent, Bool.false_eq_true, if_false]
        exact asking
    | error fault =>
      cases expected : fault.isExpected with
      | true =>
        simp only [expected, if_true]
        exact dropping
      | false =>
        simp only [expected, Bool.false_eq_true, if_false]
        exact asking

/-- Connecting is a query to the kept client, and then a login on a new connection if need be. -/
theorem dealings_connect (ours : visit.IsOf device port) :
    Dealings device port visit.holding (connectExchanges visit)
      (visitOf (connect visit)).holding := by
  have probing := dealings_probe device port visit
  have found := (passage_probe visit.member.endpoint visit).2
  have same := probe_sameMember visit
  unfold connect connectExchanges
  simp only [Bind.bind, EStateM.bind]
  cases probed : probe visit with
  | error fault later =>
    rw [probed] at probing
    exact probing
  | ok client later =>
    rw [probed] at probing found same
    cases client with
    | some client => exact probing
    | none =>
      -- Where no client answers none is kept, so that the device can be dialled.
      exact Dealings.dialled probing (same.isOf ours) found

/-- The turns of registered collectors are queries. -/
theorem dealings_turns {assignments : List Assignment}
    (registered : ∀ assignment ∈ assignments, assignment.collector ∈ Collector.all)
    {client : Client} (ours : visit.IsOf device port) (kept : visit.member.kept = some client) :
    Dealings device port visit.holding ((turnsTaken client visit assignments).flatMap Prod.snd)
      (takeTurns client visit assignments).2.holding := by
  -- The induction is on the collectors; each turn asks with the client that the one before left.
  induction assignments generalizing client visit with
  | nil => exact .refl
  | cons assignment later ih =>
    have listed := registered assignment List.mem_cons_self
    have held : visit.holding = ⟨some client, visit.network⟩ := by rw [Visit.holding, kept]
    have turned : Dealings device port visit.holding (turnCourse assignment client visit).exchanges
        (turnVisit assignment client visit).holding := by
      rw [held]
      exact .course _ client visit.network (ours.1 ▸ queries_of_turn listed client visit)
    have others : ∀ other ∈ later, other.collector ∈ Collector.all :=
      fun other member => registered other (List.mem_cons_of_mem assignment member)
    -- The visit after the turn is one to the same device, and its client is kept.
    have here : (turnVisit assignment client visit).IsOf device port := ours
    have goesOn := turned.trans (ih others here rfl)
    have drops := turned.trans (dealings_drop device port (turnVisit assignment client visit))
    rw [takeTurns_step, turnsTaken_step, takeTurn_eq listed]
    dsimp only
    cases sequelOf _ with
    | onward => exact goesOn
    | dropped => simpa using drops
    | ended => simpa using turned

/-- A command deals with its device in the requests that it makes. -/
theorem dealings_command (registered : visit.Registered) (ours : visit.IsOf device port)
    (command : Command) :
    Dealings device port visit.holding (commandExchanges visit command)
      (visit.perform command).holding := by
  cases command with
  | close => exact dealings_drop device port visit
  | collect =>
    -- What is collected and noticed does not count for requests.
    have afresh : visit.afresh.IsOf device port := ours
    have connecting := dealings_connect afresh
    have kept := (passage_connected visit.afresh).2
    have same := connect_sameMember visit.afresh
    unfold Visit.perform commandExchanges scrape attend scrapeExchanges
    cases connected : connect visit.afresh with
    | error fault later =>
      rw [connected] at connecting
      exact connecting
    | ok client later =>
      rw [connected] at connecting same kept
      have enabled : later.Registered := Visit.SameMember.registered same registered
      have here : later.IsOf device port := same.isOf afresh
      exact connecting.trans (dealings_turns enabled here kept)

/-- A command is performed on the same device. -/
theorem Visit.perform_isOf (ours : visit.IsOf device port) (command : Command) :
    (visit.perform command).IsOf device port := by
  cases command with
  -- Closing drops the client only.
  | close => exact visit.drop_sameMember.isOf ours
  -- A scrape changes the client and the count only.
  | collect =>
    obtain ⟨kept, member⟩ := scrape_member visit.afresh
    unfold Visit.IsOf Visit.perform
    rw [member]
    exact ours

/-- Commands deal with their device in the requests of their history. -/
theorem dealings_history (registered : visit.Registered) (ours : visit.IsOf device port)
    (commands : List Command) :
    Dealings device port visit.holding (history visit commands)
      (visit.performAll commands).holding := by
  -- The induction is on the commands, which are performed on the same device.
  induction commands generalizing visit with
  | nil => exact .refl
  | cons command later ih =>
    have first := dealings_command registered ours command
    exact first.trans
      (ih (Visit.perform_registered registered command) (Visit.perform_isOf ours command))

end Steps

end RouterMetrics.Fleet
