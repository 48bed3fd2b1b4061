import RouterMetrics.Proofs.Fleet.Passage

/-!
No connection is leaked, and none is closed twice.

Main statement: after any commands the connections that are opened and not closed are exactly the
one of the kept client, which is open; and one scrape opens at most one connection.
-/

namespace RouterMetrics.Session

/-- The connection that has opened, if the event is an attempt that went well. -/
def Event.opening? : Event → Option Nat
  | .connect _ _ opened => opened
  | .handshake _ _ _ _ | .sent _ _ | .sendFailed _ _ | .closed _ => none

/-- The connection that has been closed. -/
def Event.closing? : Event → Option Nat
  | .closed id => some id
  | .connect _ _ _ | .handshake _ _ _ _ | .sent _ _ | .sendFailed _ _ => none

/-- The connections that have opened, one for each time. -/
def openings (events : List Event) : List Nat := events.filterMap Event.opening?

/-- The connections that have been closed, one for each time. -/
def closings (events : List Event) : List Nat := events.filterMap Event.closing?

/-- The connections that have opened and not been closed. -/
def stillOpen (events : List Event) : List Nat :=
  (openings events).filter fun id => id ∉ closings events

@[simp] theorem openings_append (events later : List Event) :
    openings (events ++ later) = openings events ++ openings later := List.filterMap_append

@[simp] theorem closings_append (events later : List Event) :
    closings (events ++ later) = closings events ++ closings later := List.filterMap_append

/-- A request neither opens a connection nor closes one. -/
theorem Exchange.sends_still (exchange : Exchange) :
    openings exchange.sends = [] ∧ closings exchange.sends = [] := by
  unfold Exchange.sends
  -- At most one event is seen, that of a request sent or refused.
  split
  · exact ⟨rfl, rfl⟩
  · split <;> exact ⟨rfl, rfl⟩

end RouterMetrics.Session

namespace RouterMetrics.Fleet

open RouterMetrics.Session

/-- Every connection opened is owned: by the kept client, or else it was closed once. -/
structure Holding.Tidy (holding : Holding) : Prop where
  numbered : openings holding.network.events = List.range holding.network.opened
  known : ∀ id ∈ closings holding.network.events, id < holding.network.opened
  once : (closings holding.network.events).Nodup
  owned : stillOpen holding.network.events = (holding.kept.map (·.link.id)).toList
  alive : ∀ client, holding.kept = some client → client.isClosed = false

namespace Holding.Tidy

/-- What neither opens nor closes a connection leaves everything owned as it was. -/
theorem still {network later : Network} {kept kept' : Option Client}
    (tidy : Holding.Tidy ⟨kept, network⟩) (opened : later.opened = network.opened)
    (openingsSame : openings later.events = openings network.events)
    (closingsSame : closings later.events = closings network.events)
    (number : kept'.map (·.link.id) = kept.map (·.link.id))
    (alive : ∀ client, kept' = some client → client.isClosed = false) :
    Holding.Tidy ⟨kept', later⟩ where
  -- Everything that is owned is told by what opened and closed.
  numbered := by rw [openingsSame, opened]; exact tidy.numbered
  known := by rw [closingsSame, opened]; exact tidy.known
  once := by rw [closingsSame]; exact tidy.once
  owned := by
    rw [number]
    unfold stillOpen
    rw [openingsSame, closingsSame]
    exact tidy.owned
  alive := alive

/-- A connection that opens is owned by the client on it. -/
theorem opened {network : Network} (tidy : Holding.Tidy ⟨none, network⟩) (endpoint : Endpoint)
    (timeout : Seconds) (attempts : OrderedMap Endpoint (List Attempt))
    (reactions : List Reaction) :
    Holding.Tidy ⟨some (.ofLink (.fresh network.opened reactions)),
      { network with attempts, opened := network.opened + 1 }.record
        (.connect endpoint timeout (some network.opened))⟩ := by
  have numbered : openings network.events = List.range network.opened := tidy.numbered
  have openingsAfter : openings (network.events ++
      [.connect endpoint timeout (some network.opened)]) = List.range (network.opened + 1) := by
    rw [openings_append, numbered, List.range_succ]
    rfl
  have closingsAfter : closings (network.events ++
      [.connect endpoint timeout (some network.opened)]) = closings network.events := by
    rw [closings_append]
    exact List.append_nil _
  refine ⟨openingsAfter, ?_, ?_, ?_, ?_⟩
  · intro id closed
    have before := tidy.known id (closingsAfter ▸ closed)
    exact Nat.lt_succ_of_lt before
  · exact closingsAfter.symm ▸ tidy.once
  · -- No connection was open before, and the number of the new one was never closed.
    have unowned : stillOpen network.events = [] := tidy.owned
    have fresh : network.opened ∉ closings network.events := by
      intro closed
      exact Nat.lt_irrefl _ (tidy.known _ closed)
    show stillOpen (network.events ++ [.connect endpoint timeout (some network.opened)]) =
      [network.opened]
    unfold stillOpen at unowned ⊢
    rw [openingsAfter, closingsAfter, List.range_succ, List.filter_append, ← numbered, unowned]
    simp [fresh]
  · intro client kept
    cases kept
    rfl

/-- A connection that is dropped is closed, and it was not closed before. -/
theorem dropped {client : Client} {network : Network}
    (tidy : Holding.Tidy ⟨some client, network⟩) :
    Holding.Tidy ⟨none, { network with events := (Line.mk client network.events).close.events }⟩ := by
  have isOpen : client.isClosed = false := tidy.alive client rfl
  have owned : stillOpen network.events = [client.link.id] := tidy.owned
  have mine : client.link.id ∈ stillOpen network.events := by simp [owned]
  unfold stillOpen at mine
  obtain ⟨opened, unclosed⟩ := List.mem_filter.mp mine
  have events : (Line.mk client network.events).close.events =
      network.events ++ [.closed client.link.id] := by
    simp [Line.close, Line.record, isOpen]
  rw [events]
  have openingsAfter : openings (network.events ++ [.closed client.link.id]) =
      openings network.events := by
    rw [openings_append]
    exact List.append_nil _
  have closingsAfter : closings (network.events ++ [.closed client.link.id]) =
      closings network.events ++ [client.link.id] := closings_append _ _
  refine ⟨openingsAfter.trans tidy.numbered, ?_, ?_, ?_, ?_⟩
  · intro id closed
    rw [closingsAfter] at closed
    rcases List.mem_append.mp closed with closed | closed
    · exact tidy.known id closed
    · rw [List.mem_singleton.mp closed]
      rw [tidy.numbered] at opened
      exact List.mem_range.mp opened
  · rw [closingsAfter]
    exact List.concat_eq_append ▸ tidy.once.concat (of_decide_eq_true unclosed)
  · -- The one connection that was open is the one that is closed.
    have split : stillOpen (network.events ++ [.closed client.link.id]) =
        (stillOpen network.events).filter fun id => id ≠ client.link.id := by
      unfold stillOpen
      rw [openingsAfter, closingsAfter, List.filter_filter]
      congr 1
      funext id
      simp [and_comm]
    show stillOpen (network.events ++ [.closed client.link.id]) = []
    rw [split, owned]
    simp
  · -- No client is kept.
    intro other kept
    cases kept

end Holding.Tidy

/-- Between two moments this many connections open, and nothing that was seen is forgotten. -/
def Holding.Opens (start : Holding) (count : Nat) (stop : Holding) : Prop :=
  ∃ more, stop.network.events = start.network.events ++ more ∧ (openings more).length = count

/-- What is seen next adds the connections that open in it. -/
theorem Holding.Opens.next {start middle stop : Holding} {count : Nat}
    (before : start.Opens count middle) (events : List Event)
    (seen : stop.network.events = middle.network.events ++ events) :
    start.Opens (count + (openings events).length) stop := by
  -- What is seen later stands behind what was seen before.
  obtain ⟨more, earlier, counted⟩ := before
  refine ⟨more ++ events, ?_, ?_⟩
  · rw [seen, earlier, List.append_assoc]
  · rw [openings_append, List.length_append, counted]

namespace Passage

variable {endpoint : Endpoint}

/-- Connections open on a passage as often as it counts. -/
theorem opens {start stop : Holding} {count : Nat} (passage : Passage endpoint start count stop) :
    start.Opens count stop := by
  induction passage with
  | refl => exact ⟨[], (List.append_nil _).symm, rfl⟩
  | refused _ timeout attempts ih => exact ih.next [.connect endpoint timeout none] rfl
  | @opened _ network _ timeout attempts reactions ih =>
    exact ih.next [.connect endpoint timeout (some network.opened)] rfl
  | @secured _ client _ _ host checksName checksCertificate ih =>
    exact ih.next [.handshake client.link.id host checksName checksCertificate] rfl
  | @asked _ client network _ words ih =>
    -- What is seen of a request opens nothing.
    let exchange : Exchange := ⟨⟨client, network.events⟩, words⟩
    have noOpening : (openings exchange.sends).length = 0 := by rw [exchange.sends_still.1]; rfl
    have asking : start.Opens _
        ⟨some exchange.after.client, { network with events := exchange.after.events }⟩ :=
      ih.next exchange.sends exchange.after_keeps.2.2.2
    rw [noOpening] at asking
    exact asking
  | @dropped _ client network _ ih =>
    by_cases closed : client.isClosed = true
    · -- A client that is closed is only forgotten.
      exact ih.next [] (by simp [Line.close, closed])
    · exact ih.next [.closed client.link.id] (by simp [Line.close, Line.record, closed])

/-- A passage leaves every connection owned. -/
theorem keeps_tidy {start stop : Holding} {count : Nat} (passage : Passage endpoint start count stop)
    (tidy : start.Tidy) : stop.Tidy := by
  -- The induction is on the passage; only an opening and a closing change what is owned.
  induction passage with
  | refl => exact tidy
  | refused _ timeout attempts ih =>
    refine ih.still rfl ?_ ?_ rfl nofun
    · simp [Network.record, openings, Event.opening?]
    · simp [Network.record, closings, Event.closing?]
  | opened _ timeout attempts reactions ih => exact ih.opened endpoint timeout _ reactions
  | secured _ host checksName checksCertificate ih =>
    refine ih.still rfl ?_ ?_ rfl ih.alive
    · simp [Network.record, openings, Event.opening?]
    · simp [Network.record, closings, Event.closing?]
  | @asked _ client network _ words ih =>
    -- A request is on the client's own connection, and leaves it open.
    let exchange : Exchange := ⟨⟨client, network.events⟩, words⟩
    obtain ⟨-, number, -, seen⟩ := exchange.after_keeps
    obtain ⟨noOpening, noClosing⟩ := exchange.sends_still
    refine ih.still rfl ?_ ?_ (congrArg some number)
      ((@asked endpoint _ _ _ _ .refl words).keeps_open ih.alive)
    · simp [exchange, seen, noOpening]
    · simp [exchange, seen, noClosing]
  | dropped _ ih => exact ih.dropped

end Passage

/-- What one command may open: a scrape one connection, closing none. -/
def Command.mayOpen : Command → Nat
  | .collect => 1
  | .close => 0

/-- Commands leave every connection owned. -/
theorem performAll_tidy {visit : Visit} (registered : visit.Registered) (tidy : visit.holding.Tidy)
    (commands : List Command) :
    (visit.performAll commands).Registered ∧ (visit.performAll commands).holding.Tidy := by
  -- The induction is on the commands, each of which is one passage.
  induction commands generalizing visit with
  | nil => exact ⟨registered, tidy⟩
  | cons command later ih =>
    obtain ⟨count, -, passage⟩ := passage_command registered command
    exact ih (Visit.perform_registered registered command) (passage.keeps_tidy tidy)

/--
Over all commands, connections are neither leaked nor closed twice.

Those opened and not closed are exactly the one of the kept client, and its client is open.
One more scrape opens at most one connection, and closing the device opens none.
-/
theorem connections_owned (device : Config.Device) (assignments : List Assignment)
    (attempts : OrderedMap Endpoint (List Attempt)) (commands : List Command)
    (registered : ∀ assignment ∈ assignments, assignment.collector ∈ Collector.all) :
    let visit := (Visit.start device assignments attempts).performAll commands
    let events := visit.network.events
    stillOpen events = (visit.member.kept.map (·.link.id)).toList ∧
      (∀ client, visit.member.kept = some client → client.isClosed = false) ∧
      (openings events).Nodup ∧ (closings events).Nodup ∧ closings events ⊆ openings events ∧
      ∀ command, ∃ more, (visit.perform command).network.events = events ++ more ∧
        (openings more).length ≤ command.mayOpen := by
  have tidyAtStart : (Visit.start device assignments attempts).holding.Tidy :=
    ⟨rfl, nofun, .nil, rfl, nofun⟩
  have enabled : (Visit.start device assignments attempts).Registered := registered
  obtain ⟨still, tidy⟩ := performAll_tidy enabled tidyAtStart commands
  have numbered := tidy.numbered
  refine ⟨tidy.owned, tidy.alive, ?_, tidy.once, ?_, ?_⟩
  · -- Connections are numbered in the order in which they open.
    exact numbered.symm ▸ List.nodup_range
  · intro id closed
    exact numbered.symm ▸ List.mem_range.mpr (tidy.known id closed)
  · intro command
    obtain ⟨count, few, passage⟩ := passage_command still command
    obtain ⟨more, events, counted⟩ := passage.opens
    refine ⟨more, events, ?_⟩
    cases command <;> exact counted ▸ few

/--
An encrypted device that fails in every way, one after the other.

It refuses, breaks its handshake, traps a login, ends a session within a collector, and serves.
-/
def troubledAttempts : OrderedMap Endpoint (List Attempt) :=
  let done : List UInt8 := [5, 33, 100, 111, 110, 101, 0]
  let trap : List UInt8 := [5, 33, 116, 114, 97, 112, 0]
  let fatal : List UInt8 := [6, 33, 102, 97, 116, 97, 108, 0]
  .ofList [(⟨"10.0.0.1", 8729⟩,
    [.fails .refused, .opens (some .handshake) [], .opens none [.answer (trap ++ done) none],
      .opens none [.answer done none, .answer fatal none],
      .opens none [.answer done none, .answer done none]])]

/-- Three of four connections are closed after five scrapes, each once, and the last one is kept. -/
theorem connections_owned_in_trouble :
    let visit := (Visit.start { address := "10.0.0.1", tls := true }
      [⟨"resource", Collector.Resource.collector⟩] troubledAttempts).performAll
        (List.replicate 5 .collect)
    let events := visit.network.events
    openings events = [0, 1, 2, 3] ∧ closings events = [0, 1, 2] ∧
      visit.member.kept.map (·.link.id) = some 3 ∧
      stillOpen events = (visit.member.kept.map (·.link.id)).toList ∧
      (∀ client, visit.member.kept = some client → client.isClosed = false) ∧
      (openings events).Nodup ∧ (closings events).Nodup ∧ closings events ⊆ openings events ∧
      ∀ command, ∃ more, (visit.perform command).network.events = events ++ more ∧
        (openings more).length ≤ command.mayOpen :=
  ⟨by decide +kernel, by decide +kernel, by decide +kernel,
    connections_owned { address := "10.0.0.1", tls := true }
      [⟨"resource", Collector.Resource.collector⟩] troubledAttempts (List.replicate 5 .collect)
      (by simp [Collector.all])⟩

end RouterMetrics.Fleet
