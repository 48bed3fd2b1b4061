import RouterMetrics.Proofs.Fleet.History
import RouterMetrics.Proofs.OrderedMap

/-!
No reply is taken for that of another request.

Main statement: over all commands, every request is made on a connection from which everything was
read, and none is made on a connection that an earlier request has ended.
-/

namespace RouterMetrics.Session

/-- The event is a request that was sent, or one that was refused on the way. -/
def Event.isSend : Event → Bool
  | .sent _ _ | .sendFailed _ _ => true
  | .connect _ _ _ | .handshake _ _ _ _ | .closed _ => false

/-- What can be seen of a request are requests. -/
theorem Exchange.filter_sends (exchange : Exchange) :
    exchange.sends.filter Event.isSend = exchange.sends := by
  unfold Exchange.sends
  -- A request is seen once if it was written, whether it was sent or refused, and else not at all.
  split
  · rfl
  · split <;> rfl

/-- What can be seen of several requests are requests. -/
theorem filter_flatMap_sends (exchanges : List Exchange) :
    (exchanges.flatMap Exchange.sends).filter Event.isSend = exchanges.flatMap Exchange.sends := by
  -- The induction is on the requests, none of which is seen as anything else.
  induction exchanges with
  | nil => rfl
  | cons exchange exchanges ih =>
    rw [List.flatMap_cons, List.filter_append, ih, exchange.filter_sends]

/-- Closing a connection is not a request. -/
theorem Line.close_events (line : Line) :
    line.close.events.filter Event.isSend = line.events.filter Event.isSend := by
  -- All that may be noted is that the connection is closed.
  unfold Line.close
  split
  · rfl
  · simp [Line.record, Event.isSend]

/-- A connection that opens has only orderly reactions, however its handshake goes. -/
def Attempt.Orderly : Attempt → Prop
  | .fails _ | .rejects _ => True
  | .opens _ reactions => ∀ reaction ∈ reactions, reaction.Orderly

/-- All connections that can still be made are orderly. -/
def Network.Orderly (network : Network) : Prop :=
  ∀ entry ∈ network.attempts.entries, ∀ attempt ∈ entry.2, attempt.Orderly

end RouterMetrics.Session

namespace RouterMetrics.Fleet

open RouterMetrics.Session

/-- What counts for requests: the kept client, and the network. -/
structure Holding where
  kept : Option Client
  network : Network

/-- What a visit holds. -/
def Visit.holding (visit : Visit) : Holding := ⟨visit.member.kept, visit.network⟩

namespace Holding

/-- The kept client is ready for a request, and so will be those on connections yet to come. -/
structure Sound (holding : Holding) : Prop where
  ready : ∀ client, holding.kept = some client →
    (Line.mk client holding.network.events).Ready ∧ client.link.id < holding.network.opened
  orderly : holding.network.Orderly

/-- Requests may still be made on a connection: it is the kept one or yet to come. -/
def Live (holding : Holding) (id : Nat) : Prop :=
  (∃ client, holding.kept = some client ∧ client.link.id = id) ∨ holding.network.opened ≤ id

/-- The requests seen so far. -/
def seen (holding : Holding) : List Event := holding.network.events.filter Event.isSend

end Holding

/-- A stretch of requests between two moments: all in order, and none behind an ended connection. -/
structure Stretch (start : Holding) (exchanges : List Exchange) (stop : Holding) : Prop where
  sound : stop.Sound
  own : ∀ exchange ∈ exchanges, exchange.Own
  live : ∀ exchange ∈ exchanges, start.Live exchange.connection
  ending : exchanges.Pairwise fun exchange later =>
    exchange.Ends → later.connection ≠ exchange.connection
  spent : ∀ exchange ∈ exchanges, exchange.Ends → ¬ stop.Live exchange.connection
  narrows : ∀ id, stop.Live id → start.Live id
  seen : stop.seen = start.seen ++ exchanges.flatMap Exchange.sends

namespace Stretch

/-- Nothing happens between a moment and itself. -/
theorem refl {holding : Holding} (sound : holding.Sound) : Stretch holding [] holding :=
  -- There is nothing between the two.
  ⟨sound, by simp, by simp, .nil, by simp, fun _ live => live, by simp⟩

/-- One stretch can follow another. -/
theorem trans {start middle stop : Holding} {exchanges later : List Exchange}
    (first : Stretch start exchanges middle) (second : Stretch middle later stop) :
    Stretch start (exchanges ++ later) stop where
  sound := second.sound
  own := by
    intro exchange member
    rcases List.mem_append.mp member with member | member
    · exact first.own exchange member
    · exact second.own exchange member
  live := by
    intro exchange member
    rcases List.mem_append.mp member with member | member
    · exact first.live exchange member
    · -- What is live in the middle was live at the start.
      exact first.narrows _ (second.live exchange member)
  ending := by
    refine List.pairwise_append.mpr ⟨first.ending, second.ending, ?_⟩
    intro exchange earlier next after ends same
    -- The later request needs a live connection, and the ended one is not live any more.
    exact first.spent exchange earlier ends (same ▸ second.live next after)
  spent := by
    intro exchange member ends
    rcases List.mem_append.mp member with member | member
    · exact fun live => first.spent exchange member ends (second.narrows _ live)
    · exact second.spent exchange member ends
  narrows := fun id live => first.narrows id (second.narrows id live)
  seen := by rw [second.seen, first.seen, List.flatMap_append, List.append_assoc]

section Talks

variable {client : Client} {network : Network} {exchanges : List Exchange} {line : Line}

/-- A talk that leaves its line ready keeps the client. -/
theorem keep (sound : Holding.Sound ⟨some client, network⟩)
    (talk : Talk ⟨client, network.events⟩ exchanges) (ready : line.Ready)
    (number : line.client.link.id = client.link.id)
    (events : line.events = network.events ++ exchanges.flatMap Exchange.sends)
    (goesOn : ∀ exchange ∈ exchanges, ¬ exchange.Ends) :
    Stretch ⟨some client, network⟩ exchanges
      ⟨some line.client, { network with events := line.events }⟩ where
  sound := by
    -- The client is the same one, and its line is ready for the next request.
    refine ⟨?_, sound.orderly⟩
    rintro _ ⟨⟩
    have below := (sound.ready client rfl).2
    exact ⟨ready, number ▸ below⟩
  own := talk.own
  -- All requests of the talk are made on the connection of the kept client.
  live := fun exchange member => .inl ⟨client, rfl, (talk.connection exchange member).symm⟩
  ending := talk.ending.imp fun stays ends => absurd ends stays
  -- No request of the talk has ended the connection.
  spent := fun exchange member ends => absurd ends (goesOn exchange member)
  narrows := by
    rintro id (⟨_, ⟨⟩, same⟩ | later)
    · exact .inl ⟨client, rfl, number ▸ same⟩
    · exact .inr later
  seen := by
    unfold Holding.seen
    -- All that is new among the events is what can be seen of the talk.
    dsimp only
    rw [events, List.filter_append, filter_flatMap_sends]

/-- A client that is dropped after a talk leaves its connection for good. -/
theorem drop (sound : Holding.Sound ⟨some client, network⟩)
    (talk : Talk ⟨client, network.events⟩ exchanges)
    (events : line.events = network.events ++ exchanges.flatMap Exchange.sends) :
    Stretch ⟨some client, network⟩ exchanges
      ⟨none, { network with events := line.close.events }⟩ where
  sound := ⟨nofun, sound.orderly⟩
  own := talk.own
  live := fun exchange member => .inl ⟨client, rfl, (talk.connection exchange member).symm⟩
  ending := talk.ending.imp fun stays ends => absurd ends stays
  spent := by
    rintro exchange member - (⟨_, ⟨⟩, -⟩ | later)
    -- Only connections yet to come are live, and their numbers are above that of the client.
    have below := (sound.ready client rfl).2
    have same : exchange.connection = client.link.id := talk.connection exchange member
    dsimp only at later below
    omega
  narrows := by
    rintro id (⟨_, ⟨⟩, -⟩ | later)
    -- What is live afterwards is yet to come, and it was so before.
    exact .inr later
  seen := by
    unfold Holding.seen
    dsimp only
    -- Closing is the last event, and it is no request.
    rw [line.close_events, events, List.filter_append, filter_flatMap_sends]

end Talks

/-- What is noted about connections is no request. -/
theorem note {start : Holding} (sound : start.Sound) {events : List Event}
    (silent : events.filter Event.isSend = start.seen) :
    Stretch start [] ⟨start.kept, { start.network with events }⟩ where
  sound := by
    refine ⟨fun client kept => ?_, sound.orderly⟩
    obtain ⟨ready, below⟩ := sound.ready client kept
    -- A client is ready for reasons that do not depend on the events.
    exact ⟨⟨ready.isOpen, ready.drained, ready.orderly⟩, below⟩
  own := by simp
  live := by simp
  ending := .nil
  spent := by simp
  narrows := fun _ live => live
  seen := by simp [Holding.seen, silent]

/-- A connection on which nothing was asked can be closed again. -/
theorem leave {link : Link} {network : Network}
    (sound : Holding.Sound ⟨some (.ofLink link), network⟩) :
    Stretch ⟨some (.ofLink link), network⟩ [] ⟨none, network.record (.closed link.id)⟩ := by
  -- Closing the connection is dropping a client that has just been made.
  have left : Stretch ⟨some (.ofLink link), network⟩ []
      ⟨none, { network with events := (Line.mk (.ofLink link) network.events).close.events }⟩ :=
    .drop sound ⟨by simp, by simp, .nil⟩ (List.append_nil _).symm
  exact left

/-- Without a kept client, nothing happens while no connection opens. -/
theorem idle {network later : Network} (orderly : later.Orderly)
    (opened : later.opened = network.opened)
    (silent : later.events.filter Event.isSend = network.events.filter Event.isSend) :
    Stretch ⟨none, network⟩ [] ⟨none, later⟩ where
  sound := ⟨nofun, orderly⟩
  own := by simp
  live := by simp
  ending := .nil
  spent := by simp
  -- A connection that may still be used is one that is opened later.
  narrows := by
    rintro id (⟨_, ⟨⟩, -⟩ | above)
    exact .inr (opened ▸ above)
  seen := by simp [Holding.seen, silent]

end Stretch

/-- Dropping the kept client changes only what is kept and what has been noted. -/
theorem Visit.drop_holding (visit : Visit) :
    visit.drop.holding =
      match visit.member.kept with
      | none => visit.holding
      | some client => ⟨none, { visit.network with events := (visit.line client).close.events }⟩ := by
  -- Without a client nothing is dropped.
  unfold Visit.drop Visit.holding
  cases kept : visit.member.kept with
  | none => simp [kept]
  | some client => rfl

/-- Closing a device makes no request. -/
theorem stretch_drop {visit : Visit} (sound : visit.holding.Sound) :
    Stretch visit.holding [] visit.drop.holding := by
  rw [Visit.drop_holding]
  cases kept : visit.member.kept with
  | none => exact .refl sound
  -- The client is dropped with all that its connection has left.
  | some client =>
    have held : visit.holding = ⟨some client, visit.network⟩ := by rw [Visit.holding, kept]
    rw [held] at sound ⊢
    exact .drop sound ⟨by simp, by simp, .nil⟩ (by simp [Visit.line])

/-- Looking after the kept client is one request, after which it is kept or dropped. -/
theorem stretch_probe {visit : Visit} (sound : visit.holding.Sound) :
    match probe visit with
    | .ok none later =>
        Stretch visit.holding (probeExchanges visit) later.holding ∧ later.member.kept = none
    | .ok (some client) later =>
        Stretch visit.holding (probeExchanges visit) later.holding ∧
          later.member.kept = some client
    | .error _ later => Stretch visit.holding (probeExchanges visit) later.holding := by
  unfold probe probeExchanges
  cases kept : visit.member.kept with
  | none => exact ⟨.refl sound, kept⟩
  | some client =>
    have held : visit.holding = ⟨some client, visit.network⟩ := by rw [Visit.holding, kept]
    -- With a kept client the probe is one request on its line.
    rw [held] at sound ⊢
    have ready : (visit.line client).Ready := (sound.ready client rfl).1
    have talk := talk_single identityRequest ready
    obtain ⟨-, number, -, events⟩ := (Exchange.mk (visit.line client) identityRequest).after_keeps
    have seen : (Exchange.mk (visit.line client) identityRequest).after.events =
        visit.network.events ++
          [Exchange.mk (visit.line client) identityRequest].flatMap Exchange.sends := by
      rw [events, List.flatMap_singleton]
      rfl
    -- A client that is not dropped has not ended its connection.
    have keeps : ¬ (Exchange.mk (visit.line client) identityRequest).Ends →
        Stretch ⟨some client, visit.network⟩ [⟨visit.line client, identityRequest⟩]
          (visit.after (Exchange.mk (visit.line client) identityRequest).after).holding :=
      fun goesOn => .keep sound talk ((Exchange.ends_or_ready ready).resolve_left goesOn) number seen
        (by simpa using goesOn)
    -- A client that is dropped leaves its connection, however the request went.
    have drops := Stretch.drop sound talk seen
    simp only [run_eq]
    cases answered : (Exchange.mk (visit.line client) identityRequest).answer with
    | ok reply =>
      cases silent : reply.rows.isEmpty with
      -- An empty answer is as bad as none.
      | true =>
        simp only [silent, if_true]
        exact ⟨drops, rfl⟩
      | false =>
        simp only [silent, Bool.false_eq_true, if_false]
        exact ⟨keeps (Exchange.not_ends_of_ok answered), rfl⟩
    | error fault =>
      cases expected : fault.isExpected with
      | true =>
        simp only [expected, if_true]
        exact ⟨drops, rfl⟩
      | false =>
        simp only [expected, Bool.false_eq_true, if_false]
        -- A fault that nobody expects leaves the client, so it must not have ended the connection.
        refine keeps ?_
        rintro ⟨other, failed, ends⟩
        rw [answered] at failed
        cases failed
        rw [Fault.isExpected_of_endsConnection ends] at expected
        cases expected

private theorem orderly_getD {network : Network} (endpoint : Endpoint) (orderly : network.Orderly) :
    ∀ attempt ∈ network.attempts.getD endpoint [], attempt.Orderly := by
  -- What is next at an endpoint is one of the attempts to come.
  intro attempt member
  unfold OrderedMap.getD at member
  cases found : network.attempts.get? endpoint with
  | none => simp [found] at member
  | some attempts =>
    rw [found, Option.getD_some] at member
    exact orderly (endpoint, attempts) (OrderedMap.mem_of_get? found) attempt member

private theorem orderly_put {network : Network} (endpoint : Endpoint) {later : List Attempt}
    (orderly : network.Orderly) (among : ∀ attempt ∈ later, attempt.Orderly) :
    ∀ entry ∈ (network.attempts.put endpoint later).entries, ∀ attempt ∈ entry.2,
      attempt.Orderly := by
  -- Where some attempts are put in place of others, all are orderly if these are.
  intro entry member
  rcases OrderedMap.eq_or_mem_of_put member with rfl | kept
  · exact among
  · exact orderly entry kept

/-- Connecting opens a connection that is ready for a request, or none. -/
theorem stretch_connect {network : Network} (endpoint : Endpoint) (timeout : Seconds)
    (orderly : network.Orderly) :
    match Network.connect endpoint timeout network with
    | .ok (_, link) later => Stretch ⟨none, network⟩ [] ⟨some (.ofLink link), later⟩
    | .error _ later => Stretch ⟨none, network⟩ [] ⟨none, later⟩ := by
  have next := orderly_getD endpoint orderly
  unfold Network.connect
  have silent : ∀ opened, (network.events ++ [Event.connect endpoint timeout opened]).filter
      Event.isSend = network.events.filter Event.isSend := by simp [Event.isSend]
  -- What happens is said by the first attempt at the endpoint, which is used up.
  cases attempts : network.attempts.getD endpoint [] with
  | nil => exact .idle (orderly_put endpoint orderly (by simp)) rfl (silent none)
  | cons attempt later =>
    rw [attempts] at next
    have remaining := orderly_put endpoint orderly
      fun other member => next other (List.mem_cons_of_mem attempt member)
    cases attempt with
    | fails fault => exact .idle remaining rfl (silent none)
    | rejects fault => exact .idle remaining rfl (silent none)
    | opens handshake reactions =>
      have reacts : ∀ reaction ∈ reactions, reaction.Orderly :=
        next (.opens handshake reactions) List.mem_cons_self
      -- The new connection has the next number, and nothing has been read or written on it.
      exact {
        sound := by
          refine ⟨?_, remaining⟩
          rintro _ ⟨⟩
          exact ⟨⟨rfl, rfl, reacts⟩, Nat.lt_succ_self _⟩
        own := by simp
        live := by simp
        ending := .nil
        spent := by simp
        narrows := by
          rintro id (⟨_, ⟨⟩, same⟩ | above)
          · -- The number of the new connection was one of those yet to come.
            exact .inr (Nat.le_of_eq same)
          · exact .inr (Nat.le_of_succ_le above)
        seen := by simp [Holding.seen, Network.record, Event.isSend] }

private theorem stretch_secure {network : Network} (host : String) (security : Security)
    (outcome : Option NetworkFault) (link : Link)
    (sound : Holding.Sound ⟨some (.ofLink link), network⟩) :
    match Network.secure host security outcome link network with
    | .ok () later => Stretch ⟨some (.ofLink link), network⟩ [] ⟨some (.ofLink link), later⟩
    | .error _ later => Stretch ⟨some (.ofLink link), network⟩ [] ⟨none, later⟩ := by
  -- Making a new connection secure is no request; a connection that cannot be secured is left.
  unfold Network.secure
  cases security with
  | plain => exact .refl sound
  | encrypted verified =>
    -- The handshake is noted before its outcome is known.
    have noted : Stretch ⟨some (.ofLink link), network⟩ []
        ⟨some (.ofLink link), network.record (.handshake link.id host verified verified)⟩ :=
      .note sound (by simp [Holding.seen, Event.isSend])
    cases outcome with
    | none => exact noted
    | some fault =>
      exact noted.trans (.leave noted.sound)

private theorem stretch_enter {network : Network} (user password : String) (link : Link)
    (sound : Holding.Sound ⟨some (.ofLink link), network⟩) :
    match Network.enter user password link network with
    | .ok client later =>
        Stretch ⟨some (.ofLink link), network⟩
          (loginExchanges user password ⟨.ofLink link, network.events⟩) ⟨some client, later⟩
    | .error _ later =>
        Stretch ⟨some (.ofLink link), network⟩
          (loginExchanges user password ⟨.ofLink link, network.events⟩) ⟨none, later⟩ := by
  -- Logging in makes its requests on the new connection, which is left if they fail.
  have ready := (sound.ready _ rfl).1
  have talk := talk_login user password ready
  have events := login_events user password ⟨.ofLink link, network.events⟩
  unfold Network.enter
  -- A login that succeeds keeps its client, and one that fails drops it.
  cases entered : login user password ⟨.ofLink link, network.events⟩ with
  | ok result line =>
    rw [entered] at events
    obtain ⟨after, number, goesOn⟩ := login_ready user password ready entered
    exact .keep sound talk after number events goesOn
  | error fault line =>
    rw [entered] at events
    exact .drop sound talk events

/-- Dialling makes the requests of a login on a new connection, which is kept if they succeed. -/
theorem stretch_dial {visit : Visit} (sound : visit.holding.Sound)
    (free : visit.member.kept = none) :
    match dial visit with
    | .ok client later =>
        Stretch visit.holding (dialExchanges visit) later.holding ∧
          later.member.kept = some client
    | .error _ later => Stretch visit.holding (dialExchanges visit) later.holding := by
  have held : visit.holding = ⟨none, visit.network⟩ := by rw [Visit.holding, free]
  have orderly : visit.network.Orderly := sound.orderly
  rw [held]
  unfold dial dialExchanges Network.dial
  simp only [Bind.bind, EStateM.bind]
  -- First the connection is opened, then it is made secure, and then the client logs in.
  have opening := stretch_connect visit.member.endpoint visit.member.timeout orderly
  cases connected : Network.connect visit.member.endpoint visit.member.timeout visit.network with
  | error fault network =>
    rw [connected] at opening
    simpa [Visit.holding, free] using opening
  | ok opened network =>
    obtain ⟨handshake, link⟩ := opened
    rw [connected] at opening
    dsimp only at opening ⊢
    have securing := stretch_secure visit.member.endpoint.address visit.member.security handshake
      link opening.sound
    cases secured : Network.secure visit.member.endpoint.address visit.member.security handshake
        link network with
    | error fault network' =>
      rw [secured] at securing
      simpa [Visit.holding, free] using opening.trans securing
    | ok done network' =>
      rw [secured] at securing
      dsimp only at securing ⊢
      have entering := stretch_enter visit.member.device.user visit.member.device.password link
        securing.sound
      cases entered : Network.enter visit.member.device.user visit.member.device.password link
          network' with
      | error fault network'' =>
        rw [entered] at entering
        simpa [Visit.holding, free] using (opening.trans securing).trans entering
      | ok client network'' =>
        rw [entered] at entering
        exact ⟨(opening.trans securing).trans entering, rfl⟩

/-- The requests until a client answers are in order, and the client is kept. -/
theorem stretch_connected {visit : Visit} (sound : visit.holding.Sound) :
    match connect visit with
    | .ok client later =>
        Stretch visit.holding (connectExchanges visit) later.holding ∧
          later.member.kept = some client
    | .error _ later => Stretch visit.holding (connectExchanges visit) later.holding := by
  have probing := stretch_probe sound
  unfold connect connectExchanges
  simp only [Bind.bind, EStateM.bind]
  cases probed : probe visit with
  | error fault later =>
    rw [probed] at probing
    exact probing
  | ok found later =>
    rw [probed] at probing
    cases found with
    | some client => exact probing
    -- Without a client that answers a new connection is dialled, and the old one is gone by then.
    | none =>
      obtain ⟨first, free⟩ := probing
      have dialling := stretch_dial first.sound free
      dsimp only
      cases dialled : dial later with
      | error fault last =>
        rw [dialled] at dialling
        exact first.trans dialling
      | ok client last =>
        rw [dialled] at dialling
        exact ⟨first.trans dialling.1, dialling.2⟩

private theorem consequence_of_endsConnection {fault : Session.Fault} (ends : fault.endsConnection = true) :
    consequence (.session fault) = .connectionLost ∨ consequence (.session fault) = .sessionEnded := by
  -- A fault that ends a connection makes the scrape drop the client.
  cases fault with
  | device trap reply =>
    right
    have fatal : isFatal trap = true := ends
    simp [consequence, fatal]
  | wire fault =>
    left
    have breaks : Fault.breaksConnection (.wire fault) = true := ends
    simp [consequence, breaks]
  | unknownReply sentence => exact .inl rfl
  | badChallenge position => cases ends
  | unencodablePassword run => cases ends
  | badArgument fault => cases ends
  | closed => exact .inl rfl

/-- One turn's requests are in order if its client is dropped, and also if it is kept for good reason. -/
theorem stretch_turn {assignment : Assignment} (registered : assignment.collector ∈ Collector.all)
    {client : Client} {visit : Visit} (sound : visit.holding.Sound)
    (kept : visit.member.kept = some client) :
    let course := turnCourse assignment client visit
    Stretch visit.holding course.exchanges (turnVisit assignment client visit).drop.holding ∧
      ((∀ fault, course.outcome = .error fault →
          consequence fault ≠ .connectionLost ∧ consequence fault ≠ .sessionEnded) →
        Stretch visit.holding course.exchanges (turnVisit assignment client visit).holding) := by
  have held : visit.holding = ⟨some client, visit.network⟩ := by rw [Visit.holding, kept]
  rw [held] at sound ⊢
  have ready : (visit.line client).Ready := (sound.ready client rfl).1
  obtain ⟨conduct, obeys⟩ := Collector.obeys_scriptOf registered visit.member.device assignment.name
  obtain ⟨talk, ending⟩ := obeys.talk ready
  obtain ⟨-, number, events, -⟩ := Collector.Script.course_keeps
    (Collector.scriptOf assignment.collector visit.member.device assignment.name)
    (visit.line client)
  refine ⟨.drop sound talk events, fun keeps => ?_⟩
  -- The script ends with a line that is ready, or with the fault that ended the connection.
  rcases ending with ⟨after, goesOn⟩ | ⟨fault, failed, ends⟩
  · exact .keep sound talk after number events goesOn
  · obtain ⟨notLost, notEnded⟩ := keeps (.session fault) failed
    exact ((consequence_of_endsConnection ends).elim notLost notEnded).elim

/-- The requests of turns are in order, whatever becomes of them. -/
theorem stretch_turns {assignments : List Assignment}
    (registered : ∀ assignment ∈ assignments, assignment.collector ∈ Collector.all)
    {client : Client} {visit : Visit} (sound : visit.holding.Sound)
    (kept : visit.member.kept = some client) :
    Stretch visit.holding ((turnsTaken client visit assignments).flatMap Prod.snd)
      (takeTurns client visit assignments).2.holding := by
  -- The induction is on the collectors; each turn starts where the one before it has left off.
  induction assignments generalizing client visit with
  | nil => exact .refl sound
  | cons assignment later ih =>
    have taken := takeTurn_eq (registered assignment List.mem_cons_self) client visit
    have others : ∀ other ∈ later, other.collector ∈ Collector.all :=
      fun other member => registered other (List.mem_cons_of_mem assignment member)
    obtain ⟨drops, keeps⟩ :=
      stretch_turn (registered assignment List.mem_cons_self) sound kept
    -- A turn whose client is kept is followed by the turns of the others.
    have goesOn : Stretch visit.holding (turnCourse assignment client visit).exchanges
          (turnVisit assignment client visit).holding →
        Stretch visit.holding ((turnCourse assignment client visit).exchanges ++
            (turnsTaken (turnCourse assignment client visit).line.client
              (turnVisit assignment client visit) later).flatMap Prod.snd)
          (takeTurns (turnCourse assignment client visit).line.client
            (turnVisit assignment client visit) later).2.holding :=
      fun first => first.trans (ih others first.sound rfl)
    unfold turnsTaken takeTurns
    simp only [taken]
    cases outcome : (turnCourse assignment client visit).outcome with
    | ok result => exact goesOn (keeps (by simp [outcome]))
    | error fault =>
      simp only [Option.map_some]
      cases meaning : consequence fault with
      -- Only these two consequences drop the client; the last one keeps it, but ends the turns.
      | connectionLost => simpa using drops
      | sessionEnded => simpa using drops
      | collectorFailed => exact goesOn (keeps (by simp [outcome, meaning]))
      | unforeseen => simpa using keeps (by simp [outcome, meaning])

/-- The requests of a command are in order. -/
theorem stretch_command {visit : Visit} (registered : visit.Registered)
    (sound : visit.holding.Sound) (command : Command) :
    Stretch visit.holding (commandExchanges visit command) (visit.perform command).holding := by
  cases command with
  | close => exact stretch_drop sound
  | collect =>
    -- What is collected and noticed does not count for requests.
    have soundAfresh : visit.afresh.holding.Sound := sound
    have connecting := stretch_connected soundAfresh
    have same := connect_sameMember visit.afresh
    unfold Visit.perform commandExchanges scrape attend scrapeExchanges
    cases connected : connect visit.afresh with
    | error fault later =>
      rw [connected] at connecting
      exact connecting
    | ok client later =>
      rw [connected] at connecting same
      obtain ⟨first, kept⟩ := connecting
      have assignments : later.member.assignments = visit.member.assignments := same.assignments
      -- Connecting has left the device its collectors, so the turns are those of registered ones.
      refine first.trans (stretch_turns ?_ first.sound kept)
      rw [assignments]
      exact registered

/-- The requests of all commands are in order. -/
theorem stretch_history {visit : Visit} (registered : visit.Registered)
    (sound : visit.holding.Sound) (commands : List Command) :
    Stretch visit.holding (history visit commands) (visit.performAll commands).holding := by
  -- What one command leaves behind is what the next one needs.
  induction commands generalizing visit with
  | nil => exact .refl sound
  | cons command later ih =>
    have first := stretch_command registered sound command
    exact first.trans (ih (Visit.perform_registered registered command) first.sound)

/--
Over all commands, every reply is that of the device to the very request.

Every request finds nothing unread on its connection, and none is made on a connection that an
earlier request has ended; what can be seen of requests comes from these requests only.
-/
theorem replies_belong_to_requests (device : Config.Device) (assignments : List Assignment)
    (attempts : OrderedMap Endpoint (List Attempt)) (commands : List Command)
    (registered : ∀ assignment ∈ assignments, assignment.collector ∈ Collector.all)
    (orderly : ∀ entry ∈ attempts.entries, ∀ attempt ∈ entry.2, attempt.Orderly) :
    let visit := Visit.start device assignments attempts
    (∀ exchange ∈ history visit commands, exchange.Own) ∧
      ((history visit commands).Pairwise fun exchange later =>
        exchange.Ends → later.connection ≠ exchange.connection) ∧
      (visit.performAll commands).network.events.filter Event.isSend =
        (history visit commands).flatMap Exchange.sends := by
  -- At the start no client is kept, and what devices say is in order.
  have sound : (Visit.start device assignments attempts).holding.Sound := ⟨nofun, orderly⟩
  have enabled : (Visit.start device assignments attempts).Registered := registered
  -- The induction over the commands makes one stretch of all of them.
  have whole := stretch_history enabled sound commands
  exact ⟨whole.own, whole.ending, whole.seen⟩

/-- A device whose first connection is reset while a collector waits, and that opens a second one. -/
def resetAttempts : OrderedMap Endpoint (List Attempt) :=
  let done : Reaction := .answer [5, 33, 100, 111, 110, 101, 0] none
  .ofList [(⟨"10.0.0.1", 8728⟩,
    [.opens none [done, .answer [3, 33, 114] (some .reset)], .opens none [done, done]])]

/-- Every reply on the device's connections ends with the sentence that completes it, or breaks off. -/
theorem resetAttempts_orderly :
    ∀ entry ∈ resetAttempts.entries, ∀ attempt ∈ entry.2, attempt.Orderly := by
  -- Nothing stands behind a reply that is complete, and nothing completes one that breaks off.
  have done : (Reaction.answer [5, 33, 100, 111, 110, 101, 0] none).Orderly := by
    refine ⟨fun rest found => ?_, by simp⟩
    have complete : bytesAfterDone? ⟨[5, 33, 100, 111, 110, 101, 0], none⟩ = some [] := by
      decide +kernel
    simpa [complete] using found.symm
  have broken : (Reaction.answer [3, 33, 114] (some .reset)).Orderly := by
    refine ⟨fun rest found => ?_, by simp⟩
    have incomplete : bytesAfterDone? ⟨[3, 33, 114], some .reset⟩ = none := by decide +kernel
    rw [incomplete] at found
    cases found
  intro entry member attempt opened
  rw [List.mem_singleton.mp member] at opened
  simp only [List.mem_cons, List.not_mem_nil, or_false] at opened
  rcases opened with rfl | rfl <;> simp [Attempt.Orderly, done, broken]

/-- The reset is survived: four requests are made, two on each connection. -/
theorem replies_belong_after_reset :
    let visit := Visit.start { address := "10.0.0.1" }
      [⟨"resource", Collector.Resource.collector⟩] resetAttempts
    let exchanges := history visit [.collect, .collect, .close]
    exchanges.map Exchange.connection = [0, 0, 1, 1] ∧
      (∀ exchange ∈ exchanges, exchange.Own) ∧
      (exchanges.Pairwise fun exchange later =>
        exchange.Ends → later.connection ≠ exchange.connection) ∧
      (visit.performAll [.collect, .collect, .close]).network.events.filter Event.isSend =
        exchanges.flatMap Exchange.sends :=
  ⟨by decide +kernel,
    replies_belong_to_requests { address := "10.0.0.1" }
      [⟨"resource", Collector.Resource.collector⟩] resetAttempts [.collect, .collect, .close]
      (by simp [Collector.all]) resetAttempts_orderly⟩

end RouterMetrics.Fleet
