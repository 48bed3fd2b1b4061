import RouterMetrics.Proofs.Fleet.OwnReplies

/-!
Passages: what can be done with the connections of a device, one thing at a time.

Every command makes such a passage, whatever the device does, and opens at most one connection.
-/

namespace RouterMetrics.Fleet

open RouterMetrics.Session

/--
What comes about from what is held at the start, and how many connections are opened on the way.

Only a holding without a client may connect, and only one with a client may ask or drop it.
What other endpoints have in store is left to them.
-/
inductive Passage (endpoint : Endpoint) (start : Holding) : Nat → Holding → Prop
  | refl : Passage endpoint start 0 start
  | refused {count : Nat} {network : Network}
      (before : Passage endpoint start count ⟨none, network⟩) (timeout : Seconds)
      (attempts : List Attempt) :
      Passage endpoint start count
        ⟨none, { network with attempts := network.attempts.put endpoint attempts }.record
          (.connect endpoint timeout none)⟩
  | opened {count : Nat} {network : Network}
      (before : Passage endpoint start count ⟨none, network⟩) (timeout : Seconds)
      (attempts : List Attempt) (reactions : List Reaction) :
      Passage endpoint start (count + 1)
        ⟨some (.ofLink (.fresh network.opened reactions)),
          { network with
              attempts := network.attempts.put endpoint attempts
              opened := network.opened + 1 }.record
            (.connect endpoint timeout (some network.opened))⟩
  | secured {count : Nat} {client : Client} {network : Network}
      (before : Passage endpoint start count ⟨some client, network⟩) (host : String)
      (checksName checksCertificate : Bool) :
      Passage endpoint start count
        ⟨some client,
          network.record (.handshake client.link.id host checksName checksCertificate)⟩
  | asked {count : Nat} {client : Client} {network : Network}
      (before : Passage endpoint start count ⟨some client, network⟩) (words : List String) :
      Passage endpoint start count
        ⟨some (Exchange.mk ⟨client, network.events⟩ words).after.client,
          { network with events := (Exchange.mk ⟨client, network.events⟩ words).after.events }⟩
  | dropped {count : Nat} {client : Client} {network : Network}
      (before : Passage endpoint start count ⟨some client, network⟩) :
      Passage endpoint start count
        ⟨none, { network with events := (Line.mk client network.events).close.events }⟩

namespace Passage

variable {endpoint : Endpoint}

/-- One passage can follow another. -/
theorem trans {start middle stop : Holding} {count more : Nat} (first : Passage endpoint start count middle)
    (second : Passage endpoint middle more stop) : Passage endpoint start (count + more) stop := by
  -- The induction is on the second passage, whose steps are put behind the first.
  induction second with
  | refl => exact first
  | refused _ timeout attempts ih => exact ih.refused timeout attempts
  | opened _ timeout attempts reactions ih => exact ih.opened timeout attempts reactions
  | secured _ host checksName checksCertificate ih =>
    exact ih.secured host checksName checksCertificate
  | asked _ words ih => exact ih.asked words
  | dropped _ ih => exact ih.dropped

/-- On a passage from a client that is open, or from none, no closed client is ever held. -/
theorem keeps_open {start stop : Holding} {count : Nat} (passage : Passage endpoint start count stop)
    (isOpen : ∀ client, start.kept = some client → client.isClosed = false) :
    ∀ client, stop.kept = some client → client.isClosed = false := by
  induction passage with
  | refl => exact isOpen
  | refused | dropped => exact nofun
  | opened =>
    intro client kept
    cases kept
    rfl
  | secured _ _ _ _ ih => exact ih
  | @asked _ held network _ words ih =>
    -- A request leaves its client open, if it was.
    intro client kept
    cases kept
    exact (Exchange.mk ⟨held, network.events⟩ words).after_keeps.1.trans (ih held rfl)

/-- A passage leaves what is in store for another endpoint. -/
theorem elsewhere {start stop : Holding} {count : Nat} (passage : Passage endpoint start count stop)
    {other : Endpoint} (apart : other ≠ endpoint) :
    stop.network.attempts.getD other [] = start.network.attempts.getD other [] := by
  induction passage with
  | refl => rfl
  | refused _ timeout attempts ih =>
    -- Only connecting takes something away, and only at its own endpoint.
    refine Eq.trans ?_ ih
    simp only [Network.record, OrderedMap.getD, OrderedMap.get?_put_of_ne _ _ apart]
  | opened _ timeout attempts reactions ih =>
    refine Eq.trans ?_ ih
    simp only [Network.record, OrderedMap.getD, OrderedMap.get?_put_of_ne _ _ apart]
  | secured _ _ _ _ ih => exact ih
  | asked _ _ ih => exact ih
  | dropped _ ih => exact ih

/-- What a collector's script does with the client is to ask. -/
theorem course {α : Type} (script : Collector.Script α) (client : Client) (network : Network) :
    let line := (script.course ⟨client, network.events⟩).line
    Passage endpoint ⟨some client, network⟩ 0 ⟨some line.client, { network with events := line.events }⟩ := by
  induction script generalizing client network with
  | finish outcome => exact .refl
  | add added next ih => exact ih client network
  | ask words next ih =>
    -- The rest of the script goes on with the line that the request has left.
    let exchange : Exchange := ⟨⟨client, network.events⟩, words⟩
    have first : Passage endpoint ⟨some client, network⟩ 0
        ⟨some exchange.after.client, { network with events := exchange.after.events }⟩ :=
      .asked .refl words
    exact first.trans (ih exchange.answer exchange.after.client
      { network with events := exchange.after.events })

/-- What a login does with the client is to ask. -/
theorem login (user password : String) (client : Client) (network : Network) :
    let line := lineOf (Session.login user password ⟨client, network.events⟩)
    Passage endpoint ⟨some client, network⟩ 0 ⟨some line.client, { network with events := line.events }⟩ := by
  have first : Passage endpoint ⟨some client, network⟩ 0 _ := .asked .refl (loginRequest user password)
  rw [login_eq]
  dsimp only
  cases (Exchange.mk ⟨client, network.events⟩ (loginRequest user password)).answer with
  | error fault => exact first
  | ok reply =>
    dsimp only
    cases nextLogin user password reply with
    | error fault => exact first
    | ok next =>
      cases next with
      | none => exact first
      | some words =>
        -- The second request is made on the line that the first one has left.
        have second := first.asked words
        dsimp only
        cases (Exchange.mk (Exchange.mk ⟨client, network.events⟩
          (loginRequest user password)).after words).answer <;> exact second

end Passage

/-- Dropping what is kept is a passage that opens nothing. -/
theorem passage_drop (endpoint : Endpoint) (visit : Visit) :
    Passage endpoint visit.holding 0 visit.drop.holding := by
  rw [Visit.drop_holding]
  cases kept : visit.member.kept with
  | none => exact .refl
  -- The client is closed, which is all.
  | some client =>
    have held : visit.holding = ⟨some client, visit.network⟩ := by rw [Visit.holding, kept]
    rw [held]
    exact .dropped .refl

/-- Looking after the kept client opens nothing; where no client is left, none is kept. -/
theorem passage_probe (endpoint : Endpoint) (visit : Visit) :
    Passage endpoint visit.holding 0 (visitOf (probe visit)).holding ∧
      match probe visit with
      | .ok found later => later.member.kept = found
      | .error _ _ => True := by
  unfold probe
  cases kept : visit.member.kept with
  | none => exact ⟨.refl, kept⟩
  | some client =>
    have held : visit.holding = ⟨some client, visit.network⟩ := by rw [Visit.holding, kept]
    rw [held]
    -- The probe is one request, and then the client may be dropped.
    have asking : Passage endpoint ⟨some client, visit.network⟩ 0
        (visit.after (Exchange.mk (visit.line client) identityRequest).after).holding :=
      .asked .refl identityRequest
    have dropping := asking.dropped
    simp only [run_eq]
    cases (Exchange.mk (visit.line client) identityRequest).answer with
    | ok reply =>
      cases silent : reply.rows.isEmpty with
      | true =>
        simp only [silent, if_true]
        exact ⟨dropping, rfl⟩
      | false =>
        simp only [silent, Bool.false_eq_true, if_false]
        exact ⟨asking, rfl⟩
    | error fault =>
      cases expected : fault.isExpected with
      | true =>
        simp only [expected, if_true]
        exact ⟨dropping, rfl⟩
      | false =>
        simp only [expected, Bool.false_eq_true, if_false]
        exact ⟨asking, trivial⟩

private theorem passage_connect (endpoint : Endpoint) (timeout : Seconds) (network : Network) :
    match Network.connect endpoint timeout network with
    | .ok (_, link) later => Passage endpoint ⟨none, network⟩ 1 ⟨some (.ofLink link), later⟩
    | .error _ later => Passage endpoint ⟨none, network⟩ 0 ⟨none, later⟩ := by
  -- The next attempt at the endpoint says whether a connection opens.
  unfold Network.connect
  cases network.attempts.getD endpoint [] with
  | nil => exact .refused .refl timeout _
  | cons attempt later =>
    cases attempt with
    | fails fault => exact .refused .refl timeout _
    | rejects fault => exact .refused .refl timeout _
    | opens handshake reactions => exact .opened .refl timeout _ reactions

private theorem passage_secure (endpoint : Endpoint) (host : String) (security : Security)
    (outcome : Option NetworkFault) (link : Link) (network : Network) :
    match Network.secure host security outcome link network with
    | .ok () later => Passage endpoint ⟨some (.ofLink link), network⟩ 0 ⟨some (.ofLink link), later⟩
    | .error _ later => Passage endpoint ⟨some (.ofLink link), network⟩ 0 ⟨none, later⟩ := by
  -- A connection that cannot be made secure is closed behind its handshake.
  unfold Network.secure
  cases security with
  | plain => exact .refl
  | encrypted verified =>
    have noted : Passage endpoint ⟨some (.ofLink link), network⟩ 0 _ := .secured .refl host verified verified
    cases outcome with
    | none => exact noted
    | some fault => exact noted.dropped

private theorem passage_enter (endpoint : Endpoint) (user password : String) (link : Link) (network : Network) :
    match Network.enter user password link network with
    | .ok client later => Passage endpoint ⟨some (.ofLink link), network⟩ 0 ⟨some client, later⟩
    | .error _ later => Passage endpoint ⟨some (.ofLink link), network⟩ 0 ⟨none, later⟩ := by
  -- A login that fails has its connection closed.
  have asking := @Passage.login endpoint user password (.ofLink link) network
  unfold Network.enter
  cases entered : login user password ⟨.ofLink link, network.events⟩ with
  | ok result line =>
    rw [entered] at asking
    exact asking
  | error fault line =>
    rw [entered] at asking
    exact asking.dropped

/-- Dialling opens at most one connection, and keeps it if the login on it succeeds. -/
theorem passage_dial {visit : Visit} (free : visit.member.kept = none) :
    (∃ count ≤ 1, Passage visit.member.endpoint visit.holding count (visitOf (dial visit)).holding) ∧
      match dial visit with
      | .ok client later => later.member.kept = some client
      | .error _ _ => True := by
  have held : visit.holding = ⟨none, visit.network⟩ := by rw [Visit.holding, free]
  have still : ∀ network, Visit.holding { visit with network } = ⟨none, network⟩ := by
    intro network
    rw [Visit.holding, free]
  rw [held]
  unfold dial Network.dial
  simp only [Bind.bind, EStateM.bind]
  have opening := passage_connect visit.member.endpoint visit.member.timeout visit.network
  cases connected : Network.connect visit.member.endpoint visit.member.timeout visit.network with
  | error fault network =>
    rw [connected] at opening
    exact ⟨⟨0, Nat.zero_le 1, by simpa [visitOf, still] using opening⟩, trivial⟩
  | ok opened network =>
    obtain ⟨handshake, link⟩ := opened
    rw [connected] at opening
    dsimp only at opening ⊢
    -- From here on the connection is open, and it is kept or closed again.
    have securing := passage_secure visit.member.endpoint visit.member.endpoint.address visit.member.security handshake
      link network
    cases secured : Network.secure visit.member.endpoint.address visit.member.security handshake
        link network with
    | error fault network' =>
      rw [secured] at securing
      exact ⟨⟨1, Nat.le_refl 1, by simpa [visitOf, still] using opening.trans securing⟩, trivial⟩
    | ok done network' =>
      rw [secured] at securing
      dsimp only at securing ⊢
      have entering := passage_enter visit.member.endpoint visit.member.device.user visit.member.device.password link
        network'
      cases entered : Network.enter visit.member.device.user visit.member.device.password link
          network' with
      | error fault network'' =>
        rw [entered] at entering
        exact ⟨⟨1, Nat.le_refl 1,
          by simpa [visitOf, still] using (opening.trans securing).trans entering⟩, trivial⟩
      | ok client network'' =>
        rw [entered] at entering
        exact ⟨⟨1, Nat.le_refl 1, (opening.trans securing).trans entering⟩, rfl⟩

/-- Connecting opens at most one connection, and keeps the client that it gives. -/
theorem passage_connected (visit : Visit) :
    (∃ count ≤ 1, Passage visit.member.endpoint visit.holding count (visitOf (connect visit)).holding) ∧
      match connect visit with
      | .ok client later => later.member.kept = some client
      | .error _ _ => True := by
  obtain ⟨probing, found⟩ := passage_probe visit.member.endpoint visit
  have same := probe_sameMember visit
  unfold connect
  simp only [Bind.bind, EStateM.bind]
  cases probed : probe visit with
  | error fault later =>
    rw [probed] at probing
    exact ⟨⟨0, Nat.zero_le 1, probing⟩, trivial⟩
  | ok client later =>
    rw [probed] at probing found same
    cases client with
    | some client => exact ⟨⟨0, Nat.zero_le 1, probing⟩, found⟩
    | none =>
      -- A client that does not answer is gone before a new connection is dialled.
      obtain ⟨⟨count, few, dialling⟩, kept⟩ := passage_dial found
      rw [show later.member.endpoint = visit.member.endpoint from same.endpoint] at dialling
      exact ⟨⟨0 + count, by omega, probing.trans dialling⟩, kept⟩

/-- The turns of collectors open nothing. -/
theorem passage_turns (endpoint : Endpoint) {assignments : List Assignment}
    (registered : ∀ assignment ∈ assignments, assignment.collector ∈ Collector.all)
    {client : Client} {visit : Visit} (kept : visit.member.kept = some client) :
    Passage endpoint visit.holding 0 (takeTurns client visit assignments).2.holding := by
  -- The induction is on the collectors; each turn asks with the client that the one before has left.
  induction assignments generalizing client visit with
  | nil => exact .refl
  | cons assignment later ih =>
    have taken := takeTurn_eq (registered assignment List.mem_cons_self) client visit
    have held : visit.holding = ⟨some client, visit.network⟩ := by rw [Visit.holding, kept]
    have turned : Passage endpoint visit.holding 0 (turnVisit assignment client visit).holding := by
      rw [held]
      exact .course (Collector.scriptOf assignment.collector visit.member.device assignment.name)
        client visit.network
    -- After the turn its client is kept, so the others can go on with it.
    have goesOn : Passage endpoint visit.holding 0 (takeTurns (turnCourse assignment client visit).line.client
        (turnVisit assignment client visit) later).2.holding :=
      turned.trans
        (ih (fun other member => registered other (List.mem_cons_of_mem assignment member)) rfl)
    have drops := turned.trans (passage_drop endpoint (turnVisit assignment client visit))
    rw [takeTurns_step, taken]
    dsimp only
    cases sequelOf _ with
    | onward => exact goesOn
    | dropped => exact drops
    | ended => exact turned

/-- A command is a passage; a scrape opens at most one connection, and closing opens none. -/
theorem passage_command {visit : Visit} (registered : visit.Registered) (command : Command) :
    ∃ count ≤ (match command with | .collect => 1 | .close => 0),
      Passage visit.member.endpoint visit.holding count (visit.perform command).holding := by
  cases command with
  | close => exact ⟨0, Nat.le_refl 0, passage_drop _ visit⟩
  | collect =>
    -- What is collected and noticed does not count for connections.
    obtain ⟨⟨count, few, connecting⟩, kept⟩ := passage_connected visit.afresh
    have same := connect_sameMember visit.afresh
    unfold Visit.perform scrape attend
    cases connected : connect visit.afresh with
    | error fault later =>
      rw [connected] at connecting
      exact ⟨count, few, connecting⟩
    | ok client later =>
      rw [connected] at connecting same kept
      have enabled : later.Registered := Visit.SameMember.registered same registered
      exact ⟨count + 0, few, connecting.trans (passage_turns _ enabled kept)⟩

end RouterMetrics.Fleet
