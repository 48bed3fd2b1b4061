import RouterMetrics.Proofs.Fleet.OwnReplies

/-!
Dialling: what can become of an attempt to connect to a device, and what is seen of it.

The attempt fails, the handshake on the connection fails, or there is a login on it.
-/

namespace RouterMetrics.Session

/-- How the handshake goes on the connection that an attempt opens, if it opens one. -/
def Attempt.handshake? : Attempt → Option (Option NetworkFault)
  | .fails _ | .rejects _ => none
  | .opens handshake _ => some handshake

/-- How the handshakes go on the connections that will still open at an endpoint. -/
def Network.handshakes (network : Network) (endpoint : Endpoint) : List (Option NetworkFault) :=
  (network.attempts.getD endpoint []).filterMap Attempt.handshake?

/-- The network after a connection has opened at an endpoint, with what is then seen of it. -/
def Network.after (network : Network) (endpoint : Endpoint) (later : List Attempt)
    (seen : List Event) : Network where
  attempts := network.attempts.put endpoint later
  opened := network.opened + 1
  events := network.events ++ seen

end RouterMetrics.Session

namespace RouterMetrics.Fleet

open RouterMetrics.Config (Device)
open RouterMetrics.Session

/-- What is seen of a connection to a device before the first request on it. -/
def opening (device : Device) (port : Int) (id : Nat) : List Event :=
  .connect ⟨device.address, port⟩ (.whole device.timeout) (some id) ::
    if device.tls then [.handshake id device.address (!device.insecure) (!device.insecure)] else []

/-- The line on which a login starts, on a connection that was just opened. -/
def loginLine (device : Device) (port : Int) (network : Network) (reactions : List Reaction) :
    Line :=
  ⟨.ofLink (.fresh network.opened reactions),
    network.events ++ opening device port network.opened⟩

/-- The requests of the login on the connection that has opened. -/
def firstLogins (device : Device) (port : Int) (network : Network) (reactions : List Reaction) :
    List Exchange :=
  loginExchanges device.user device.password (loginLine device port network reactions)

/-- What can become of dialling a device while no client is kept. -/
inductive Dialling (device : Device) (port : Int) (network : Network) :
    List Exchange → Holding → Prop
  | refused {later : List Attempt}
      (remaining : later.filterMap Attempt.handshake? =
        network.handshakes ⟨device.address, port⟩) :
      Dialling device port network []
        ⟨none, { network with attempts := network.attempts.put ⟨device.address, port⟩ later }.record
          (.connect ⟨device.address, port⟩ (.whole device.timeout) none)⟩
  | unsecured {fault : NetworkFault} {reactions : List Reaction} {later : List Attempt}
      (attempt : network.attempts.getD ⟨device.address, port⟩ [] =
        .opens (some fault) reactions :: later)
      (encrypted : device.tls = true) :
      Dialling device port network []
        ⟨none, network.after ⟨device.address, port⟩ later
          (opening device port network.opened ++ [.closed network.opened])⟩
  | rejected {handshake : Option NetworkFault} {reactions : List Reaction} {later : List Attempt}
      (attempt : network.attempts.getD ⟨device.address, port⟩ [] =
        .opens handshake reactions :: later)
      (secured : device.tls = true → handshake = none) :
      Dialling device port network (firstLogins device port network reactions)
        ⟨none, network.after ⟨device.address, port⟩ later
          (opening device port network.opened ++
            (firstLogins device port network reactions).flatMap Exchange.sends ++
            [.closed network.opened])⟩
  | entered {handshake : Option NetworkFault} {reactions : List Reaction} {later : List Attempt}
      {line : Line}
      (attempt : network.attempts.getD ⟨device.address, port⟩ [] =
        .opens handshake reactions :: later)
      (secured : device.tls = true → handshake = none)
      (accepted : login device.user device.password
        (loginLine device port network reactions) = .ok () line) :
      Dialling device port network (firstLogins device port network reactions)
        ⟨some line.client, network.after ⟨device.address, port⟩ later
          (opening device port network.opened ++
            (firstLogins device port network reactions).flatMap Exchange.sends)⟩

private theorem connect_cases (endpoint : Endpoint) (timeout : Seconds) (network : Network) :
    (∃ fault later, later.filterMap Attempt.handshake? = network.handshakes endpoint ∧
      Network.connect endpoint timeout network = .error fault
        ({ network with attempts := network.attempts.put endpoint later }.record
          (.connect endpoint timeout none))) ∨
    ∃ handshake reactions later,
      network.attempts.getD endpoint [] = .opens handshake reactions :: later ∧
      Network.connect endpoint timeout network =
        .ok (handshake, .fresh network.opened reactions)
          (network.after endpoint later [.connect endpoint timeout (some network.opened)]) := by
  -- The next attempt at the endpoint says whether a connection opens.
  unfold Network.connect Network.handshakes
  cases network.attempts.getD endpoint [] with
  | nil => exact .inl ⟨_, [], rfl, rfl⟩
  | cons attempt later =>
    cases attempt with
    | fails fault => exact .inl ⟨_, later, rfl, rfl⟩
    | rejects fault => exact .inl ⟨_, later, rfl, rfl⟩
    | opens handshake reactions => exact .inr ⟨handshake, reactions, later, rfl, rfl⟩

/-- Logging in on a connection that was just opened keeps its client or closes it. -/
theorem enter_cases (device : Device) (port : Int) (network : Network)
    (reactions : List Reaction) (later : List Attempt) :
    let link : Link := .fresh network.opened reactions
    let sends := (firstLogins device port network reactions).flatMap Exchange.sends
    let ready := network.after ⟨device.address, port⟩ later (opening device port network.opened)
    (∃ line, login device.user device.password (loginLine device port network reactions) =
        .ok () line ∧
      Network.enter device.user device.password link ready = .ok line.client
        (network.after ⟨device.address, port⟩ later
          (opening device port network.opened ++ sends))) ∨
    ∃ fault, Network.enter device.user device.password link ready = .error fault
      (network.after ⟨device.address, port⟩ later
        (opening device port network.opened ++ sends ++ [.closed network.opened])) := by
  intro link sends ready
  let start := loginLine device port network reactions
  have seen : (lineOf (login device.user device.password start)).events =
      network.events ++ (opening device port network.opened ++ sends) := by
    rw [login_events, ← List.append_assoc]
    rfl
  obtain ⟨isOpen, number⟩ := login_keeps device.user device.password start
  have here : start = ⟨.ofLink link, ready.events⟩ := rfl
  unfold Network.enter
  rw [← here]
  cases entered : login device.user device.password start with
  | ok result line =>
    rw [entered] at seen
    have events : line.events = _ := seen
    refine .inl ⟨line, rfl, ?_⟩
    dsimp only
    rw [events]
    rfl
  | error fault line =>
    rw [entered] at seen isOpen number
    -- The client is still open, so that its connection is closed behind the login.
    have stillOpen : line.client.isClosed = false := isOpen
    have same : line.client.link.id = network.opened := number
    have events : line.close.events =
        network.events ++ (opening device port network.opened ++ sends ++ [.closed network.opened]) := by
      have before : line.events = _ := seen
      simp [Line.close, Line.record, stillOpen, same, before]
    refine .inr ⟨fault, ?_⟩
    dsimp only
    rw [events]
    rfl

private theorem secure_cases (member : Member) (network : Network)
    (handshake : Option NetworkFault) (reactions : List Reaction) (later : List Attempt) :
    let connected := network.after member.endpoint later
      [.connect member.endpoint member.timeout (some network.opened)]
    let link : Link := .fresh network.opened reactions
    let seen := opening member.device member.port network.opened
    ((member.device.tls = true → handshake = none) ∧
      Network.secure member.endpoint.address member.security handshake link connected =
        .ok () (network.after member.endpoint later seen)) ∨
    ∃ fault, handshake = some fault ∧ member.device.tls = true ∧
      Network.secure member.endpoint.address member.security handshake link connected =
        .error (.network fault)
          (network.after member.endpoint later (seen ++ [.closed network.opened])) := by
  -- Without encryption there is no handshake, and else its outcome decides.
  intro connected link seen
  cases tls : member.device.tls with
  | false =>
    have plain : member.security = .plain := by simp [Member.security, tls]
    have first : seen = [.connect member.endpoint member.timeout (some network.opened)] := by
      simp [seen, opening, tls, Member.endpoint, Member.timeout]
    exact .inl ⟨nofun, by rw [plain, first]; rfl⟩
  | true =>
    have encrypted : member.security = .encrypted (!member.device.insecure) := by
      simp [Member.security, tls]
    have both : seen = [.connect member.endpoint member.timeout (some network.opened),
        .handshake network.opened member.endpoint.address (!member.device.insecure)
          (!member.device.insecure)] := by
      simp [seen, opening, tls, Member.endpoint, Member.timeout]
    rw [encrypted, both]
    cases handshake with
    | none =>
      refine .inl ⟨fun _ => rfl, ?_⟩
      simp [Network.secure, Network.record, Network.after, connected, link, Link.fresh]
    | some fault =>
      refine .inr ⟨fault, rfl, rfl, ?_⟩
      simp [Network.secure, Network.record, Network.after, connected, link, Link.fresh]

/-- What becomes of dialling is one of the cases. -/
theorem dialling_dial {visit : Visit} (free : visit.member.kept = none) :
    Dialling visit.member.device visit.member.port visit.network (dialExchanges visit)
      (visitOf (dial visit)).holding := by
  have still : ∀ network, Visit.holding { visit with network } = ⟨none, network⟩ := by
    intro network
    rw [Visit.holding, free]
  unfold dial dialExchanges Network.dial
  simp only [Bind.bind, EStateM.bind]
  rcases connect_cases visit.member.endpoint visit.member.timeout visit.network with
    ⟨fault, later, remaining, failed⟩ | ⟨handshake, reactions, later, attempt, connected⟩
  · rw [failed]
    simp only [visitOf, still]
    exact .refused remaining
  · -- The connection is open; whether it can be made secure decides on the login.
    rw [connected]
    dsimp only
    rcases secure_cases visit.member visit.network handshake reactions later with
      ⟨secured, ready⟩ | ⟨fault, rfl, encrypted, failed⟩
    · rw [ready]
      dsimp only
      rcases enter_cases visit.member.device visit.member.port visit.network reactions later with
        ⟨line, accepted, entered⟩ | ⟨fault, rejected⟩
      · rw [show Network.enter _ _ _ (visit.network.after visit.member.endpoint later _) = _ from
          entered]
        exact .entered attempt secured accepted
      · rw [show Network.enter _ _ _ (visit.network.after visit.member.endpoint later _) = _ from
          rejected]
        simp only [visitOf, still]
        exact .rejected attempt secured
    · rw [failed]
      simp only [visitOf, still]
      exact .unsecured attempt encrypted

namespace Dialling

variable {device : Device} {port : Int} {network : Network} {exchanges : List Exchange}
  {stop : Holding} (dialling : Dialling device port network exchanges stop)

include dialling

/-- Everything that is seen of dialling is about one connection, or that none has opened. -/
theorem events : ∃ seen, stop.network.events = network.events ++ seen ∧
    seen.filter Event.isSend = exchanges.flatMap Exchange.sends := by
  -- Neither opening a connection nor closing it is a request.
  have before : (opening device port network.opened).filter Event.isSend = [] := by
    unfold opening
    split <;> rfl
  cases dialling with
  | refused => exact ⟨_, rfl, rfl⟩
  | unsecured =>
    refine ⟨_, rfl, ?_⟩
    rw [List.filter_append, before]
    rfl
  | rejected =>
    refine ⟨_, rfl, ?_⟩
    rw [List.filter_append, List.filter_append, before, filter_flatMap_sends]
    exact List.append_nil _
  | entered =>
    refine ⟨_, rfl, ?_⟩
    rw [List.filter_append, before, filter_flatMap_sends]
    rfl

/-- The requests of a login are made on a connection that has opened at the device. -/
theorem reaches : ∀ exchange ∈ exchanges,
    .connect ⟨device.address, port⟩ (.whole device.timeout) (some exchange.connection) ∈
      stop.network.events := by
  -- A login stays on the connection that has just opened.
  have mine : ∀ {reactions}, ∀ exchange ∈ firstLogins device port network reactions,
      exchange.connection = network.opened :=
    fun exchange member => (loginExchanges_words exchange member).1
  cases dialling with
  | refused | unsecured => exact fun exchange member => absurd member List.not_mem_nil
  | rejected =>
    intro exchange member
    simp [Network.after, opening, mine exchange member]
  | entered =>
    intro exchange member
    simp [Network.after, opening, mine exchange member]

/-- The requests of a login have the name and the password of the device, or answer a challenge. -/
theorem words : ∀ exchange ∈ exchanges,
    exchange.words = loginRequest device.user device.password ∨
      ∃ response, exchange.words = challengeRequest device.user response := by
  cases dialling with
  -- Without a connection there is no login.
  | refused | unsecured => exact fun exchange member => absurd member List.not_mem_nil
  | rejected | entered => exact fun exchange member => (loginExchanges_words exchange member).2

/-- A client that is kept is open, and on the connection that has opened. -/
theorem kept : ∀ client, stop.kept = some client → client.isClosed = false ∧
    client.link.id = network.opened ∧
    .connect ⟨device.address, port⟩ (.whole device.timeout) (some client.link.id) ∈
      stop.network.events := by
  cases dialling with
  | refused | unsecured | rejected => exact nofun
  | @entered handshake reactions later line attempt secured accepted =>
    rintro _ ⟨⟩
    -- Logging in has not left the connection.
    obtain ⟨isOpen, number⟩ := login_keeps device.user device.password
      (loginLine device port network reactions)
    rw [accepted] at isOpen number
    have same : line.client.link.id = network.opened := number
    refine ⟨isOpen, same, ?_⟩
    simp [Network.after, opening, same]

end Dialling

end RouterMetrics.Fleet
