import RouterMetrics.Proofs.Fleet.Dealings
import RouterMetrics.Proofs.Session.Challenge

/-!
Logging in comes first on every connection.

Main statement: over all commands, every connection to a device starts with its handshake, if it has
one, and then with the requests of a login; queries follow only where the last of these was accepted.
-/

namespace RouterMetrics.Session

/-- The connection that an event is about; an attempt that failed is about none. -/
def Event.connection? : Event → Option Nat
  | .connect _ _ opened => opened
  | .handshake id _ _ _ | .sent id _ | .sendFailed id _ | .closed id => some id

/-- What is seen of one connection. -/
def seenOf (id : Nat) (events : List Event) : List Event :=
  events.filter fun event => event.connection? = some id

/-- The requests on one connection. -/
def requestsOn (id : Nat) (exchanges : List Exchange) : List Exchange :=
  exchanges.filter fun exchange => exchange.connection = id

/-- All that is seen is about one connection. -/
def About (id : Nat) (events : List Event) : Prop := ∀ event ∈ events, event.connection? = some id

section Sorted

variable {id other : Nat} {events more : List Event} {exchanges later : List Exchange}

theorem seenOf_append : seenOf id (events ++ more) = seenOf id events ++ seenOf id more :=
  List.filter_append ..

theorem requestsOn_append :
    requestsOn id (exchanges ++ later) = requestsOn id exchanges ++ requestsOn id later :=
  List.filter_append ..

/-- What is about a connection is seen of it as it is. -/
theorem About.seenOf (about : About id events) : seenOf id events = events :=
  List.filter_eq_self.mpr fun event inside => by simp [about event inside]

/-- What is about another connection is not seen of this one. -/
theorem About.seenOf_other (about : About other events) (apart : id ≠ other) :
    Session.seenOf id events = [] := by
  -- An event is about one connection only.
  refine List.filter_eq_nil_iff.mpr fun event inside same => apart ?_
  rw [about event inside] at same
  simpa using (of_decide_eq_true same).symm

/-- Requests on one connection are those on it, and none of them is on another one. -/
theorem requestsOn_same (same : ∀ exchange ∈ exchanges, exchange.connection = id) :
    requestsOn id exchanges = exchanges :=
  List.filter_eq_self.mpr fun exchange inside => by simp [same exchange inside]

theorem requestsOn_other (same : ∀ exchange ∈ exchanges, exchange.connection = other)
    (apart : id ≠ other) : requestsOn id exchanges = [] := by
  -- A request is made on one connection only.
  refine List.filter_eq_nil_iff.mpr fun exchange inside here => apart ?_
  rw [same exchange inside] at here
  exact (of_decide_eq_true here).symm

/-- What is seen of a request is about its connection. -/
theorem Exchange.about_sends (exchange : Exchange) : About exchange.connection exchange.sends := by
  intro event seen
  unfold Exchange.sends at seen
  -- A request is seen as sent, as refused, or not at all.
  split at seen
  · exact absurd seen List.not_mem_nil
  · split at seen
    · rw [List.mem_singleton.mp seen]; rfl
    · rw [List.mem_singleton.mp seen]; rfl
    · exact absurd seen List.not_mem_nil

/-- What is seen of requests on one connection is about it. -/
theorem about_flatMap_sends (same : ∀ exchange ∈ exchanges, exchange.connection = id) :
    About id (exchanges.flatMap Exchange.sends) := by
  -- Each event is a send of one of the requests.
  intro event seen
  obtain ⟨exchange, inside, sent⟩ := List.mem_flatMap.mp seen
  rw [← same exchange inside]
  exact exchange.about_sends event sent

end Sorted

end RouterMetrics.Session

namespace RouterMetrics.Fleet

open RouterMetrics.Config (Device)
open RouterMetrics.Session

/-- What is seen of a connection before the first request is about it. -/
theorem about_opening (device : Device) (port : Int) (id : Nat) :
    About id (opening device port id) := by
  -- The connection opens, and there may be a handshake.
  intro event seen
  unfold opening at seen
  rcases List.mem_cons.mp seen with rfl | later
  · rfl
  · split at later
    · rw [List.mem_singleton.mp later]; rfl
    · exact absurd later List.not_mem_nil

/--
How a connection to a device goes, given how the handshakes with it go.

It has logged in unless its handshake has failed, and queries follow on an accepted login only.
-/
structure Story (device : Device) (port : Int) (handshakes : List (Option NetworkFault)) (id : Nat)
    (seen : List Event) (logins queries : List Exchange) : Prop where
  told : ∃ closing, (closing = [] ∨ closing = [.closed id]) ∧
    seen = opening device port id ++ (logins ++ queries).flatMap Exchange.sends ++ closing
  login : LoginOf device.user device.password logins ∧
      (device.tls = true → handshakes[id]? = some none) ∨
    logins = [] ∧ device.tls = true ∧ ∃ fault, handshakes[id]? = some (some fault)
  accepted : queries ≠ [] → ∃ last, logins.getLast? = some last ∧ last.Accepted

/-- How a connection goes on which the login was accepted, and that is not closed. -/
structure OpenStory (device : Device) (port : Int) (handshakes : List (Option NetworkFault))
    (id : Nat) (seen : List Event) (logins queries : List Exchange) : Prop where
  told : seen = opening device port id ++ (logins ++ queries).flatMap Exchange.sends
  login : LoginOf device.user device.password logins
  secured : device.tls = true → handshakes[id]? = some none
  accepted : ∃ last, logins.getLast? = some last ∧ last.Accepted

section Stories

variable {device : Device} {port : Int} {handshakes : List (Option NetworkFault)} {id : Nat}
  {seen : List Event} {logins queries : List Exchange}

/-- A connection that is still open may stay so, or be closed. -/
theorem OpenStory.story (story : OpenStory device port handshakes id seen logins queries)
    {closing : List Event} (ended : closing = [] ∨ closing = [.closed id]) :
    Story device port handshakes id (seen ++ closing) logins queries where
  -- What is seen at the end is all that is new.
  told := ⟨closing, ended, by rw [story.told]⟩
  login := .inl ⟨story.login, story.secured⟩
  accepted := fun _ => story.accepted

/-- A connection that is still open can take one more query. -/
theorem OpenStory.ask (story : OpenStory device port handshakes id seen logins queries)
    (query : Exchange) :
    OpenStory device port handshakes id (seen ++ query.sends) logins (queries ++ [query]) :=
  -- The query comes behind all that was told.
  { story with told := by rw [story.told]; simp [List.append_assoc] }

end Stories

/-- The stories of all connections that have opened, and the one that still goes on. -/
structure Told (device : Device) (port : Int) (handshakes : List (Option NetworkFault))
    (exchanges : List Exchange) (holding : Holding) : Prop where
  known : ∀ event ∈ holding.network.events, ∀ id, event.connection? = some id →
    id < holding.network.opened
  made : ∀ exchange ∈ exchanges, exchange.connection < holding.network.opened
  coming : holding.network.handshakes ⟨device.address, port⟩ =
    handshakes.drop holding.network.opened
  stories : ∀ id < holding.network.opened, ∃ logins queries,
    requestsOn id exchanges = logins ++ queries ∧
      Story device port handshakes id (seenOf id holding.network.events) logins queries
  kept : ∀ client, holding.kept = some client → client.isClosed = false ∧
    client.link.id < holding.network.opened ∧ ∃ logins queries,
      requestsOn client.link.id exchanges = logins ++ queries ∧
        OpenStory device port handshakes client.link.id
          (seenOf client.link.id holding.network.events) logins queries

namespace Told

variable {device : Device} {port : Int} {handshakes : List (Option NetworkFault)}
  {exchanges : List Exchange}

section Grown

variable {kept : Option Client} {network : Network}
  (told : Told device port handshakes exchanges ⟨kept, network⟩)

include told

/-- Nothing was seen of the connection that opens next, and no request was made on it. -/
theorem unseen : seenOf network.opened network.events = [] ∧
    requestsOn network.opened exchanges = [] := by
  -- All that has been noted is about connections with smaller numbers.
  constructor
  · refine List.filter_eq_nil_iff.mpr fun event inside same => ?_
    exact Nat.lt_irrefl _ (told.known event inside _ (of_decide_eq_true same))
  · refine List.filter_eq_nil_iff.mpr fun exchange inside same => ?_
    have below := told.made exchange inside
    rw [of_decide_eq_true same] at below
    exact Nat.lt_irrefl _ below

/-- The connection that opens next brings a story of its own, and leaves the others as they are. -/
theorem opened {seen : List Event} {logins : List Exchange} {later : Network}
    {kept' : Option Client} (number : later.opened = network.opened + 1)
    (events : later.events = network.events ++ seen) (about : About network.opened seen)
    (coming : later.handshakes ⟨device.address, port⟩ = handshakes.drop (network.opened + 1))
    (mine : ∀ exchange ∈ logins, exchange.connection = network.opened)
    (story : Story device port handshakes network.opened seen logins [])
    (alive : ∀ client, kept' = some client → client.isClosed = false ∧
      client.link.id = network.opened ∧
      OpenStory device port handshakes network.opened seen logins []) :
    Told device port handshakes (exchanges ++ logins) ⟨kept', later⟩ := by
  obtain ⟨unseen, unasked⟩ := told.unseen
  -- Of the new connection only the new things are seen, and of the others only the old ones.
  have here : seenOf network.opened later.events = seen := by
    rw [events, seenOf_append, unseen, about.seenOf, List.nil_append]
  have asked : requestsOn network.opened (exchanges ++ logins) = logins ++ [] := by
    rw [requestsOn_append, unasked, requestsOn_same mine, List.nil_append, List.append_nil]
  refine ⟨?_, ?_, ?_, ?_, ?_⟩
  · intro event inside id same
    simp only [events, number] at inside ⊢
    rcases List.mem_append.mp inside with before | now
    · exact Nat.lt_succ_of_lt (told.known event before id same)
    · have new : some id = some network.opened := same.symm.trans (about event now)
      exact Nat.lt_succ_of_le (Nat.le_of_eq (Option.some.inj new))
  · intro exchange inside
    simp only [number]
    rcases List.mem_append.mp inside with before | now
    · exact Nat.lt_succ_of_lt (told.made exchange before)
    · exact Nat.lt_succ_of_le (Nat.le_of_eq (mine exchange now))
  · simpa only [number] using coming
  · intro id below
    simp only [number] at below
    by_cases new : id = network.opened
    · subst new
      exact ⟨logins, [], asked, here.symm ▸ story⟩
    · have old : id < network.opened := by omega
      obtain ⟨logins', queries', requests, story'⟩ := told.stories id old
      refine ⟨logins', queries', ?_, ?_⟩
      · rw [requestsOn_append, requestsOn_other mine new, List.append_nil, requests]
      · simpa only [events, seenOf_append, about.seenOf_other new, List.append_nil] using story'
  · intro client held
    obtain ⟨isOpen, same, openStory⟩ := alive client held
    refine ⟨isOpen, by simp only [number, same]; exact Nat.lt_succ_self _, logins, [], ?_, ?_⟩
    · rw [same, asked]
    · simp only [same, here]
      exact openStory

end Grown

/-- Dialling adds one story, or none where no connection opens. -/
theorem dialled {network : Network}
    (told : Told device port handshakes exchanges ⟨none, network⟩) {logins : List Exchange}
    {stop : Holding} (dialling : Dialling device port network logins stop) :
    Told device port handshakes (exchanges ++ logins) stop := by
  let endpoint : Endpoint := ⟨device.address, port⟩
  -- What is seen of a connection and its login is about it.
  have before := about_opening device port network.opened
  have mine : ∀ {reactions}, ∀ exchange ∈ firstLogins device port network reactions,
      exchange.connection = network.opened :=
    fun exchange member => (loginExchanges_words exchange member).1
  have closed : About network.opened [.closed network.opened] := by
    intro event inside
    rw [List.mem_singleton.mp inside]
    rfl
  -- The next handshake is that of the connection, and the later ones are still to come.
  have next : ∀ {handshake reactions later},
      network.attempts.getD endpoint [] = .opens handshake reactions :: later →
      handshakes[network.opened]? = some handshake ∧ ∀ seen,
        (network.after endpoint later seen).handshakes endpoint =
          handshakes.drop (network.opened + 1) := by
    intro handshake reactions later attempt
    have coming : handshake :: later.filterMap Attempt.handshake? =
        handshakes.drop network.opened := by
      rw [← told.coming]
      simp only [Network.handshakes, endpoint] at attempt ⊢
      rw [attempt]
      rfl
    refine ⟨?_, fun seen => ?_⟩
    · rw [← List.head?_drop, ← coming]
      rfl
    · rw [← List.tail_drop, ← coming]
      simp [Network.handshakes, Network.after, OrderedMap.getD, OrderedMap.get?_put_self]
  have credentials : ∀ {reactions}, LoginOf device.user device.password
      (firstLogins device port network reactions) := loginOf_loginExchanges _ _ _
  cases dialling with
  | @refused later remaining =>
    -- No connection opens, and the attempt is about none.
    rw [List.append_nil]
    have same : ∀ id, seenOf id (network.events ++
        [.connect endpoint (.whole device.timeout) none]) = seenOf id network.events := by
      intro id
      rw [seenOf_append]
      exact List.append_nil _
    refine ⟨?_, told.made, ?_, ?_, by simp⟩
    · intro event inside id about
      rcases List.mem_append.mp inside with before | now
      · exact told.known event before id about
      · rw [List.mem_singleton.mp now] at about
        cases about
    · refine Eq.trans ?_ told.coming
      rw [← remaining]
      simp [Network.handshakes, Network.record, OrderedMap.getD, OrderedMap.get?_put_self]
    · intro id below
      obtain ⟨logins, queries, requests, story⟩ := told.stories id below
      exact ⟨logins, queries, requests, (same id).symm ▸ story⟩
  | @unsecured fault reactions later attempt encrypted =>
    obtain ⟨outcome, coming⟩ := next attempt
    have story : Story device port handshakes network.opened
        (opening device port network.opened ++ [.closed network.opened]) [] [] :=
      ⟨⟨_, .inr rfl, by simp⟩, .inr ⟨rfl, encrypted, fault, outcome⟩, fun some => absurd rfl some⟩
    refine told.opened rfl rfl ?_ (coming _) (by simp) story (by simp)
    exact List.forall_mem_append.mpr ⟨before, closed⟩
  | @rejected handshake reactions later attempt secured =>
    obtain ⟨outcome, coming⟩ := next attempt
    have sends := about_flatMap_sends (@mine reactions)
    have story : Story device port handshakes network.opened
        (opening device port network.opened ++
          (firstLogins device port network reactions).flatMap Exchange.sends ++
          [.closed network.opened]) (firstLogins device port network reactions) [] :=
      ⟨⟨_, .inr rfl, by rw [List.append_nil]⟩,
        .inl ⟨credentials, fun tls => secured tls ▸ outcome⟩, fun some => absurd rfl some⟩
    refine told.opened rfl rfl ?_ (coming _) mine story (by simp)
    exact List.forall_mem_append.mpr ⟨List.forall_mem_append.mpr ⟨before, sends⟩, closed⟩
  | @entered handshake reactions later line attempt secured accepted =>
    obtain ⟨outcome, coming⟩ := next attempt
    have sends := about_flatMap_sends (@mine reactions)
    have story : OpenStory device port handshakes network.opened
        (opening device port network.opened ++
          (firstLogins device port network reactions).flatMap Exchange.sends)
        (firstLogins device port network reactions) [] :=
      ⟨by rw [List.append_nil], credentials, fun tls => secured tls ▸ outcome,
        accepted_of_login accepted⟩
    have whole := story.story (.inl rfl)
    rw [List.append_nil] at whole
    refine told.opened rfl rfl (List.forall_mem_append.mpr ⟨before, sends⟩) (coming _) mine whole ?_
    rintro _ ⟨⟩
    -- Logging in has not left the connection, and its client is open.
    obtain ⟨isOpen, number⟩ := login_keeps device.user device.password
      (loginLine device port network reactions)
    rw [accepted] at isOpen number
    exact ⟨isOpen, number, story⟩

/-- A query goes on with the story of the kept client's connection. -/
theorem asked {client : Client} {network : Network}
    (told : Told device port handshakes exchanges ⟨some client, network⟩) (words : List String) :
    let exchange : Exchange := ⟨⟨client, network.events⟩, words⟩
    Told device port handshakes (exchanges ++ [exchange])
      ⟨some exchange.after.client, { network with events := exchange.after.events }⟩ := by
  intro exchange
  obtain ⟨isOpen, below, logins, queries, requests, story⟩ := told.kept client rfl
  obtain ⟨closed, number, -, events⟩ := exchange.after_keeps
  have about : About client.link.id exchange.sends := exchange.about_sends
  have mine : ∀ other ∈ [exchange], other.connection = client.link.id := by
    intro other inside
    rw [List.mem_singleton.mp inside]
    rfl
  have after : exchange.after.events = network.events ++ exchange.sends := events
  -- On the client's connection the query is added to what was seen and asked there.
  have here : seenOf client.link.id exchange.after.events =
      seenOf client.link.id network.events ++ exchange.sends := by
    rw [after, seenOf_append, about.seenOf]
  have asked : requestsOn client.link.id (exchanges ++ [exchange]) =
      logins ++ (queries ++ [exchange]) := by
    rw [requestsOn_append, requests, requestsOn_same mine, List.append_assoc]
  have onward := story.ask exchange
  refine ⟨?_, ?_, told.coming, ?_, ?_⟩
  · intro event inside id same
    simp only [after] at inside
    rcases List.mem_append.mp inside with before | now
    · exact told.known event before id same
    · have own : some id = some client.link.id := same.symm.trans (about event now)
      exact Option.some.inj own ▸ below
  · refine List.forall_mem_append.mpr ⟨told.made, fun other inside => ?_⟩
    rw [mine other inside]
    exact below
  · intro id opened
    by_cases own : id = client.link.id
    · subst own
      refine ⟨logins, queries ++ [exchange], asked, ?_⟩
      have whole := onward.story (.inl rfl)
      rw [List.append_nil, ← here] at whole
      exact whole
    · obtain ⟨logins', queries', requests', story'⟩ := told.stories id opened
      refine ⟨logins', queries', ?_, ?_⟩
      · rw [requestsOn_append, requestsOn_other mine own, List.append_nil, requests']
      · simpa only [after, seenOf_append, about.seenOf_other own, List.append_nil] using story'
  · rintro _ ⟨⟩
    refine ⟨closed.trans isOpen, number.symm ▸ below, logins, queries ++ [exchange], ?_, ?_⟩
    · exact number.symm ▸ asked
    · have same : exchange.after.client.link.id = client.link.id := number
      simp only [same, here]
      exact onward

/-- Dropping the kept client ends the story of its connection. -/
theorem dropped {client : Client} {network : Network}
    (told : Told device port handshakes exchanges ⟨some client, network⟩) :
    Told device port handshakes exchanges
      ⟨none, { network with events := (Line.mk client network.events).close.events }⟩ := by
  obtain ⟨isOpen, below, logins, queries, requests, story⟩ := told.kept client rfl
  have after : (Line.mk client network.events).close.events =
      network.events ++ [.closed client.link.id] := by simp [Line.close, Line.record, isOpen]
  have about : About client.link.id [.closed client.link.id] := by
    intro event inside
    rw [List.mem_singleton.mp inside]
    rfl
  -- Nothing is asked any more, and no other connection is told about.
  refine ⟨?_, told.made, told.coming, ?_, by simp⟩
  · intro event inside id same
    simp only [after] at inside
    rcases List.mem_append.mp inside with before | now
    · exact told.known event before id same
    · have own : some id = some client.link.id := same.symm.trans (about event now)
      exact Option.some.inj own ▸ below
  · intro id opened
    by_cases own : id = client.link.id
    · subst own
      refine ⟨logins, queries, requests, ?_⟩
      simp only [after, seenOf_append, about.seenOf]
      exact story.story (.inr rfl)
    · obtain ⟨logins', queries', requests', story'⟩ := told.stories id opened
      refine ⟨logins', queries', requests', ?_⟩
      simpa only [after, seenOf_append, about.seenOf_other own, List.append_nil] using story'

/-- Whatever dealings follow on a moment without requests, the stories of all connections are told. -/
theorem of_dealings {start stop : Holding} (fresh : Told device port handshakes [] start)
    (dealings : Dealings device port start exchanges stop) :
    Told device port handshakes exchanges stop := by
  induction dealings with
  | refl => exact fresh
  | @dialled _ visit _ ours free ih =>
    obtain ⟨rfl, rfl⟩ := ours
    -- Dialling starts without a client, so the story so far is that of closed connections.
    have held : visit.holding = ⟨none, visit.network⟩ := by rw [Visit.holding, free]
    rw [held] at ih
    exact ih.dialled (dialling_dial free)
  | asked _ _ ih => exact ih.asked _
  | dropped _ ih => exact ih.dropped

end Told

/--
Over all commands, logging in comes first on every connection.

Of each connection is seen that it opens, its handshake exactly if the device is encrypted, with
both checks unless the device is insecure, its requests in their order, and at most that it is
closed.
Unless the handshake failed, the requests start with the credentials; the response to a challenge
follows exactly if the answer to them has one; and others follow only where the last of these was
accepted.
No login fails since the password cannot be encoded for the response.
-/
theorem login_comes_first (device : Device) (assignments : List Assignment)
    (attempts : OrderedMap Endpoint (List Attempt)) (commands : List Command)
    (registered : ∀ assignment ∈ assignments, assignment.collector ∈ Collector.all) :
    let start := Visit.start device assignments attempts
    let stop := start.performAll commands
    let handshakes := start.network.handshakes ⟨device.address, device.portOrUsual⟩
    (∀ id < stop.network.opened, ∃ logins queries,
      requestsOn id (history start commands) = logins ++ queries ∧
        Story device device.portOrUsual handshakes id (seenOf id stop.network.events) logins
          queries) ∧
      (∀ event ∈ stop.network.events, ∀ id, event.connection? = some id →
        id < stop.network.opened) ∧
      (∀ exchange ∈ history start commands, exchange.connection < stop.network.opened) ∧
      ∀ line later run, login device.user device.password line ≠
        .error (.unencodablePassword run) later := by
  intro start stop handshakes
  have here : start.IsOf device device.portOrUsual := ⟨rfl, rfl⟩
  have enabled : start.Registered := registered
  -- At the start there is nothing to tell of: no event, no request, no connection, no client.
  have fresh : Told device device.portOrUsual handshakes [] start.holding := by
    refine ⟨?_, ?_, rfl, ?_, ?_⟩
    · exact fun event inside => absurd inside List.not_mem_nil
    · exact fun exchange inside => absurd inside List.not_mem_nil
    · exact fun id below => absurd below (Nat.not_lt_zero id)
    · exact fun client held => absurd held.symm (Option.some_ne_none client)
  -- The commands deal with one connection after another, which carries what is told.
  have told := fresh.of_dealings (dealings_history enabled here commands)
  exact ⟨told.stories, told.known, told.made, login_ne_unencodable device.user device.password⟩

/-- An encrypted device whose first handshake fails, and that answers the next login with a challenge. -/
def challengingAttempts : OrderedMap Endpoint (List Attempt) :=
  let done : List UInt8 := [5, 33, 100, 111, 110, 101, 0]
  let challenge : List UInt8 :=
    [5, 33, 100, 111, 110, 101, 9, 61, 114, 101, 116, 61, 48, 49, 48, 50, 0]
  .ofList [(⟨"10.0.0.1", 8729⟩,
    [.opens (some .handshake) [],
      .opens none [.answer challenge none, .answer done none, .answer done none]])]

/-- Nothing is asked on the first connection; on the second one the response follows, then a query. -/
theorem login_comes_first_challenged :
    let device : Device := { address := "10.0.0.1", tls := true, user := "u", password := "p" }
    let start := Visit.start device [⟨"health", Collector.Health.collector⟩] challengingAttempts
    let commands := [.collect, .collect, .close]
    let stop := start.performAll commands
    let handshakes := start.network.handshakes ⟨device.address, device.portOrUsual⟩
    (history start commands).map (fun exchange => (exchange.connection, exchange.words)) =
        [(1, ["/login", "=name=u", "=password=p"]),
          (1, ["/login", "=name=u", "=response=00a634efa10035ba6d1899a0a8fde3b8f4"]),
          (1, ["/system/health/print"])] ∧
      (∀ id < stop.network.opened, ∃ logins queries,
        requestsOn id (history start commands) = logins ++ queries ∧
          Story device device.portOrUsual handshakes id (seenOf id stop.network.events) logins
            queries) ∧
      (∀ event ∈ stop.network.events, ∀ id, event.connection? = some id →
        id < stop.network.opened) ∧
      (∀ exchange ∈ history start commands, exchange.connection < stop.network.opened) ∧
      ∀ line later run, login device.user device.password line ≠
        .error (.unencodablePassword run) later :=
  ⟨by decide +kernel,
    login_comes_first { address := "10.0.0.1", tls := true, user := "u", password := "p" }
      [⟨"health", Collector.Health.collector⟩] challengingAttempts [.collect, .collect, .close]
      (by simp [Collector.all])⟩

end RouterMetrics.Fleet
