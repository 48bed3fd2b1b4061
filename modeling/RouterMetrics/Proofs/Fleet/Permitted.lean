import RouterMetrics.Proofs.Collector.Requests
import RouterMetrics.Proofs.Fleet.Dealings
import RouterMetrics.Proofs.Service
import RouterMetrics.Proofs.Wire.Sent

/-!
What the fleet sends to its devices.

Main statement: whatever the devices answer, everything sent is one sentence with a fixed command
that reads or logs in, and a device without IPv6 is asked for nothing of it.
-/

namespace RouterMetrics.Session

/-- The bytes of a request that was sent, or that was refused on the way. -/
def Event.bytes? : Event → Option (List UInt8)
  | .sent _ bytes | .sendFailed _ bytes => some bytes
  | .connect _ _ _ | .handshake _ _ _ _ | .closed _ => none

/-- What is seen of a request are the bytes of its words. -/
theorem Exchange.bytes_of_sends {exchange : Exchange} :
    ∀ event ∈ exchange.sends, ∃ bytes, event.bytes? = some bytes ∧
      Wire.encodeSentence exchange.words = .ok bytes := by
  unfold Exchange.sends Exchange.bytes
  intro event seen
  split at seen
  · exact absurd seen List.not_mem_nil
  · cases written : Wire.encodeSentence exchange.words with
    | error fault =>
      -- A request whose words cannot be written is not seen.
      rw [written] at seen
      exact absurd seen List.not_mem_nil
    | ok bytes =>
      refine ⟨bytes, ?_, rfl⟩
      rw [written] at seen
      cases sent : exchange.line.client.link.afterSend.1 with
      | ok delivered =>
        rw [sent] at seen
        exact List.mem_singleton.mp seen ▸ rfl
      | error fault =>
        rw [sent] at seen
        exact List.mem_singleton.mp seen ▸ rfl

end RouterMetrics.Session

namespace RouterMetrics.Fleet

open RouterMetrics.Collector (IsArgument IsRequest)
open RouterMetrics.Config (Device)
open RouterMetrics.Session
open RouterMetrics.Wire (encodeSentence sentWords)

/-- All commands: to log in, to look after a client, and those of the collectors. -/
def allCommands : List String := "/login" :: "/system/identity/print" :: Collector.commands

/-- The bytes are one sentence with nothing behind it, and a request that the device may be sent. -/
def Permitted (device : Device) (bytes : List UInt8) : Prop :=
  ∃ command arguments, encodeSentence (command :: arguments) = .ok bytes ∧
    sentWords bytes = (command :: arguments, []) ∧ "" ∉ command :: arguments ∧
    IsRequest allCommands device.ipv6Disabled command arguments ∧
    (command ≠ "/login" → Collector.Reads command)

/-- All commands but that of the login read. -/
theorem allCommands_read {command : String} (listed : command ∈ allCommands)
    (other : command ≠ "/login") : Collector.Reads command := by
  -- The login comes first in the list, the question for the identity next, then those of the collectors.
  rcases List.mem_cons.mp listed with login | listed
  · exact absurd login other
  rcases List.mem_cons.mp listed with rfl | listed
  · exact ⟨"/print", by decide, by decide⟩
  · exact Collector.commands_read command listed

/-- A query about a device is a request that it may be sent. -/
theorem Queries.isRequest {device : Device} {words : List String} (queries : Queries device words) :
    ∃ command arguments, words = command :: arguments ∧
      IsRequest allCommands device.ipv6Disabled command arguments := by
  rcases queries with rfl | ⟨routine, listed, name, asked⟩
  · exact ⟨_, [], rfl, by decide, by simp, fun _ => by decide⟩
  · -- The commands of the collectors are among all commands.
    obtain ⟨command, arguments, rfl, request⟩ := Collector.asks_of_routine listed asked
    refine ⟨command, arguments, rfl, request.mono ?_⟩
    exact List.subset_cons_of_subset _ (List.subset_cons_self _ _)

/-- A request of a login is one that every device may be sent, whatever name it has in it. -/
theorem isRequest_login (device : Device) (user text : String) {mark : String}
    (marked : IsArgument mark) :
    IsRequest allCommands device.ipv6Disabled "/login" ["=name=" ++ user, mark ++ text] where
  -- The name and the second argument stand behind their marks, whatever they say.
  listed := by decide
  arguments := by
    have named : IsArgument ("=name=" ++ user) := Collector.IsArgument.append (by decide) user
    simp [named, marked.append text]
  apart := fun _ => by decide

section Dealt

variable {device : Device} {port : Int} {start stop : Holding} {exchanges : List Exchange}

/-- Every request of a dealing is one that the device may be sent. -/
theorem Dealings.isRequest (dealings : Dealings device port start exchanges stop) :
    ∀ exchange ∈ exchanges, ∃ command arguments, exchange.words = command :: arguments ∧
      IsRequest allCommands device.ipv6Disabled command arguments := by
  -- An exchange belongs to the login, to the response to a challenge, or to a query.
  intro exchange member
  rcases dealings.words exchange member with first | ⟨response, second⟩ | queries
  · exact ⟨_, _, first, isRequest_login device device.user device.password (by decide)⟩
  · exact ⟨_, _, second, isRequest_login device device.user response (by decide)⟩
  · exact queries.isRequest

/-- All that is sent in a dealing is permitted. -/
theorem Dealings.permitted (dealings : Dealings device port start exchanges stop) :
    ∀ exchange ∈ exchanges, ∀ event ∈ exchange.sends,
      ∃ bytes, event.bytes? = some bytes ∧ Permitted device bytes := by
  intro exchange member event seen
  obtain ⟨bytes, shown, written⟩ := Exchange.bytes_of_sends event seen
  obtain ⟨command, arguments, same, request⟩ := dealings.isRequest exchange member
  rw [same] at written
  -- No word ends the sentence before its time, whatever texts are in them.
  have nonempty := request.nonempty (by decide)
  refine ⟨bytes, shown, command, arguments, written, ?_, ?_, request, ?_⟩
  · exact Wire.sentWords_encodeSentence written nonempty
  · exact fun empty => nonempty "" empty rfl
  · exact allCommands_read request.listed

end Dealt

/-- A request that was made for a device. -/
structure Contact where
  device : Device
  exchange : Exchange

/-- The requests of a visit, which are made for its device. -/
def Visit.contacts (visit : Visit) : List Contact :=
  (scrapeExchanges visit).map (Contact.mk visit.member.device)

/-- What is done with the whole fleet. -/
inductive Errand where
  /-- All devices are scraped, which takes some seconds for each of them. -/
  | collect (seconds : Float)
  | close

namespace Errand

/-- The fleet and the network after an errand. -/
def perform : Fleet × Network → Errand → Fleet × Network
  | (fleet, network), collect seconds =>
      ((fleet.collect seconds network).fleet, (fleet.collect seconds network).network)
  | (fleet, network), close => fleet.close network

/-- The requests of an errand. -/
def contacts : Fleet × Network → Errand → List Contact
  | (fleet, network), collect _ => (visits network fleet.members).flatMap Visit.contacts
  | _, close => []

/-- The requests of errands in turn. -/
def allContacts (state : Fleet × Network) : List Errand → List Contact
  | [] => []
  | errand :: later => errand.contacts state ++ allContacts (perform state errand) later

end Errand

/-- The request is made for a configured device, on a connection to it, and is permitted there. -/
structure Contact.Proper (config : Config) (events : List Event) (contact : Contact) : Prop where
  configured : contact.device ∈ config.devices
  connected : .connect ⟨contact.device.address, contact.device.portOrUsual⟩
    (.whole contact.device.timeout) (some contact.exchange.connection) ∈ events
  permitted : ∀ event ∈ contact.exchange.sends,
    ∃ bytes, event.bytes? = some bytes ∧ Permitted contact.device bytes

/-- A member for a configured device; a client that is kept of it is on a connection to it. -/
structure Member.Belongs (config : Config) (events : List Event) (member : Member) : Prop where
  configured : member.device ∈ config.devices
  port : member.port = member.device.portOrUsual
  registered : ∀ assignment ∈ member.assignments, assignment.collector ∈ Collector.all
  kept : ∀ client, member.kept = some client →
    .connect ⟨member.device.address, member.device.portOrUsual⟩ (.whole member.device.timeout)
      (some client.link.id) ∈ events

/-- From one moment to another, exactly these requests are made, all of them proper. -/
def Proceeds (config : Config) (start : Network) (contacts : List Contact) (stop : Network) :
    Prop :=
  ∃ seen, stop.events = start.events ++ seen ∧
    seen.filter Event.isSend = contacts.flatMap (fun contact => contact.exchange.sends) ∧
    ∀ contact ∈ contacts, contact.Proper config stop.events

namespace Proceeds

variable {config : Config} {start middle stop : Network} {contacts later : List Contact}

/-- Between a moment and itself nothing is sent. -/
theorem refl (network : Network) : Proceeds config network [] network :=
  -- There is nobody to have been contacted.
  ⟨[], (List.append_nil _).symm, rfl, fun _ none => absurd none List.not_mem_nil⟩

/-- What was seen before is still known. -/
theorem subset (proceeds : Proceeds config start contacts stop) : start.events ⊆ stop.events := by
  -- What is seen is only added to.
  obtain ⟨seen, events, -, -⟩ := proceeds
  exact events ▸ List.subset_append_left _ _

/-- What is sent first and what is sent then. -/
theorem trans (first : Proceeds config start contacts middle)
    (second : Proceeds config middle later stop) :
    Proceeds config start (contacts ++ later) stop := by
  have known := second.subset
  obtain ⟨seen, before, sends, proper⟩ := first
  obtain ⟨more, after, others, properToo⟩ := second
  refine ⟨seen ++ more, by rw [after, before, List.append_assoc], ?_, ?_⟩
  · -- The sends of both parts stand one behind the other.
    rw [List.filter_append, sends, others, List.flatMap_append]
  · -- A connection of the first part was opened in what is known later, too.
    refine List.forall_mem_append.mpr ⟨fun contact inside => ?_, properToo⟩
    exact { proper contact inside with connected := known (proper contact inside).connected }

end Proceeds

/-- What a member is stays so while more is seen. -/
theorem Member.Belongs.later {config : Config} {events more : List Event} {member : Member}
    (belongs : member.Belongs config events) (known : events ⊆ more) :
    member.Belongs config more :=
  -- The connection of a kept client stays among what is seen.
  { belongs with kept := fun client kept => known (belongs.kept client kept) }

/-- Members stay where they belong while more is seen, and one more joins them. -/
theorem belongs_concat {config : Config} {events more : List Event} {members : List Member}
    {member : Member} (known : events ⊆ more) (done : ∀ other ∈ members, other.Belongs config events)
    (left : member.Belongs config more) :
    ∀ other ∈ members ++ [member], other.Belongs config more := by
  -- The earlier members keep their place; the new one has its own.
  intro other inside
  rcases List.mem_append.mp inside with before | last
  · exact (done other before).later known
  · rw [List.mem_singleton.mp last]
    exact left

/-- A command to a member sends only what is proper, and leaves the member where it belongs. -/
theorem proceeds_perform {config : Config} {visit : Visit}
    (belongs : visit.member.Belongs config visit.network.events) (command : Command) :
    Proceeds config visit.network
        ((commandExchanges visit command).map (Contact.mk visit.member.device))
        (visit.perform command).network ∧
      (visit.perform command).member.Belongs config (visit.perform command).network.events := by
  have here : visit.IsOf visit.member.device visit.member.port := ⟨rfl, rfl⟩
  have dealings := dealings_command belongs.registered here command
  have permitted := dealings.permitted
  obtain ⟨seen, events, sends⟩ := dealings.events
  rw [belongs.port] at dealings
  obtain ⟨reached, kept⟩ := dealings.reaches belongs.kept
  refine ⟨⟨seen, events, by rw [sends, List.flatMap_map], fun contact made => ?_⟩, ?_⟩
  · obtain ⟨exchange, asked, rfl⟩ := List.mem_map.mp made
    exact ⟨belongs.configured, reached exchange asked, permitted exchange asked⟩
  · -- The member is the same one, up to its client and its errors.
    obtain ⟨device, port⟩ := Visit.perform_isOf here command
    refine ⟨device ▸ belongs.configured, ?_, Visit.perform_registered belongs.registered command, ?_⟩
    · rw [port, device, belongs.port]
    · rw [device]
      exact kept

section Rounds

variable {config : Config}

/-- A scrape of several members sends only what is proper, and leaves them where they belong. -/
theorem proceeds_visits (seconds : Float) (members : List Member) (round : Round)
    (done : ∀ member ∈ round.members, member.Belongs config round.network.events)
    (next : ∀ member ∈ members, member.Belongs config round.network.events) :
    let stop := members.foldl (Round.visit seconds) round
    Proceeds config round.network ((visits round.network members).flatMap Visit.contacts)
        stop.network ∧
      ∀ member ∈ stop.members, member.Belongs config stop.network.events := by
  induction members generalizing round with
  | nil => exact ⟨.refl _, done⟩
  | cons member members ih =>
    obtain ⟨own, others⟩ := List.forall_mem_cons.mp next
    let visit : Visit := ⟨member, round.network, .empty, []⟩
    have mine : visit.member.Belongs config visit.network.events := own
    obtain ⟨first, left⟩ := proceeds_perform mine .collect
    -- The first scrape leaves the other members as they are, and more is known then.
    obtain ⟨rest, settled⟩ := ih (round.visit seconds member) (belongs_concat first.subset done left)
      fun other inside => (others other inside).later first.subset
    exact ⟨first.trans rest, settled⟩

/-- Closing members sends nothing, and leaves them where they belong. -/
theorem proceeds_closing (members : List Member) (state : Fleet × Network)
    (done : ∀ member ∈ state.1.members, member.Belongs config state.2.events)
    (next : ∀ member ∈ members, member.Belongs config state.2.events) :
    let stop := members.foldl
      (fun (fleet, network) member =>
        let visit := (Visit.mk member network .empty []).drop
        (⟨fleet.members ++ [visit.member]⟩, visit.network)) state
    Proceeds config state.2 [] stop.2 ∧
      ∀ member ∈ stop.1.members, member.Belongs config stop.2.events := by
  induction members generalizing state with
  | nil => exact ⟨.refl _, done⟩
  | cons member members ih =>
    obtain ⟨own, others⟩ := List.forall_mem_cons.mp next
    let visit : Visit := ⟨member, state.2, .empty, []⟩
    have mine : visit.member.Belongs config visit.network.events := own
    obtain ⟨first, left⟩ := proceeds_perform mine .close
    -- As with a scrape, the closed member joins those that are done.
    obtain ⟨rest, settled⟩ := ih (⟨state.1.members ++ [visit.drop.member]⟩, visit.drop.network)
      (belongs_concat first.subset done left)
      fun other inside => (others other inside).later first.subset
    exact ⟨first.trans rest, settled⟩

/-- An errand sends only what is proper, and leaves every member where it belongs. -/
theorem proceeds_errand {state : Fleet × Network}
    (belongs : ∀ member ∈ state.1.members, member.Belongs config state.2.events)
    (errand : Errand) :
    Proceeds config state.2 (errand.contacts state) (errand.perform state).2 ∧
      ∀ member ∈ (errand.perform state).1.members,
        member.Belongs config (errand.perform state).2.events := by
  have nobody : ∀ member ∈ ([] : List Member), member.Belongs config state.2.events :=
    fun _ none => absurd none List.not_mem_nil
  cases errand with
  -- A round leaves its members one by one, starting with none.
  | collect seconds =>
    exact proceeds_visits seconds state.1.members ⟨[], state.2, [], []⟩ nobody belongs
  -- Closing goes through the members in the same way.
  | close => exact proceeds_closing state.1.members (⟨[]⟩, state.2) nobody belongs

/-- Errands in turn send only what is proper. -/
theorem proceeds_errands {state : Fleet × Network}
    (belongs : ∀ member ∈ state.1.members, member.Belongs config state.2.events)
    (errands : List Errand) :
    Proceeds config state.2 (Errand.allContacts state errands)
      (errands.foldl Errand.perform state).2 := by
  -- The induction is on the errands: members stay where they belong from one to the next.
  induction errands generalizing state with
  | nil => exact .refl _
  | cons errand later ih =>
    obtain ⟨first, left⟩ := proceeds_errand belongs errand
    exact first.trans (ih left)

end Rounds

/-- The members of a configured fleet belong to it; no client of theirs is kept. -/
theorem belongs_of_configured {config : Config} {fleet : Fleet}
    (configured : ofConfig config = .ok fleet) (events : List Event) :
    ∀ member ∈ fleet.members, member.Belongs config events := by
  -- A member is made of its device, and nobody has dialled for it yet.
  intro member inside
  obtain ⟨device, known, made⟩ := exists_of_forall₂ (ofConfig_members configured) inside
  have registered := memberOf_registered made
  obtain ⟨-, -, assignments, -, -, -, rfl⟩ := memberOf_ok made
  exact ⟨known, rfl, registered, nofun⟩

/--
Over all errands of a configured fleet, only fixed requests are sent.

What is sent are the requests of the visits to the devices, each on a connection to its device.
All that is sent is one sentence, of a command that logs in, looks after a client or belongs to a
collector, with arguments behind it; and none is about IPv6 where the device has none.
-/
theorem only_permitted_sent {config : Config} {fleet : Fleet}
    (configured : ofConfig config = .ok fleet) (network : Network) (errands : List Errand) :
    let stop := errands.foldl Errand.perform (fleet, network)
    let contacts := Errand.allContacts (fleet, network) errands
    ∃ seen, stop.2.events = network.events ++ seen ∧
      seen.filter Event.isSend = contacts.flatMap (fun contact => contact.exchange.sends) ∧
      ∀ contact ∈ contacts, contact.Proper config stop.2.events :=
  -- At the start every member belongs to the fleet, and the induction over the errands does the rest.
  proceeds_errands (belongs_of_configured configured network.events) errands

/-- A configuration of a device without IPv6, of which the leases and the pools are told. -/
def hostileConfig : Config :=
  ⟨[{ name := "gw1", address := "10.0.0.1", ipv6Disabled := true }],
    .ofList [(.text "dhcp", .bool true), (.text "pools", .bool true)], .empty⟩

/-- The name of a server has an empty word in it, and behind that a word that logs in. -/
def hostileNetwork : Network :=
  let done : List UInt8 := [5, 33, 100, 111, 110, 101, 0]
  let row : List UInt8 :=
    [3, 33, 114, 101, 14, 61, 110, 97, 109, 101, 61, 0, 6, 47, 108, 111, 103, 105, 110, 0]
  .ofAttempts (.ofList [(⟨"10.0.0.1", 8728⟩,
    [.opens none [.answer done none, .answer (row ++ done) none, .answer done none,
      .answer done none]])])

/-- The hostile name only stands behind the mark of a filter, and no pools of IPv6 are asked for. -/
theorem only_permitted_sent_to_hostile :
    ∃ fleet, ofConfig hostileConfig = .ok fleet ∧
      let errands := [.collect 0.5, .close]
      let stop := errands.foldl Errand.perform (fleet, hostileNetwork)
      let contacts := Errand.allContacts (fleet, hostileNetwork) errands
      contacts.map (fun contact => contact.exchange.words) =
          [["/login", "=name=", "=password="],
            ["/ip/dhcp-server/print", "?disabled=false", "=.proplist=name"],
            ["/ip/dhcp-server/lease/print", "?server=\x00\x06/login", "=active=", "=count-only="],
            ["/ip/pool/print", "=.proplist=name,total,used"]] ∧
        ∃ seen, stop.2.events = hostileNetwork.events ++ seen ∧
          seen.filter Event.isSend = contacts.flatMap (fun contact => contact.exchange.sends) ∧
          ∀ contact ∈ contacts, contact.Proper hostileConfig stop.2.events := by
  have configured : ofConfig hostileConfig = .ok ⟨_⟩ := rfl
  exact ⟨_, configured, by decide +kernel, only_permitted_sent configured hostileNetwork _⟩

end RouterMetrics.Fleet
