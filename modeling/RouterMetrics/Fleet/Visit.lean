import RouterMetrics.Fleet.Member

/-! Visits: one scrape of one device, from its connection to the turns of its collectors. -/

namespace RouterMetrics.Fleet

open RouterMetrics.Metric (Ledger)
open RouterMetrics.Session (Client Line Network)

/-- A device that is being scraped: the network around it and what has come out so far. -/
structure Visit where
  member : Member
  network : Network
  ledger : Ledger
  notices : List Notice

/-- How the turn of one collector went. -/
structure Turn where
  collector : String
  fault : Option Collector.Fault

/-- How a scrape went. -/
inductive Outcome where
  /-- There is no connection, for a reason that devices and networks have. -/
  | unreachable (fault : Session.Fault)
  /-- There is no connection, for any other reason. -/
  | unforeseen (fault : Session.Fault)
  /-- These collectors had their turns. -/
  | visited (turns : List Turn)

/-- What to tell about the turn of a collector. -/
def Turn.notice? (turn : Turn) : Option Notice :=
  turn.fault.map fun fault =>
    match consequence fault with
    | .connectionLost => .connectionLost turn.collector fault
    | .sessionEnded | .collectorFailed => .collectorFailed turn.collector fault
    | .unforeseen => .unforeseen fault

/-- What to tell about a scrape. -/
def Outcome.notices : Outcome → List Notice
  | unreachable fault => [.unreachable fault]
  | unforeseen fault => [.unforeseen (.session fault)]
  | visited turns => turns.filterMap Turn.notice?

/-- How many errors a scrape had. -/
def Outcome.errors : Outcome → Nat
  | unreachable _ | unforeseen _ => 1
  | visited turns => turns.countP fun turn => turn.fault.isSome

/-- Whether a scrape went without errors. -/
def Outcome.isSuccess : Outcome → Bool
  | unreachable _ | unforeseen _ => false
  | visited turns => turns.all fun turn => turn.fault.isNone

namespace Visit

/-- The line on which a client talks during the visit. -/
def line (visit : Visit) (client : Client) : Line := ⟨client, visit.network.events⟩

/-- The visit with another client kept, or with none. -/
def keeping (visit : Visit) (kept : Option Client) : Visit :=
  { visit with member := { visit.member with kept } }

/-- The visit after something happened on a line, whose client is kept. -/
def after (visit : Visit) (line : Line) : Visit :=
  { visit.keeping (some line.client) with network := { visit.network with events := line.events } }

/-- The visit with one more notice. -/
def notify (visit : Visit) (notice : Notice) : Visit :=
  { visit with notices := visit.notices ++ [notice] }

/-- Closes the kept client, if there is one, and keeps it no longer. -/
def drop (visit : Visit) : Visit :=
  match visit.member.kept with
  | none => visit
  | some client => (visit.after (visit.line client).close).keeping none

end Visit

/-- The request that every device answers with at least one row. -/
def identityRequest : List String := ["/system/identity/print"]

/-- Looks whether the kept client still answers; one that does not is dropped. -/
def probe : EStateM Session.Fault Visit (Option Client) := fun visit =>
  match visit.member.kept with
  | none => .ok none visit
  | some client =>
      match Session.run identityRequest (visit.line client) with
      | .ok reply line =>
          if reply.rows.isEmpty then .ok none ((visit.after line).notify .emptyIdentity).drop
          else .ok (some line.client) (visit.after line)
      | .error fault line =>
          if fault.isExpected then .ok none ((visit.after line).notify (.stale fault)).drop
          else .error fault (visit.after line)

/-- Connects to the device anew and keeps the client. -/
def dial : EStateM Session.Fault Visit Client := fun visit =>
  let member := visit.member
  match visit.network.dial member.endpoint member.security member.timeout member.device.user
      member.device.password with
  | .ok client network =>
      .ok client (({ visit with network }.keeping (some client)).notify .connected)
  | .error fault network => .error fault { visit with network }

/-- A client that answers: the kept one if it does, a new one otherwise. -/
def connect : EStateM Session.Fault Visit Client := do
  match ← probe with
  | some client => return client
  | none => dial

/-- One collector's turn. -/
def takeTurn (assignment : Assignment) (client : Client) (visit : Visit) :
    Turn × Client × Visit :=
  let target := Collector.Target.ofDevice visit.member.device assignment.name
  let finish := fun (fault : Option Collector.Fault) (scrape : Collector.Scrape) =>
    (Turn.mk assignment.name fault, scrape.line.client,
      { visit.after scrape.line with ledger := scrape.ledger })
  match assignment.collector.collect target ⟨visit.line client, visit.ledger⟩ with
  | .ok () scrape => finish none scrape
  | .error fault scrape => finish (some fault) scrape

/-- The turns of collectors, up to the first whose fault leaves nothing to go on with. -/
def takeTurns (client : Client) (visit : Visit) : List Assignment → List Turn × Visit
  | [] => ([], visit)
  | assignment :: later =>
      let (turn, client, visit) := takeTurn assignment client visit
      match turn.fault.map consequence with
      | none | some .collectorFailed =>
          let (turns, visit) := takeTurns client visit later
          (turn :: turns, visit)
      | some .connectionLost | some .sessionEnded => ([turn], visit.drop)
      -- The client is kept: the next probe will tell what it is good for.
      | some .unforeseen => ([turn], visit)

/-- Connects to a device and lets its collectors have their turns. -/
def attend (visit : Visit) : Outcome × Visit :=
  match connect visit with
  | .error fault visit =>
      (if fault.isExpected then .unreachable fault else .unforeseen fault, visit)
  | .ok client visit =>
      let (turns, visit) := takeTurns client visit visit.member.assignments
      (.visited turns, visit)

/-- The visit with the errors of its outcome counted and its notices given. -/
def Visit.conclude (visit : Visit) (outcome : Outcome) : Visit :=
  { visit with
    member := { visit.member with errors := visit.member.errors + outcome.errors }
    notices := visit.notices ++ outcome.notices }

/-- One scrape of a device. -/
def scrape (visit : Visit) : Outcome × Visit :=
  let (outcome, visit) := attend visit
  (outcome, visit.conclude outcome)

end RouterMetrics.Fleet
