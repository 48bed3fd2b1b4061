import RouterMetrics.Session.Client

/-! Opening a connection and logging in on it. -/

namespace RouterMetrics.Session

open RouterMetrics.Wire

/-- The reachable devices: how the next attempts to connect will go, and what was seen so far. -/
structure Network where
  attempts : OrderedMap Endpoint (List Attempt)
  opened : Nat
  events : List Event
deriving Repr, DecidableEq

/-- The network of the given attempts, on which nothing has happened. -/
def Network.ofAttempts (attempts : OrderedMap Endpoint (List Attempt)) : Network :=
  ⟨attempts, 0, []⟩

/-- The network with one more event. -/
def Network.record (network : Network) (event : Event) : Network :=
  { network with events := network.events ++ [event] }

/-- Whether a connection is encrypted, and whether the other side then has to prove who it is. -/
inductive Security where
  | plain
  | encrypted (verified : Bool)
deriving Repr, DecidableEq

/-- Tries to connect; where nothing is left to meet, the attempt is refused. -/
def Network.connect (endpoint : Endpoint) (timeout : Seconds) :
    EStateM Fault Network (Option NetworkFault × Link) := fun network =>
  let (attempt, later) :=
    match network.attempts.getD endpoint [] with
    | [] => (Attempt.fails .refused, [])
    | attempt :: later => (attempt, later)
  let network := { network with attempts := network.attempts.put endpoint later }
  match attempt with
  | .fails fault => .error (.network fault) (network.record (.connect endpoint timeout none))
  | .rejects fault => .error (.badArgument fault) (network.record (.connect endpoint timeout none))
  | .opens handshake reactions =>
      let id := network.opened
      let network := { network with opened := id + 1 }
      .ok (handshake, .fresh id reactions) (network.record (.connect endpoint timeout (some id)))

/-- Makes the connection secure as asked; one that cannot be made so is closed. -/
def Network.secure (host : String) (security : Security) (outcome : Option NetworkFault)
    (link : Link) : EStateM Fault Network Unit := fun network =>
  match security with
  | .plain => .ok () network
  | .encrypted verified =>
      let network := network.record (.handshake link.id host verified verified)
      match outcome with
      | none => .ok () network
      | some fault => .error (.network fault) (network.record (.closed link.id))

/-- Logs in on a connection; if that fails the connection is closed. -/
def Network.enter (user password : String) (link : Link) : EStateM Fault Network Client :=
  fun network =>
    match login user password ⟨.ofLink link, network.events⟩ with
    | .ok () line => .ok line.client { network with events := line.events }
    | .error fault line => .error fault { network with events := line.close.events }

/-- Connects, makes the connection secure and logs in. -/
def Network.dial (endpoint : Endpoint) (security : Security) (timeout : Seconds)
    (user password : String) : EStateM Fault Network Client := do
  let (handshake, link) ← Network.connect endpoint timeout
  Network.secure endpoint.address security handshake link
  Network.enter user password link

end RouterMetrics.Session
