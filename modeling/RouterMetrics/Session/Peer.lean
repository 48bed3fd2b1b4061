import RouterMetrics.Wire.Inbox

/-! The other side: how a device answers what is sent to it, and how connecting to it goes. -/

namespace RouterMetrics.Session

open RouterMetrics.Wire

/-- How a device reacts to one sentence. -/
inductive Reaction where
  /-- These bytes become readable, and then what the ending says. -/
  | answer (bytes : List UInt8) (ending : Option NetworkFault)
  /-- The sentence cannot be sent. -/
  | refusal (fault : NetworkFault)
deriving Repr, DecidableEq

/-- Where a device listens. -/
structure Endpoint where
  address : String
  port : Int
deriving Repr, DecidableEq

/-- Why an address, a port or a timeout cannot be used to connect, in the words in which it is said. -/
inductive ArgumentFault where
  /-- A value out of its range, such as a timeout below zero. -/
  | outOfRange (text : String)
  /-- A number too large for the machine. -/
  | tooLarge (text : String)
  /-- A host name that cannot be encoded. -/
  | unencodableHost (text : String)
deriving Repr, DecidableEq

/-- The wording of an argument's fault. -/
def ArgumentFault.message : ArgumentFault → String
  | outOfRange text | tooLarge text | unencodableHost text => text

/-- Whether an argument's fault says that a value is not what it should be. -/
def ArgumentFault.isOfValue : ArgumentFault → Bool
  | outOfRange _ | unencodableHost _ => true
  | tooLarge _ => false

/-- How one attempt to connect goes. -/
inductive Attempt where
  | fails (fault : NetworkFault)
  /-- There is nothing to try, as the arguments are of no use. -/
  | rejects (fault : ArgumentFault)
  /-- The connection opens; a handshake on it may fail; sentences meet these reactions in turn. -/
  | opens (handshake : Option NetworkFault) (reactions : List Reaction)
deriving Repr, DecidableEq

/-- An open connection: bytes that have come, and reactions to sentences yet to be sent. -/
structure Link where
  id : Nat
  inbox : Inbox
  reactions : List Reaction
deriving Repr, DecidableEq

/-- A connection on which nothing has been sent. -/
def Link.fresh (id : Nat) (reactions : List Reaction) : Link := ⟨id, .ofBytes [], reactions⟩

/-- The link after a sentence was sent or failed to be. -/
def Link.afterSend (link : Link) : Except NetworkFault Unit × Link :=
  match link.reactions with
  | [] => (.ok (), { link with inbox := { link.inbox with ending := none } })
  | .answer bytes ending :: rest =>
      (.ok (), { link with inbox := ⟨link.inbox.unread ++ bytes, ending⟩, reactions := rest })
  | .refusal fault :: rest => (.error fault, { link with reactions := rest })

/-- A length of time in seconds, `mantissa / 10 ^ places`. -/
structure Seconds where
  mantissa : Int
  places : Nat
deriving Repr, DecidableEq

/-- A whole number of seconds. -/
def Seconds.whole (seconds : Int) : Seconds := ⟨seconds, 0⟩

/-- What can be seen of connections from outside. -/
inductive Event where
  /-- An attempt to connect, and the number of the connection if it opened. -/
  | connect (endpoint : Endpoint) (timeout : Seconds) (opened : Option Nat)
  /-- A handshake, and whether it checks the host's name and its certificate. -/
  | handshake (id : Nat) (host : String) (checksName checksCertificate : Bool)
  | sent (id : Nat) (bytes : List UInt8)
  | sendFailed (id : Nat) (bytes : List UInt8)
  | closed (id : Nat)
deriving Repr, DecidableEq

end RouterMetrics.Session
