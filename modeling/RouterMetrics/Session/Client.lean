import RouterMetrics.Digest.Md5
import RouterMetrics.Session.Peer
import RouterMetrics.Session.Reply
import RouterMetrics.Wire.Writer

/-! A client on an open connection: requests, replies and login. -/

namespace RouterMetrics.Session

open RouterMetrics.Wire

/-- One end of a connection, with the sentence that is being written. -/
structure Client where
  link : Link
  writer : Writer
  isClosed : Bool
deriving Repr, DecidableEq

/-- A client on a connection that was just opened. -/
def Client.ofLink (link : Link) : Client := ⟨link, .fresh, false⟩

/-- A client and what has been seen of connections. -/
structure Line where
  client : Client
  events : List Event
deriving Repr, DecidableEq

/-- What a client does; what it has done stays when it fails. -/
abbrev Conversation := EStateM Fault Line

/-- The line with one more event. -/
def Line.record (line : Line) (event : Event) : Line :=
  { line with events := line.events ++ [event] }

/-- Closes the connection unless it is closed. -/
def Line.close (line : Line) : Line :=
  if line.client.isClosed then line
  else
    let closed := { line with client := { line.client with isClosed := true } }
    closed.record (.closed line.client.link.id)

/-- Adds a word to the sentence that is being written. -/
def writeWord (text : String) : Conversation Unit := fun line =>
  match line.client.writer.word text with
  | .error fault => .error (.wire fault) line
  | .ok writer => .ok () { line with client := { line.client with writer } }

/-- Sends bytes in one piece. -/
def transmit (bytes : List UInt8) : Conversation Unit := fun line =>
  let (outcome, link) := line.client.link.afterSend
  let after := { line with client := { line.client with link } }
  match outcome with
  | .ok () => .ok () (after.record (.sent link.id bytes))
  | .error fault => .error (.network fault) (after.record (.sendFailed link.id bytes))

/-- Starts a sentence anew. -/
def beginSentence : Conversation Unit :=
  modify fun line => { line with client := { line.client with writer := .fresh } }

/-- Ends the sentence that is being written and sends it. -/
def endSentence : Conversation Unit := do
  let (bytes, writer) := (← get).client.writer.finish
  modify fun line => { line with client := { line.client with writer } }
  transmit bytes

/-- Waits for the reply to the sentence that was sent. -/
def receive : Conversation Reply := fun line =>
  let withInbox := fun inbox =>
    { line with client := { line.client with link := { line.client.link with inbox } } }
  match readReply line.client.link.inbox with
  | .ok reply inbox => .ok reply (withInbox inbox)
  | .error fault inbox => .error fault (withInbox inbox)

/-- Sends a request and waits for the complete reply. -/
def run (words : List String) : Conversation Reply := do
  if (← get).client.isClosed then throw .closed
  beginSentence
  words.forM writeWord
  endSentence
  receive

/-- The answer to a login challenge: a digest over the password and the challenge. -/
def challengeResponse (challenge : List UInt8) (password : String) :
    Except Text.CodePage.Unencodable String := do
  let secret ← Text.CodePage.encode password
  return "00" ++ Text.hexText (Digest.Md5.digest (0 :: secret ++ challenge))

/-- The request that opens a login. -/
def loginRequest (user password : String) : List String :=
  ["/login", "=name=" ++ user, "=password=" ++ password]

/-- The request that answers a challenge. -/
def challengeRequest (user response : String) : List String :=
  ["/login", "=name=" ++ user, "=response=" ++ response]

/-- Logs in; a device that answers with a challenge gets the response to it. -/
def login (user password : String) : Conversation Unit := do
  let reply ← run (loginRequest user password)
  match reply.done.get? "ret" with
  | none => return ()
  | some challenge =>
      match Text.readHex challenge with
      | .error position => throw (.badChallenge position)
      | .ok challenge =>
          match challengeResponse challenge password with
          | .error run => throw (.unencodablePassword run)
          | .ok response => discard (run (challengeRequest user response))

end RouterMetrics.Session
