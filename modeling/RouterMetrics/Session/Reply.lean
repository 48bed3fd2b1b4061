import RouterMetrics.Session.Peer
import RouterMetrics.Wire.Sentence

/-! Replies: the rows that answer a request, and the sentence that completes them. -/

namespace RouterMetrics.Session

open RouterMetrics.Wire

/-- A complete reply. -/
structure Reply where
  rows : List Sentence
  done : Sentence
deriving Repr, DecidableEq

/-- The text of a reply: its sentences on lines of their own. -/
def Reply.text (reply : Reply) : String :=
  "\n".intercalate ((reply.rows ++ [reply.done]).map Sentence.text)

/-- Why a request was not answered. -/
inductive Fault where
  /-- Reading or writing failed. -/
  | wire (fault : Wire.Fault)
  /-- The device refused the request, with a reply, or ended the session, without one. -/
  | device (trap : Sentence) (reply : Option Reply)
  /-- A sentence that has no place in a reply. -/
  | unknownReply (sentence : Sentence)
  /-- The challenge of a login is not hexadecimal at this position. -/
  | badChallenge (position : Nat)
  /-- The password has characters outside the code page. -/
  | unencodablePassword (run : Text.CodePage.Unencodable)
  /-- No connection can be made with these arguments. -/
  | badArgument (fault : ArgumentFault)
  /-- The connection was closed before. -/
  | closed
deriving Repr, DecidableEq

/-- The fault of a network failure. -/
def Fault.network (fault : NetworkFault) : Fault := .wire (.network fault)

/-- The wording of what a device says in a trap. -/
def trapMessage (trap : Sentence) : String :=
  match trap.get "message" with
  | "" => "unknown error: " ++ trap.text
  | message => message

/-- Whether a trap ends the session. -/
def isFatal (trap : Sentence) : Bool := trap.word == "!fatal"

/-- What is wrong with a text that is not hexadecimal. -/
def hexMessage (position : Nat) : String :=
  s!"non-hexadecimal number found in fromhex() arg at position {position}"

/-- The wording of a fault. -/
def Fault.message : Fault → String
  | .wire fault => fault.message
  | .device trap _ => "from RouterOS device: " ++ trapMessage trap
  | .unknownReply sentence => "unknown RouterOS reply word: " ++ sentence.word
  | .badChallenge position =>
      "RouterOS: /login: invalid ret (challenge) hex string received: " ++ hexMessage position
  | .unencodablePassword run => run.message
  | .badArgument fault => fault.message
  | .closed => "use of closed RouterOS connection"

/-- Whether what can still be read may belong to another request. -/
def Fault.breaksConnection : Fault → Bool
  | .wire (.oversized _) => false
  | .wire _ | .unknownReply _ | .closed => true
  | .device _ _ | .badChallenge _ | .unencodablePassword _ | .badArgument _ => false

/-- Whether a fault comes from the connection or the device, and not from the request itself. -/
def Fault.isExpected : Fault → Bool
  | .wire (.oversized _) | .unencodablePassword _ | .badArgument _ => false
  | _ => true

/-- The reply at the head of a stream, given its rows and its last trap so far. -/
def readReplyFrom (rows : List Sentence) (trap : Option Sentence) (inbox : Inbox) :
    EStateM.Result Fault Inbox Reply :=
  match _read : readSentence inbox with
  | .error fault rest => .error (.wire fault) rest
  | .ok sentence rest =>
      match sentence.word with
      | "!re" => readReplyFrom (rows ++ [sentence]) trap rest
      | "!trap" => readReplyFrom rows (some sentence) rest
      | "!done" =>
          match trap with
          | none => .ok ⟨rows, sentence⟩ rest
          | some trap => .error (.device trap (some ⟨rows, sentence⟩)) rest
      | "!fatal" => .error (.device sentence none) rest
      -- Empty sentences carry nothing.
      | "" => readReplyFrom rows trap rest
      | _ => .error (.unknownReply sentence) rest
termination_by inbox.unread.length
decreasing_by all_goals exact readSentence_shrinks _read

/-- The reply at the head of a stream. -/
def readReply : EStateM Fault Inbox Reply := readReplyFrom [] none

end RouterMetrics.Session
