import RouterMetrics.Proofs.Session.Exchange

/-!
Lines to a device that answers the next requests with complete replies.

Main statement: a request that can be written is sent, gets the next reply, and leaves the line to the
other ones.
-/

namespace RouterMetrics.Session

open RouterMetrics.Wire

/-- A reaction whose bytes are one complete reply without a trap. -/
def Reaction.Completes (reaction : Reaction) (reply : Reply) : Prop :=
  ∃ bytes ending, reaction = .answer bytes ending ∧
    readReply ⟨bytes, ending⟩ = .ok reply ⟨[], ending⟩

instance (reaction : Reaction) (reply : Reply) : Decidable (reaction.Completes reply) :=
  match reaction with
  | .refusal _ => .isFalse nofun
  | .answer bytes ending =>
      match read : readReply ⟨bytes, ending⟩ with
      | .error _ _ => .isFalse fun ⟨_, _, same, other⟩ => by
          cases same
          cases read.symm.trans other
      | .ok told rest =>
          if same : told = reply ∧ rest = ⟨[], ending⟩ then
            .isTrue ⟨bytes, ending, rfl, same.1 ▸ same.2 ▸ read⟩
          else
            .isFalse fun ⟨_, _, own, other⟩ => by
              cases own
              cases read.symm.trans other
              exact same ⟨rfl, rfl⟩

/-- The line is open, nothing stands unread on it, and the next requests are answered by these replies. -/
structure Line.Answers (line : Line) (replies : List Reply) : Prop where
  isOpen : line.client.isClosed = false
  drained : line.client.link.inbox.unread = []
  replied : ∃ next later, line.client.link.reactions = next ++ later ∧
    List.Forall₂ Reaction.Completes next replies

/-- What is seen of a request that is sent. -/
def SentOn (connection : Nat) (words : List String) (event : Event) : Prop :=
  ∃ bytes, encodeSentence words = .ok bytes ∧ event = .sent connection bytes

/-- A request that can be written is sent and gets the next reply, and the others are still to come. -/
theorem Line.Answers.run {line : Line} {reply : Reply} {replies : List Reply}
    (answers : line.Answers (reply :: replies)) {words : List String} {bytes : List UInt8}
    (written : encodeSentence words = .ok bytes) :
    ∃ after : Line, Session.run words line = .ok reply after ∧ after.Answers replies ∧
      after.client.link.id = line.client.link.id ∧
      ∃ event, SentOn line.client.link.id words event ∧ after.events = line.events ++ [event] := by
  obtain ⟨isOpen, drained, next, later, ahead, completes⟩ := answers
  cases completes with
  | @cons reaction _ next _ first others =>
    obtain ⟨answer, ending, rfl, read⟩ := first
    -- Nothing stands before the bytes of the reply.
    have sent : line.client.link.afterSend =
        (.ok (), { line.client.link with inbox := ⟨answer, ending⟩, reactions := next ++ later }) := by
      simp [Link.afterSend, ahead, drained]
    have ran := run_sent isOpen written sent
    simp only [read] at ran
    exact ⟨_, ran, ⟨isOpen, rfl, next, later, rfl, others⟩, rfl, _, ⟨bytes, written, rfl⟩, rfl⟩

end RouterMetrics.Session
