import RouterMetrics.Proofs.OrderedMap
import RouterMetrics.Proofs.Session.Login

/-!
Clients that cannot be told apart by what they are asked.

The number of a connection, what was seen of it and the rest of an unsent sentence have no influence
on any answer, and neither has what happened on other connections.
-/

namespace RouterMetrics

/-- Two computations end in the same way, with related results, and leave related states. -/
inductive Agree {ε σ α β : Type} (states : σ → σ → Prop) (results : α → β → Prop) :
    EStateM.Result ε σ α → EStateM.Result ε σ β → Prop
  | ok {result : α} {other : β} {state state' : σ} (related : results result other)
      (left : states state state') : Agree states results (.ok result state) (.ok other state')
  | error {fault : ε} {state state' : σ} (left : states state state') :
      Agree states results (.error fault state) (.error fault state')

/-- Computations in turn agree if they do so one by one. -/
theorem Agree.bind {ε σ α β : Type} {states : σ → σ → Prop} {middle : α → α → Prop}
    {results : β → β → Prop} {step step' : EStateM ε σ α} {next next' : α → EStateM ε σ β}
    {state state' : σ} (first : Agree states middle (step state) (step' state'))
    (second : ∀ result result' state state', middle result result' → states state state' →
      Agree states results (next result state) (next' result' state')) :
    Agree states results ((step >>= next) state) ((step' >>= next') state') := by
  simp only [Bind.bind, EStateM.bind]
  -- Both first steps end with a result or both with the same fault.
  generalize step state = outcome at first
  generalize step' state' = outcome' at first
  cases first with
  | ok related left => exact second _ _ _ _ related left
  | error left => exact .error left

end RouterMetrics

namespace RouterMetrics.Session

open RouterMetrics.Wire

/-- Two connections bring the same answers from now on. -/
structure Link.Alike (link other : Link) : Prop where
  unread : link.inbox.unread = other.inbox.unread
  reactions : link.reactions = other.reactions

/-- Two clients get the same answers from now on. -/
structure Client.Alike (client other : Client) : Prop where
  isClosed : client.isClosed = other.isClosed
  link : client.link.Alike other.link

/-- The clients on two lines get the same answers. -/
def Line.Alike (line other : Line) : Prop := line.client.Alike other.client

/-- Every client is like itself. -/
theorem Client.Alike.refl (client : Client) : client.Alike client := ⟨rfl, rfl, rfl⟩

private theorem afterSend_alike {link other : Link} (alike : link.Alike other) :
    link.afterSend.1 = other.afterSend.1 ∧ link.afterSend.2.Alike other.afterSend.2 ∧
      (link.afterSend.1 = .ok () → link.afterSend.2.inbox = other.afterSend.2.inbox) := by
  -- A sentence that is sent says anew how what can be read ends.
  obtain ⟨unread, reactions⟩ := alike
  unfold Link.afterSend
  rw [reactions]
  cases other.reactions with
  | nil => exact ⟨rfl, ⟨unread, rfl⟩, fun _ => by simp [unread]⟩
  | cons reaction later =>
    cases reaction with
    | answer bytes ending => exact ⟨rfl, ⟨by simp [unread], rfl⟩, fun _ => by simp [unread]⟩
    | refusal fault => exact ⟨rfl, ⟨unread, rfl⟩, nofun⟩

/-- A request on clients that are alike has the same answer and leaves them alike. -/
theorem run_alike {line other : Line} (alike : line.Alike other) (words : List String) :
    Agree Line.Alike Eq (run words line) (run words other) := by
  obtain ⟨sameClosed, sameLink⟩ := alike
  obtain ⟨outcome, linkAfter, inbox⟩ := afterSend_alike sameLink
  -- On both sides the request is not made, cannot be written, is refused, or is sent.
  cases closed : line.client.isClosed with
  | true =>
    rw [run_closed closed, run_closed (sameClosed.symm.trans closed)]
    exact .error ⟨sameClosed, sameLink⟩
  | false =>
    have otherOpen := sameClosed.symm.trans closed
    cases written : encodeSentence words with
    | error fault =>
      obtain ⟨writer, failed⟩ := run_unsendable closed written
      obtain ⟨otherWriter, otherFailed⟩ := run_unsendable otherOpen written
      rw [failed, otherFailed]
      exact .error ⟨sameClosed, sameLink⟩
    | ok bytes =>
      cases sent : line.client.link.afterSend with
      | mk result link =>
        cases otherSent : other.client.link.afterSend with
        | mk otherResult otherLink =>
          simp only [sent, otherSent] at outcome linkAfter inbox
          subst outcome
          cases result with
          | error fault =>
            rw [run_refused closed written sent, run_refused otherOpen written otherSent]
            exact .error ⟨sameClosed, linkAfter⟩
          | ok delivered =>
            -- The same bytes are read, so the same is left of them.
            rw [run_sent closed written sent, run_sent otherOpen written otherSent, inbox rfl]
            cases readReply otherLink.inbox with
            | ok reply rest => exact .ok rfl ⟨sameClosed, rfl, linkAfter.reactions⟩
            | error fault rest => exact .error ⟨sameClosed, rfl, linkAfter.reactions⟩

/-- The answers to requests on clients that are alike are the same. -/
theorem Exchange.alike {line other : Line} (alike : line.Alike other) (words : List String) :
    (Exchange.mk line words).answer = (Exchange.mk other words).answer ∧
      (Exchange.mk line words).after.Alike (Exchange.mk other words).after := by
  -- The answer and the line after it are what the request ends with.
  have agree := run_alike alike words
  unfold answer after
  generalize run words line = result at agree
  generalize run words other = result' at agree
  cases agree with
  | ok same left => exact ⟨congrArg Except.ok same, left⟩
  | error left => exact ⟨rfl, left⟩

/-- Logins on clients that are alike go alike. -/
theorem login_alike (user password : String) {line other : Line} (alike : line.Alike other) :
    Agree Line.Alike Eq (login user password line) (login user password other) := by
  obtain ⟨answer, after⟩ := Exchange.alike alike (loginRequest user password)
  rw [login_eq, login_eq]
  dsimp only
  rw [answer]
  cases (Exchange.mk other (loginRequest user password)).answer with
  | error fault => exact .error after
  | ok reply =>
    -- The reply is the same, and so is what it asks for next.
    dsimp only
    cases nextLogin user password reply with
    | error fault => exact .error after
    | ok next =>
      cases next with
      | none => exact .ok rfl after
      | some words =>
        obtain ⟨answer, last⟩ := Exchange.alike after words
        dsimp only
        rw [answer]
        cases (Exchange.mk (Exchange.mk other (loginRequest user password)).after words).answer with
        | error fault => exact .error last
        | ok reply => exact .ok rfl last

/-- Two networks have the same in store for connections to an endpoint. -/
def Network.Alike (endpoint : Endpoint) (network other : Network) : Prop :=
  network.attempts.getD endpoint [] = other.attempts.getD endpoint []

/-- Attempts to connect go alike where the networks have the same in store. -/
theorem connect_alike {endpoint : Endpoint} {network other : Network}
    (alike : network.Alike endpoint other) (timeout : Seconds) :
    Agree (Network.Alike endpoint) (fun opened opened' => opened.1 = opened'.1 ∧
        (Client.ofLink opened.2).Alike (.ofLink opened'.2))
      (Network.connect endpoint timeout network) (Network.connect endpoint timeout other) := by
  unfold Network.connect
  rw [show network.attempts.getD endpoint [] = other.attempts.getD endpoint [] from alike]
  -- What is left in store after an attempt is the same, too.
  have left : ∀ later, ((network.attempts.put endpoint later).getD endpoint []) =
      (other.attempts.put endpoint later).getD endpoint [] := by
    intro later
    simp [OrderedMap.getD, OrderedMap.get?_put_self]
  cases other.attempts.getD endpoint [] with
  | nil => exact .error (left [])
  | cons attempt later =>
    cases attempt with
    | fails fault => exact .error (left later)
    | rejects fault => exact .error (left later)
    | opens handshake reactions => exact .ok ⟨rfl, rfl, rfl, rfl⟩ (left later)

/-- Dialling goes alike where the networks have the same in store. -/
theorem dial_alike {endpoint : Endpoint} {network other : Network}
    (alike : network.Alike endpoint other) (security : Security) (timeout : Seconds)
    (user password : String) :
    Agree (Network.Alike endpoint) Client.Alike
      (network.dial endpoint security timeout user password)
      (other.dial endpoint security timeout user password) := by
  unfold Network.dial
  refine Agree.bind (connect_alike alike timeout) ?_
  rintro ⟨handshake, link⟩ ⟨_, link'⟩ network other ⟨rfl, sameClient⟩ alike
  dsimp only
  have securing : Agree (Network.Alike endpoint) Eq
      (Network.secure endpoint.address security handshake link network)
      (Network.secure endpoint.address security handshake link' other) := by
    -- A handshake fails on both connections or on none.
    unfold Network.secure
    cases security with
    | plain => exact .ok rfl alike
    | encrypted verified =>
      cases handshake with
      | none => exact .ok rfl alike
      | some fault => exact .error alike
  refine Agree.bind securing ?_
  intro _ _ network other _ alike
  have entering : Agree Line.Alike Eq (login user password ⟨.ofLink link, network.events⟩)
      (login user password ⟨.ofLink link', other.events⟩) := login_alike user password sameClient
  unfold Network.enter
  generalize login user password ⟨.ofLink link, network.events⟩ = outcome at entering
  generalize login user password ⟨.ofLink link', other.events⟩ = outcome' at entering
  cases entering with
  | ok same left => exact .ok left alike
  | error left => exact .error alike

end RouterMetrics.Session
