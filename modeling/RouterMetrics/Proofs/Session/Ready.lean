import RouterMetrics.Proofs.Session.Exchange

/-! Lines that are ready for a request, and requests after which their line is not used again. -/

namespace RouterMetrics.Session

open RouterMetrics.Wire

/--
A reaction that leaves nothing behind the sentence that completes its reply.

It may break off, be no reply at all or fail, but not by a refused certificate: connections refuse
certificates while they are made.
-/
def Reaction.Orderly : Reaction → Prop
  | .answer bytes ending =>
      (∀ rest, bytesAfterDone? ⟨bytes, ending⟩ = some rest → rest = []) ∧
        ending ≠ some .certificate
  | .refusal fault => fault ≠ .certificate

/-- The line is open, nothing stands unread on it, and only orderly reactions are to come. -/
structure Line.Ready (line : Line) : Prop where
  isOpen : line.client.isClosed = false
  drained : line.client.link.inbox.unread = []
  orderly : ∀ reaction ∈ line.client.link.reactions, reaction.Orderly

/-- A fault after which nobody knows what stands unread on the connection, or that it is over. -/
def Fault.endsConnection : Fault → Bool
  | .device trap _ => isFatal trap
  | fault => fault.breaksConnection

/-- A fault that ends a connection comes from the connection or the device. -/
theorem Fault.isExpected_of_endsConnection {fault : Fault} (ends : fault.endsConnection = true) :
    fault.isExpected = true := by
  unfold Fault.isExpected
  -- What is not expected is a word that is too long, a password or an argument.
  split
  · cases ends
  · cases ends
  · cases ends
  · rfl

/-- What is met while a reply is read ends the connection, unless the reply was read to its end. -/
theorem Fault.CanBeMet.ends_or_replied {fault : Fault} {ending : Option NetworkFault}
    (met : fault.CanBeMet ending) :
    fault.endsConnection = true ∨ ∃ trap reply, fault = .device trap (some reply) := by
  cases fault with
  | wire fault =>
    cases fault with
    -- Only writing can meet a word that is too long.
    | oversized length => exact met.elim
    | _ => exact .inl rfl
  | device trap reply =>
    cases reply with
    -- A trap without a reply is a fatal one.
    | none => exact .inl met
    | some reply => exact .inr ⟨trap, reply, rfl⟩
  | unknownReply sentence => exact .inl rfl
  | badChallenge position => exact met.elim
  | unencodablePassword run => exact met.elim
  | badArgument fault => exact met.elim
  | closed => exact met.elim

/-- A fault that says that a value is wrong; a refused certificate says so, too. -/
def Fault.isOfValue : Fault → Bool
  | .wire (.network .certificate) | .unencodablePassword _ => true
  | .badArgument fault => fault.isOfValue
  | _ => false

/-- What is met while a reply is read is about no value if the stream ends otherwise. -/
theorem Fault.CanBeMet.isOfValue {fault : Fault} {ending : Option NetworkFault}
    (met : fault.CanBeMet ending) (untold : ending ≠ some .certificate) :
    fault.isOfValue = false := by
  unfold Fault.isOfValue
  -- A refused certificate would have to be the ending, and neither passwords nor arguments are read.
  split
  · exact absurd met untold
  · exact met.elim
  · exact met.elim
  · rfl

namespace Exchange

/-- The request ends its connection. -/
def Ends (exchange : Exchange) : Prop :=
  ∃ fault, exchange.answer = .error fault ∧ fault.endsConnection = true

/-- A request ends its connection with a fault of that kind. -/
private theorem ends_of_run {words : List String} {line rest : Line} {fault : Fault}
    (failed : run words line = .error fault rest) (ending : fault.endsConnection = true) :
    (Exchange.mk line words).Ends :=
  ⟨fault, by simp only [answer, failed], ending⟩

/-- What the device does at the request: it makes bytes readable, or the request cannot be sent. -/
def reaction (exchange : Exchange) : Except NetworkFault Inbox :=
  match exchange.line.client.link.reactions with
  | [] => .ok (.ofBytes [])
  | .answer bytes ending :: _ => .ok ⟨bytes, ending⟩
  | .refusal fault :: _ => .error fault

/-- The request finds nothing unread, and its answer is read from what the device does at it. -/
structure Own (exchange : Exchange) : Prop where
  drained : exchange.unread = []
  replied : ∀ bytes, exchange.line.client.isClosed = false → exchange.bytes = .ok bytes →
    exchange.answer =
      match exchange.reaction with
      | .error fault => .error (.network fault)
      | .ok inbox =>
          match readReply inbox with
          | .ok reply _ => .ok reply
          | .error fault _ => .error fault

private theorem own_of_drained {exchange : Exchange} (drained : exchange.unread = []) : exchange.Own where
  drained := drained
  replied bytes isOpen written := by
    -- On a drained connection a reply is read from the bytes of the reaction alone.
    obtain ⟨line, words⟩ := exchange
    have empty : line.client.link.inbox.unread = [] := drained
    -- What can be read after sending is what the reaction makes readable.
    have sending : line.client.link.afterSend.1.map (fun _ => line.client.link.afterSend.2.inbox) =
        (Exchange.mk line words).reaction := by
      cases next : line.client.link.reactions with
      | nil => simp [Link.afterSend, reaction, next, Except.map, empty, Inbox.ofBytes]
      | cons first later =>
        cases first <;> simp [Link.afterSend, reaction, next, Except.map, empty]
    rw [← sending]
    -- The request is refused on the way, or its reply is read.
    cases sent : line.client.link.afterSend with
    | mk outcome link =>
      cases outcome with
      | error fault => simp only [answer, run_refused isOpen written sent, Except.map]
      | ok delivered =>
        simp only [answer, run_sent isOpen written sent, Except.map]
        cases readReply link.inbox <;> rfl

end Exchange

/-- A request is not written for one of two reasons, which both lie in its words. -/
theorem encodeSentence_error {words : List String} {fault : Wire.Fault}
    (refused : encodeSentence words = .error fault) :
    (∃ run, fault = .unencodable run) ∨ ∃ length, fault = .oversized length := by
  have uncoded := mapM_encodeWord_of_error refused
  clear refused
  -- The first word that has no code gives the fault of the sentence.
  induction words with
  | nil => cases uncoded
  | cons word words ih =>
    cases first : encodeWord word with
    | ok code =>
      cases others : words.mapM encodeWord with
      | ok codes =>
        simp [List.mapM_cons, first, others, Bind.bind, Except.bind, Pure.pure, Except.pure]
          at uncoded
      | error other =>
        simp only [List.mapM_cons, first, others, Bind.bind, Except.bind, Except.error.injEq]
          at uncoded
        exact ih (uncoded ▸ others)
    | error other =>
      simp only [List.mapM_cons, first, Bind.bind, Except.bind, Except.error.injEq] at uncoded
      subst uncoded
      -- The first word itself has a character without a byte, or too many of them.
      unfold encodeWord at first
      split at first
      · rename_i run _
        cases first
        exact .inl ⟨run, rfl⟩
      · split at first
        · cases first
          exact .inr ⟨_, rfl⟩
        · cases first

private theorem bytesAfterDone?_nil (ending : Option NetworkFault) : bytesAfterDone? ⟨[], ending⟩ = none := by
  -- No sentence ends a reply where there is nothing to read.
  rw [bytesAfterDone?]
  -- A sentence that was read would have shortened the stream.
  split
  · rfl
  · rename_i sentence rest read
    have gone := readSentence_shrinks read
    simp at gone

/-- What can be read on a ready line after sending ends where the reply to it ends. -/
theorem Line.Ready.delivered {line : Line} {link : Link} (ready : line.Ready)
    (sent : line.client.link.afterSend = (.ok (), link)) :
    (∀ rest, bytesAfterDone? link.inbox = some rest → rest = []) ∧
      link.inbox.ending ≠ some .certificate ∧ ∀ reaction ∈ link.reactions, reaction.Orderly := by
  have drained := ready.drained
  have orderly := ready.orderly
  unfold Link.afterSend at sent
  split at sent
  · -- Nothing comes any more.
    cases sent
    refine ⟨fun rest found => ?_, by simp, orderly⟩
    dsimp only at found
    rw [drained, bytesAfterDone?_nil] at found
    cases found
  · -- The next reaction makes its bytes readable behind nothing.
    rename_i reply ending later next
    cases sent
    rw [next] at orderly
    obtain ⟨complete, untold⟩ := orderly (.answer reply ending) List.mem_cons_self
    refine ⟨?_, untold, fun reaction member => orderly reaction (List.mem_cons_of_mem _ member)⟩
    rw [drained]
    exact complete
  · cases sent

namespace Exchange

/-- A request on a ready line ends the connection or leaves the line ready. -/
theorem ends_or_ready {exchange : Exchange} (ready : exchange.line.Ready) :
    exchange.Ends ∨ exchange.after.Ready := by
  obtain ⟨line, words⟩ := exchange
  obtain ⟨isOpen, drained, orderly⟩ := ready
  dsimp only at isOpen drained orderly
  -- A word without a code ends the connection, and one that is too long does not.
  cases written : encodeSentence words with
  | error fault =>
    obtain ⟨writer, failed⟩ := run_unsendable isOpen written
    rcases encodeSentence_error written with ⟨run, rfl⟩ | ⟨length, rfl⟩
    · exact .inl (ends_of_run failed rfl)
    · right
      simp only [after, failed]
      exact ⟨isOpen, drained, orderly⟩
  | ok bytes =>
    cases sent : line.client.link.afterSend with
    | mk outcome link =>
      cases outcome with
      | error fault => exact .inl (ends_of_run (run_refused isOpen written sent) rfl)
      | ok delivered =>
        obtain ⟨complete, -, remaining⟩ := Line.Ready.delivered ⟨isOpen, drained, orderly⟩ sent
        have read := run_sent isOpen written sent
        -- A reply that was read to its end has left nothing behind it.
        have served : ∀ inbox : Inbox, bytesAfterDone? link.inbox = some inbox.unread →
            (line.served link bytes inbox).Ready :=
          fun inbox found => ⟨isOpen, complete _ found, remaining⟩
        cases replied : readReply link.inbox with
        | ok reply inbox =>
          right
          simp only [after, read, replied]
          exact served inbox (readReplyFrom_leaves.1 replied)
        | error fault inbox =>
          simp only [replied] at read
          -- A fault ends the connection, or it stands for a reply that was read to its end.
          rcases (readReplyFrom_met (by simp) replied).ends_or_replied with
            ending | ⟨trap, reply, rfl⟩
          · exact .inl (ends_of_run read ending)
          · right
            simp only [after, read]
            exact served inbox (readReplyFrom_leaves.2 replied)

/-- On a ready line no request fails for a wrong value. -/
theorem not_ofValue {exchange : Exchange} {fault : Fault} (ready : exchange.line.Ready)
    (failed : exchange.answer = .error fault) : fault.isOfValue = false := by
  obtain ⟨line, words⟩ := exchange
  cases written : encodeSentence words with
  | error other =>
    obtain ⟨writer, stopped⟩ := run_unsendable ready.isOpen written
    simp only [answer, stopped, Except.error.injEq] at failed
    subst failed
    -- Words that cannot be written are no wrong values, whichever way they fail.
    rcases encodeSentence_error written with ⟨run, rfl⟩ | ⟨length, rfl⟩ <;> rfl
  | ok bytes =>
    cases sent : line.client.link.afterSend with
    | mk outcome link =>
      cases outcome with
      | error other =>
        -- The request is refused by the next reaction.
        simp only [answer, run_refused ready.isOpen written sent, Except.error.injEq] at failed
        subst failed
        -- The fault is that of the next reaction, which is an orderly one.
        have refusal : ∃ later, line.client.link.reactions = .refusal other :: later := by
          unfold Link.afterSend at sent
          split at sent <;> cases sent
          exact ⟨_, by assumption⟩
        obtain ⟨later, next⟩ := refusal
        have orderly : other ≠ .certificate :=
          ready.orderly (.refusal other) (by rw [next]; exact List.mem_cons_self)
        cases other <;> first | rfl | exact absurd rfl orderly
      | ok delivered =>
        obtain ⟨-, untold, -⟩ := ready.delivered sent
        have read := run_sent ready.isOpen written sent
        cases replied : readReply link.inbox with
        | ok reply inbox =>
          simp only [replied] at read
          simp only [answer, read] at failed
          cases failed
        | error other inbox =>
          simp only [replied] at read
          simp only [answer, read, Except.error.injEq] at failed
          exact failed ▸ (readReplyFrom_met (by simp) replied).isOfValue untold

end Exchange

/-- A run of requests on one line: each has its own reply, and none follows one that ends the line. -/
structure Talk (line : Line) (exchanges : List Exchange) : Prop where
  own : ∀ exchange ∈ exchanges, exchange.Own
  connection : ∀ exchange ∈ exchanges, exchange.connection = line.client.link.id
  ending : exchanges.Pairwise fun exchange _ => ¬ exchange.Ends

/-- A request on a ready line is a talk. -/
theorem talk_single {line : Line} (words : List String) (ready : line.Ready) :
    Talk line [⟨line, words⟩] where
  -- The line is drained, so that what comes is the answer.
  own := by
    intro exchange member
    rw [List.mem_singleton.mp member]
    exact Exchange.own_of_drained ready.drained
  connection := by
    intro exchange member
    rw [List.mem_singleton.mp member]
    rfl
  ending := List.pairwise_singleton _ _

/-- A talk may go on behind a request that does not end its line. -/
theorem Talk.cons {line : Line} {words : List String} {exchanges : List Exchange}
    (ready : line.Ready) (goesOn : ¬ (Exchange.mk line words).Ends)
    (later : Talk (Exchange.mk line words).after exchanges) :
    Talk line (⟨line, words⟩ :: exchanges) where
  -- The first request finds a drained line, and the later ones were told of before.
  own := by
    intro exchange member
    rcases List.mem_cons.mp member with rfl | member
    · exact Exchange.own_of_drained ready.drained
    · exact later.own exchange member
  connection := by
    intro exchange member
    rcases List.mem_cons.mp member with rfl | member
    · rfl
    · exact (later.connection exchange member).trans (Exchange.mk line words).after_keeps.2.1
  ending := List.pairwise_cons.mpr ⟨fun _ _ => goesOn, later.ending⟩

/-- A request that is answered by a reply does not end its line. -/
theorem Exchange.not_ends_of_ok {exchange : Exchange} {reply : Reply}
    (answered : exchange.answer = .ok reply) : ¬ exchange.Ends := by
  -- A reply is no fault.
  rintro ⟨fault, failed, -⟩
  rw [answered] at failed
  cases failed

end RouterMetrics.Session
