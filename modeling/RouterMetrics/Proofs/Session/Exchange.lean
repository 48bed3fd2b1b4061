import RouterMetrics.Proofs.Session.Reply
import RouterMetrics.Session.Client

/-! Exchanges: what becomes of one request on a line, and of the line. -/

namespace RouterMetrics.Session

open RouterMetrics.Wire

/-- A request on a line as it was before. -/
structure Exchange where
  line : Line
  words : List String

namespace Exchange

/-- What comes of the request. -/
def answer (exchange : Exchange) : Except Fault Reply :=
  match run exchange.words exchange.line with
  | .ok reply _ => .ok reply
  | .error fault _ => .error fault

/-- The line after the request. -/
def after (exchange : Exchange) : Line :=
  match run exchange.words exchange.line with
  | .ok _ line | .error _ line => line

/-- The connection on which the request is made. -/
def connection (exchange : Exchange) : Nat := exchange.line.client.link.id

/-- What stands unread on the connection when the request is made. -/
def unread (exchange : Exchange) : List UInt8 := exchange.line.client.link.inbox.unread

/-- The bytes of the request, if all its words can be written. -/
def bytes (exchange : Exchange) : Except Wire.Fault (List UInt8) := encodeSentence exchange.words

/-- What can be seen of the request from outside. -/
def sends (exchange : Exchange) : List Event :=
  if exchange.line.client.isClosed then []
  else
    match exchange.bytes, exchange.line.client.link.afterSend.1 with
    | .ok bytes, .ok () => [.sent exchange.connection bytes]
    | .ok bytes, .error _ => [.sendFailed exchange.connection bytes]
    | .error _, _ => []

end Exchange

/-- A request gives its answer and leaves the line after it. -/
theorem run_eq (words : List String) (line : Line) :
    run words line =
      match (Exchange.mk line words).answer with
      | .ok reply => .ok reply (Exchange.mk line words).after
      | .error fault => .error fault (Exchange.mk line words).after := by
  -- The two halves of what a request ends with.
  unfold Exchange.answer Exchange.after
  cases run words line <;> rfl

/-- The line with another sentence being written. -/
def Line.writing (line : Line) (writer : Writer) : Line :=
  { line with client := { line.client with writer } }

/-- The line with another state of its connection. -/
def Line.over (line : Line) (link : Link) : Line :=
  { line with client := { line.client with link } }

private theorem writeWord_ok {word : String} {code : List UInt8} (line : Line)
    (coded : encodeWord word = .ok code) :
    writeWord word line = .ok () (line.writing ⟨line.client.writer.pending ++ code⟩) := by
  -- A word that can be written is added to the sentence.
  simp [writeWord, Writer.word, coded, Except.map, Line.writing]

private theorem writeWords_ok {words : List String} {codes : List (List UInt8)} (line : Line)
    (coded : words.mapM encodeWord = .ok codes) :
    forM words writeWord line =
      .ok () (line.writing ⟨line.client.writer.pending ++ codes.flatten⟩) := by
  -- Words that can all be written are added to the sentence.
  induction words generalizing codes line with
  | nil =>
    cases coded
    simp [Line.writing, Pure.pure, EStateM.pure]
  | cons word words ih =>
    -- Some word of a sentence that is written as a whole could fail, but none does.
    simp only [List.mapM_cons, Bind.bind, Except.bind] at coded
    cases first : encodeWord word with
    | error fault => simp [first] at coded
    | ok code =>
      cases others : words.mapM encodeWord with
      | error fault => simp [first, others] at coded
      | ok later =>
        simp only [first, others, Pure.pure, Except.pure, Except.ok.injEq] at coded
        -- The first word is pending when the others are written.
        rw [List.forM_cons]
        simp only [Bind.bind, EStateM.bind, writeWord_ok line first, ih _ others, ← coded]
        simp [Line.writing]

private theorem writeWords_error {words : List String} {fault : Wire.Fault} (line : Line)
    (refused : words.mapM encodeWord = .error fault) :
    ∃ writer, forM words writeWord line = .error (.wire fault) (line.writing writer) := by
  -- The first word that cannot be written is the fault of them all.
  induction words generalizing line with
  | nil => cases refused
  | cons word words ih =>
    simp only [List.mapM_cons, Bind.bind, Except.bind] at refused
    cases first : encodeWord word with
    -- The first word is the one that fails, and nothing is pending for it.
    | error other =>
      simp only [first, Except.error.injEq] at refused
      refine ⟨line.client.writer, ?_⟩
      simp [List.forM_cons, Bind.bind, EStateM.bind, writeWord, Writer.word, first, Except.map,
        refused, Line.writing]
    | ok code =>
      cases others : words.mapM encodeWord with
      | ok later => simp [first, others, Pure.pure, Except.pure] at refused
      | error other =>
        simp only [first, others, Except.error.injEq] at refused
        -- The word is added, and the fault is that of a later one.
        obtain ⟨writer, failed⟩ :=
          ih (line.writing ⟨line.client.writer.pending ++ code⟩) (by rw [others, refused])
        refine ⟨writer, ?_⟩
        rw [List.forM_cons]
        simp only [Bind.bind, EStateM.bind, writeWord_ok line first, failed]
        rfl

/-- A closed client makes no request. -/
theorem run_closed {words : List String} {line : Line} (closed : line.client.isClosed = true) :
    run words line = .error .closed line := by
  -- The client is asked before anything is written.
  simp [run, closed, Bind.bind, EStateM.bind, get, getThe, MonadStateOf.get, EStateM.get, throw,
    throwThe, MonadExceptOf.throw, EStateM.throw]

/-- An open client starts a sentence anew, whatever was left of an earlier one. -/
theorem run_open {words : List String} {line : Line} (isOpen : line.client.isClosed = false) :
    run words line =
      (do forM words writeWord; endSentence; receive : Conversation Reply)
        (line.writing .fresh) := by
  -- The words are written behind an empty start.
  simp [run, isOpen, Bind.bind, EStateM.bind, get, getThe, MonadStateOf.get, EStateM.get,
    beginSentence, modify, modifyGet, MonadStateOf.modifyGet, EStateM.modifyGet, Line.writing]

/-- What is wrong with a sentence is wrong with one of its words. -/
theorem mapM_encodeWord_of_error {words : List String} {fault : Wire.Fault}
    (refused : encodeSentence words = .error fault) : words.mapM encodeWord = .error fault := by
  -- Nothing but a word can be refused, as the end of a sentence is fixed.
  cases coded : words.mapM encodeWord with
  | ok codes =>
    simp [encodeSentence, coded, Bind.bind, Except.bind, Pure.pure, Except.pure] at refused
  | error other => simpa [encodeSentence, coded, Bind.bind, Except.bind] using refused

/-- A request that cannot be written leaves the connection alone. -/
theorem run_unsendable {words : List String} {line : Line} {fault : Wire.Fault}
    (isOpen : line.client.isClosed = false) (refused : encodeSentence words = .error fault) :
    ∃ writer, run words line = .error (.wire fault) (line.writing writer) := by
  -- Nothing is sent before all words are written.
  obtain ⟨writer, failed⟩ := writeWords_error (line.writing .fresh) (mapM_encodeWord_of_error refused)
  refine ⟨writer, ?_⟩
  rw [run_open isOpen]
  simp only [Bind.bind, EStateM.bind, failed]
  rfl

/-- A request that can be written is sent in one piece, and then its reply is read. -/
theorem run_sendable {words : List String} {line : Line} {bytes : List UInt8}
    (isOpen : line.client.isClosed = false) (written : encodeSentence words = .ok bytes) :
    run words line = (do transmit bytes; receive : Conversation Reply) (line.writing .fresh) := by
  -- The bytes are those of the words, with the empty word behind them.
  obtain ⟨codes, coded, rfl⟩ : ∃ codes, words.mapM encodeWord = .ok codes ∧
      codes.flatten ++ [0] = bytes := by
    cases coded : words.mapM encodeWord with
    | error fault => simp [encodeSentence, coded, Bind.bind, Except.bind] at written
    | ok codes =>
      refine ⟨codes, rfl, ?_⟩
      simpa [encodeSentence, coded, Bind.bind, Except.bind, Pure.pure, Except.pure] using written
  have added := writeWords_ok (line.writing .fresh) coded
  rw [run_open isOpen]
  simp only [Bind.bind, EStateM.bind, added]
  rfl

/-- A request that is refused on the way has no reply. -/
theorem run_refused {words : List String} {line : Line} {bytes : List UInt8} {link : Link}
    {fault : NetworkFault} (isOpen : line.client.isClosed = false)
    (written : encodeSentence words = .ok bytes)
    (refused : line.client.link.afterSend = (.error fault, link)) :
    run words line =
      .error (.network fault) (((line.writing .fresh).over link).record (.sendFailed link.id bytes)) := by
  -- The words are written in full before they are sent.
  rw [run_sendable isOpen written]
  simp [Bind.bind, EStateM.bind, transmit, Line.writing, Line.over, refused]

/-- The line after a request was sent over a link and its reply was read up to an inbox. -/
def Line.served (line : Line) (link : Link) (bytes : List UInt8) (inbox : Inbox) : Line :=
  (((line.writing .fresh).over link).record (.sent link.id bytes)).over { link with inbox }

/-- A request that is sent gets the reply at the head of what can then be read. -/
theorem run_sent {words : List String} {line : Line} {bytes : List UInt8} {link : Link}
    (isOpen : line.client.isClosed = false) (written : encodeSentence words = .ok bytes)
    (sent : line.client.link.afterSend = (.ok (), link)) :
    run words line =
      match readReply link.inbox with
      | .ok reply inbox => .ok reply (line.served link bytes inbox)
      | .error fault inbox => .error fault (line.served link bytes inbox) := by
  -- With the request on its way, only what comes in decides.
  rw [run_sendable isOpen written]
  simp only [Bind.bind, EStateM.bind, transmit, Line.writing, sent, receive, Line.record]
  cases readReply link.inbox <;> rfl

/-- Sending keeps the number of a connection and only takes away reactions. -/
theorem Link.afterSend_keeps (link : Link) :
    link.afterSend.2.id = link.id ∧ link.afterSend.2.reactions <:+ link.reactions := by
  unfold Link.afterSend
  -- Sending takes the next reaction, an answer or a refusal; without one it waits in vain.
  split
  · exact ⟨rfl, List.suffix_rfl⟩
  · rename_i reactions
    exact ⟨rfl, reactions ▸ List.suffix_cons _ _⟩
  · rename_i reactions
    exact ⟨rfl, reactions ▸ List.suffix_cons _ _⟩

/-- A request leaves the client open or closed as it was, on the same connection. -/
theorem Exchange.after_keeps (exchange : Exchange) :
    exchange.after.client.isClosed = exchange.line.client.isClosed ∧
      exchange.after.client.link.id = exchange.connection ∧
      exchange.after.client.link.reactions <:+ exchange.line.client.link.reactions ∧
      exchange.after.events = exchange.line.events ++ exchange.sends := by
  obtain ⟨line, words⟩ := exchange
  -- The request is not made, cannot be written, is refused, or is sent.
  cases closed : line.client.isClosed with
  | true =>
    simp [Exchange.after, Exchange.sends, Exchange.connection, run_closed closed, closed]
  | false =>
    cases written : encodeSentence words with
    | error fault =>
      obtain ⟨writer, failed⟩ := run_unsendable closed written
      simp [Exchange.after, Exchange.sends, Exchange.bytes, Exchange.connection, failed, closed,
        written, Line.writing]
    | ok bytes =>
      obtain ⟨number, reactions⟩ := line.client.link.afterSend_keeps
      cases sent : line.client.link.afterSend with
      | mk outcome link =>
        rw [sent] at number reactions
        dsimp only at number reactions
        cases outcome with
        | error fault =>
          simp [Exchange.after, Exchange.sends, Exchange.bytes, Exchange.connection,
            run_refused closed written sent, closed, written, sent, Line.writing, Line.over,
            Line.record, number, reactions]
        | ok delivered =>
          simp only [Exchange.after, run_sent closed written sent]
          cases readReply link.inbox <;>
            simp [Exchange.sends, Exchange.bytes, Exchange.connection, closed, written, sent,
              Line.served, Line.writing, Line.over, Line.record, number, reactions]

end RouterMetrics.Session
