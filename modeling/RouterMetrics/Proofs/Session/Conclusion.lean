import RouterMetrics.Proofs.Session.Received
import RouterMetrics.Proofs.Wire.Utterance

/-!
How a reply is concluded.

Main statement: a request takes just the sentences up to the first one that is no row, no trap and
not empty, and comes to what this sentence makes of the rows and traps before it; where the stream
ends before, it comes to nothing but the end of the stream.
-/

namespace RouterMetrics.Session

open RouterMetrics.Wire

/-- A sentence with a row of a reply. -/
def isRow (sentence : Sentence) : Bool := sentence.word == "!re"

/-- A sentence by which a request is refused. -/
def isTrap (sentence : Sentence) : Bool := sentence.word == "!trap"

/-- A sentence behind which a reply goes on: a row, a trap, or nothing at all. -/
def goesOn (sentence : Sentence) : Bool :=
  isRow sentence || isTrap sentence || sentence.word.isEmpty

/-- What a sentence behind which a reply does not go on makes of the rows and the last trap before it. -/
def conclusion (rows : List Sentence) (trap : Option Sentence) (last : Sentence) :
    Except Fault Reply :=
  if last.word = "!done" then
    match trap with
    | none => .ok ⟨rows, last⟩
    | some trap => .error (.device trap (some ⟨rows, last⟩))
  else if isFatal last then .error (.device last none)
  else .error (.unknownReply last)

section Streams

variable (rows : List Sentence) (trap : Option Sentence) {last : Utterance}

private theorem readReplyFrom_last {inbox rest : Inbox} {sentence : Sentence}
    (read : readSentence inbox = .ok sentence rest) (ends : goesOn sentence = false) :
    readReplyFrom rows trap inbox =
      match conclusion rows trap sentence with
      | .ok reply => .ok reply rest
      | .error fault => .error fault rest := by
  simp only [goesOn, isRow, isTrap, Bool.or_eq_false_iff, beq_eq_false_iff_ne,
    String.isEmpty_eq_false_iff] at ends
  obtain ⟨⟨row, trapped⟩, empty⟩ := ends
  rw [readReplyFrom, read]
  -- The last sentence ends the reply, is fatal, or belongs to no reply.
  by_cases done : sentence.word = "!done"
  · cases trap <;> simp [conclusion, done]
  · by_cases fatal : sentence.word = "!fatal"
    · simp [conclusion, isFatal, fatal]
    · simp [conclusion, isFatal, done, fatal]

private theorem readReplyFrom_goesOn {inbox rest : Inbox} {sentence : Sentence}
    (read : readSentence inbox = .ok sentence rest) (passing : goesOn sentence = true) :
    readReplyFrom rows trap inbox =
      readReplyFrom (rows ++ [sentence].filter isRow)
        (([sentence].filter isTrap).getLast?.or trap) rest := by
  simp only [goesOn, isRow, isTrap, Bool.or_eq_true, beq_iff_eq, String.isEmpty_iff] at passing
  rw [readReplyFrom, read]
  -- A row is kept, a trap is remembered, and an empty sentence passed over.
  rcases passing with (row | trapped) | empty
  · simp [isRow, isTrap, row]
  · simp [isRow, isTrap, trapped]
  · simp [isRow, isTrap, empty]

/-- The bytes of utterances one behind the other. -/
def bytesOfAll (utterances : List Utterance) : List UInt8 := utterances.flatMap Utterance.bytes

/-- A reply ends with the first utterance behind which it does not go on, and takes no byte more. -/
theorem readReplyFrom_concluded {earlier : List Utterance}
    (passing : ∀ utterance ∈ earlier, goesOn utterance.sentence = true)
    (ends : goesOn last.sentence = false) (rest : List UInt8) (ending : Option NetworkFault) :
    readReplyFrom rows trap ⟨bytesOfAll (earlier ++ [last]) ++ rest, ending⟩ =
      match conclusion (rows ++ (earlier.map Utterance.sentence).filter isRow)
          (((earlier.map Utterance.sentence).filter isTrap).getLast?.or trap) last.sentence with
      | .ok reply => .ok reply ⟨rest, ending⟩
      | .error fault => .error fault ⟨rest, ending⟩ := by
  -- The induction is on the utterances before the last; each of them may add a row or a trap.
  induction earlier generalizing rows trap with
  | nil =>
    have read := last.takes.whole rest ending
    simpa [bytesOfAll] using readReplyFrom_last rows trap read ends
  | cons first others ih =>
    have read := first.takes.whole (bytesOfAll (others ++ [last]) ++ rest) ending
    have whole : bytesOfAll (first :: others ++ [last]) ++ rest =
        first.bytes ++ (bytesOfAll (others ++ [last]) ++ rest) := by simp [bytesOfAll]
    rw [whole, readReplyFrom_goesOn rows trap read (passing first List.mem_cons_self),
      ih _ _ fun utterance member => passing utterance (List.mem_cons_of_mem first member)]
    -- What the first utterance adds stands before what the others add.
    have split : (first :: others).map Utterance.sentence =
        [first.sentence] ++ others.map Utterance.sentence := rfl
    rw [split, List.filter_append, List.filter_append, List.getLast?_append, Option.or_assoc,
      List.append_assoc]

/-- A reply that breaks off before its last utterance is complete comes to the end of the stream. -/
theorem readReplyFrom_truncated {earlier : List Utterance} {start : List UInt8}
    (passing : ∀ utterance ∈ earlier, goesOn utterance.sentence = true)
    (isPrefix : start <+: bytesOfAll (earlier ++ [last]))
    (shorter : start ≠ bytesOfAll (earlier ++ [last])) :
    ∃ wanted got, readReplyFrom rows trap (.ofBytes start) =
      .error (.wire (.endOfStream wanted got)) (.ofBytes []) := by
  induction earlier generalizing rows trap start with
  | nil =>
    have only : bytesOfAll ([] ++ [last]) = last.bytes := by simp [bytesOfAll]
    rw [only] at isPrefix shorter
    obtain ⟨wanted, got, failed⟩ := last.takes.cut start isPrefix shorter
    exact ⟨wanted, got, by rw [readReplyFrom, failed]⟩
  | cons first others ih =>
    have whole : bytesOfAll (first :: others ++ [last]) =
        first.bytes ++ bytesOfAll (others ++ [last]) := by simp [bytesOfAll]
    rw [whole] at isPrefix shorter
    by_cases within : first.bytes <+: start
    · -- The first utterance is complete, and the stream breaks off behind it.
      obtain ⟨more, rfl⟩ := within
      have read := first.takes.whole more none
      obtain ⟨wanted, got, failed⟩ :=
        ih (rows ++ [first.sentence].filter isRow)
          (([first.sentence].filter isTrap).getLast?.or trap)
          (fun utterance member => passing utterance (List.mem_cons_of_mem first member))
          ((List.prefix_append_right_inj first.bytes).mp isPrefix)
          fun same => shorter (by rw [same])
      refine ⟨wanted, got, ?_⟩
      exact (readReplyFrom_goesOn rows trap read (passing first List.mem_cons_self)).trans failed
    · -- The stream breaks off within the first utterance.
      have before : start <+: first.bytes :=
        (List.prefix_or_prefix_of_prefix isPrefix (List.prefix_append _ _)).resolve_right within
      obtain ⟨wanted, got, failed⟩ :=
        first.takes.cut start before fun same => within (same ▸ List.prefix_rfl)
      exact ⟨wanted, got, by rw [readReplyFrom, failed]⟩

end Streams

/-- The request has gone out: nothing has hindered it on the way. -/
def Exchange.Sent (exchange : Exchange) : Prop :=
  ∃ bytes, exchange.sends = [.sent exchange.connection bytes]

/-- A request that has gone out comes to what is read first. -/
theorem Exchange.Sent.run_eq {exchange : Exchange} (sent : exchange.Sent) :
    ∃ answered : Inbox → Line, (∀ inbox, (answered inbox).client.link.inbox = inbox) ∧
      run exchange.words exchange.line =
        match readReply exchange.readable with
        | .ok reply inbox => .ok reply (answered inbox)
        | .error fault inbox => .error fault (answered inbox) := by
  obtain ⟨line, words⟩ := exchange
  obtain ⟨bytes, seen⟩ := sent
  unfold Exchange.sends at seen
  dsimp only at seen
  -- A closed client, words that cannot be written and a refusal on the way are all seen otherwise.
  cases closed : line.client.isClosed with
  | true => simp [closed] at seen
  | false =>
    rw [closed] at seen
    cases written : encodeSentence words with
    | error fault => simp [Exchange.bytes, written] at seen
    | ok code =>
      cases delivery : line.client.link.afterSend with
      | mk outcome link =>
        cases outcome with
        | error fault => simp [Exchange.bytes, written, delivery] at seen
        | ok delivered =>
          refine ⟨line.served link code, fun inbox => rfl, ?_⟩
          rw [Exchange.readable, delivery]
          exact run_sent closed written delivery

/--
A request that has gone out takes just the sentences of its reply, and comes to what they conclude.

A row, a trap and an empty sentence do not end a reply, and any other sentence does, whatever stands
behind it. Where the stream ends before that sentence is complete there is no reply.
-/
theorem reply_taken_exactly {exchange : Exchange} (sent : exchange.Sent) (earlier : List Utterance)
    (last : Utterance) (passing : ∀ utterance ∈ earlier, goesOn utterance.sentence = true)
    (ends : goesOn last.sentence = false) :
    (∀ rest ending, exchange.readable = ⟨bytesOfAll (earlier ++ [last]) ++ rest, ending⟩ →
      exchange.answer =
          conclusion ((earlier.map Utterance.sentence).filter isRow)
            ((earlier.map Utterance.sentence).filter isTrap).getLast? last.sentence ∧
        exchange.after.client.link.inbox = ⟨rest, ending⟩) ∧
      ∀ start, start <+: bytesOfAll (earlier ++ [last]) → start ≠ bytesOfAll (earlier ++ [last]) →
        exchange.readable = .ofBytes start →
        ∃ wanted got, exchange.answer = .error (.wire (.endOfStream wanted got)) := by
  obtain ⟨answered, inbox, came⟩ := sent.run_eq
  refine ⟨fun rest ending readable => ?_, fun start isPrefix shorter readable => ?_⟩
  · have read := readReplyFrom_concluded [] none passing ends rest ending
    rw [List.nil_append, Option.or_none] at read
    rw [readable, readReply, read] at came
    -- Whether the reply is complete or refused, the rest is left.
    cases concluded : conclusion ((earlier.map Utterance.sentence).filter isRow)
        ((earlier.map Utterance.sentence).filter isTrap).getLast? last.sentence with
    | ok reply =>
      rw [concluded] at came
      simp only [Exchange.answer, Exchange.after, came]
      exact ⟨trivial, inbox _⟩
    | error fault =>
      rw [concluded] at came
      simp only [Exchange.answer, Exchange.after, came]
      exact ⟨trivial, inbox _⟩
  · obtain ⟨wanted, got, failed⟩ :=
      readReplyFrom_truncated [] none passing isPrefix shorter
    rw [readable, readReply, failed] at came
    exact ⟨wanted, got, by simp only [Exchange.answer, came]⟩

/-- A refused reply has its rows, and a byte behind it stays; a reply that is cut short is none. -/
theorem refused_reply_taken_exactly :
    let row : Utterance := ⟨[[33, 114, 101], [61, 97, 61, 98]], by decide, by decide, by decide⟩
    let trap : Utterance := ⟨[[33, 116, 114, 97, 112], [61, 99, 61, 100]], by decide, by decide, by decide⟩
    let done : Utterance := ⟨[[33, 100, 111, 110, 101]], by decide, by decide, by decide⟩
    let answered := fun bytes : List UInt8 =>
      Exchange.mk ⟨⟨.fresh 3 [.answer bytes none], .fresh, false⟩, []⟩ ["/x"]
    (answered (bytesOfAll [row, trap, row, done] ++ [7])).answer =
        .error (.device ⟨"!trap", "", .ofList [("c", "d")]⟩
          (some ⟨[⟨"!re", "", .ofList [("a", "b")]⟩, ⟨"!re", "", .ofList [("a", "b")]⟩],
            ⟨"!done", "", .empty⟩⟩)) ∧
      (answered (bytesOfAll [row, trap, row, done] ++ [7])).after.client.link.inbox = ⟨[7], none⟩ ∧
      ∃ wanted got, (answered row.bytes).answer = .error (.wire (.endOfStream wanted got)) := by
  intro row trap done answered
  -- The request itself is sent in full.
  have sent : ∀ bytes, (answered bytes).Sent := fun bytes => ⟨[2, 47, 120, 0], by rfl⟩
  have passing : ∀ utterance ∈ [row, trap, row], goesOn utterance.sentence = true := by decide
  obtain ⟨outcome, left⟩ := (reply_taken_exactly (sent _) [row, trap, row] done passing (by decide)).1
    [7] none rfl
  refine ⟨outcome.trans ?_, left, ?_⟩
  · decide
  · exact (reply_taken_exactly (sent _) [row, trap, row] done passing (by decide)).2
      row.bytes (List.prefix_append _ _) (by decide) rfl

end RouterMetrics.Session
