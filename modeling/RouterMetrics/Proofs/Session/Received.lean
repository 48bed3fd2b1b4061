import RouterMetrics.Proofs.Session.Challenge
import RouterMetrics.Proofs.Wire.Received

/-!
What comes and goes on a connection, told by its bytes.

Main statement: the rows of an answer are those that come, word by word, and a request that can be
written goes out as the bytes of its words.
-/

namespace RouterMetrics.Session

open RouterMetrics.Wire

/-- The words of the sentence at the head of a stream; without a whole sentence there are none. -/
def wordsAt (inbox : Inbox) : List (List UInt8) :=
  match readWords inbox with
  | .ok words _ => words
  | .error _ _ => []

/-- The rows of the reply at the head of a stream, each with the words in which it comes. -/
def rowsAt (inbox : Inbox) : List Received :=
  match _read : readSentence inbox with
  | .error _ _ => []
  | .ok sentence rest =>
      match sentence.word with
      | "!re" => ⟨sentence, wordsAt inbox⟩ :: rowsAt rest
      | "!trap" | "" => rowsAt rest
      | _ => []
termination_by inbox.unread.length
decreasing_by all_goals exact readSentence_shrinks _read

/-- A sentence is read from the words that come. -/
theorem isRead_of_readSentence {inbox rest : Inbox} {sentence : Sentence}
    (read : readSentence inbox = .ok sentence rest) :
    (Received.mk sentence (wordsAt inbox)).IsRead := by
  obtain ⟨words, kept, folded, nonempty⟩ := foldWords_kept read []
  -- The words that come are those that the reading has folded.
  have came : wordsAt inbox = words := by
    rw [wordsAt, readWords, kept]
    rfl
  rw [came]
  exact ⟨folded, nonempty⟩

/-- Every row is read from the words that come for it. -/
theorem isRead_of_rowsAt (inbox : Inbox) : ∀ row ∈ rowsAt inbox, row.IsRead := by
  -- The sentences are looked at one after another, as the rows are.
  fun_induction rowsAt inbox with
  | case1 => simp
  | case2 inbox sentence rest read _ ih =>
    exact List.forall_mem_cons.mpr ⟨isRead_of_readSentence read, ih⟩
  | case3 _ _ _ _ _ ih => exact ih
  | case4 _ _ _ _ _ ih => exact ih
  | case5 => simp

private theorem rowsAt_eq {inbox rest : Inbox} {sentence : Sentence}
    (read : readSentence inbox = .ok sentence rest) :
    rowsAt inbox =
      if sentence.word = "!re" then ⟨sentence, wordsAt inbox⟩ :: rowsAt rest
      else if sentence.word = "!trap" ∨ sentence.word = "" then rowsAt rest
      else [] := by
  -- The first sentence is a row, or one that the reply passes over, or the last one.
  fun_cases rowsAt inbox with
  | case1 fault other failed => simp [read] at failed
  | case2 other rest' came row | case3 other rest' came row | case4 other rest' came row =>
    rw [read] at came
    cases came
    simp [row]
  | case5 other rest' came row trap empty =>
    rw [read] at came
    cases came
    rw [if_neg row, if_neg (not_or.mpr ⟨trap, empty⟩)]

/-- The rows of a reply are those at the head of its stream. -/
theorem rows_of_readReplyFrom {rows : List Sentence} {trap : Option Sentence} {inbox rest : Inbox}
    {reply : Reply} (read : readReplyFrom rows trap inbox = .ok reply rest) :
    reply.rows = rows ++ (rowsAt inbox).map Received.sentence := by
  fun_induction readReplyFrom rows trap inbox with
  | case2 rows trap inbox sentence rest' came word ih =>
    rw [ih read, rowsAt_eq came]
    simp [word]
  -- Traps and empty sentences carry no row.
  | case3 rows trap inbox sentence rest' came word ih =>
    rw [ih read, rowsAt_eq came]
    simp [word]
  | case7 rows trap inbox sentence rest' came word ih =>
    rw [ih read, rowsAt_eq came]
    simp [word]
  | case4 rows inbox sentence rest' came word =>
    cases read
    rw [rowsAt_eq came]
    simp [word]
  | case1 | case5 | case6 | case8 => cases read

namespace Exchange

/-- What can be read once the request is sent. -/
def readable (exchange : Exchange) : Inbox := exchange.line.client.link.afterSend.2.inbox

/-- The rows of an answer are those that could be read. -/
theorem rows_of_answer {exchange : Exchange} {reply : Reply}
    (answered : exchange.answer = .ok reply) :
    reply.rows = (rowsAt exchange.readable).map Received.sentence := by
  obtain ⟨isOpen, bytes, written⟩ := Accepted.written ⟨reply, answered⟩
  obtain ⟨line, words⟩ := exchange
  -- Without a refusal on the way, the reply is what is read first.
  cases sent : line.client.link.afterSend with
  | mk outcome link =>
    have inbox : link.inbox = readable ⟨line, words⟩ := by rw [readable, sent]
    cases outcome with
    | error fault =>
      rw [answer, run_refused isOpen written sent] at answered
      cases answered
    | ok delivered =>
      rw [answer, run_sent isOpen written sent] at answered
      cases read : readReply link.inbox with
      | error fault rest =>
        rw [read] at answered
        cases answered
      | ok reply' rest =>
        rw [read] at answered
        cases answered
        rw [← inbox]
        exact rows_of_readReplyFrom read

/-- The words that the request puts on its connection; without any it puts nothing there. -/
def wordsSent (exchange : Exchange) : List (List UInt8) :=
  match exchange.sends with
  | .sent _ bytes :: _ | .sendFailed _ bytes :: _ => wordsAt (.ofBytes bytes)
  | _ => []

/-- A request that can be written puts the bytes of its words on the connection. -/
theorem wordsSent_of_written {exchange : Exchange} {bytes : List UInt8}
    (isOpen : exchange.line.client.isClosed = false)
    (written : encodeSentence exchange.words = .ok bytes)
    (nonempty : ∀ word ∈ exchange.words, word ≠ "") :
    exchange.wordsSent = exchange.words.map bytesOf := by
  -- The bytes are sent, whether they arrive or not, and they are those of the words.
  have came : wordsAt (.ofBytes bytes) = exchange.words.map bytesOf := by
    rw [wordsAt, readWords_encodeSentence written nonempty]
  obtain ⟨other, same, sends⟩ := made_of_written isOpen written
  cases written.symm.trans same
  unfold wordsSent
  rcases sends with sends | sends <;> simp only [sends, came]

/-- A request that cannot be written puts nothing on the connection. -/
theorem wordsSent_of_unwritten {exchange : Exchange} {fault : Wire.Fault}
    (unwritten : encodeSentence exchange.words = .error fault) : exchange.wordsSent = [] := by
  -- Nothing is sent of a sentence that is not whole.
  have none : exchange.sends = [] := by simp [sends, bytes, unwritten]
  rw [wordsSent, none]

end Exchange

end RouterMetrics.Session
