import RouterMetrics.Proofs.Session.Alike
import RouterMetrics.Proofs.Session.Challenge
import RouterMetrics.Proofs.Wire.Sent

/-!
Requests that leave no trace, and what is written when they leave one.

Main statement: a request on a closed client, or with a word that cannot be written, fails as if it
had never been made, and any other request is one write of its words. Below it, the end of a sentence
writes just the words that could be written since the last beginning or end.
-/

namespace RouterMetrics.Session

open RouterMetrics.Wire
open RouterMetrics.Text.CodePage (Encodable encode encode_eq_ok length_filterMap_byteOfChar?)

/-- The lines differ at most in the sentence that is being written. -/
def Line.Resembles (line other : Line) : Prop := line.writing .fresh = other.writing .fresh

namespace Line.Resembles

variable {line other : Line}

/-- Another sentence being written makes no difference. -/
theorem writing (line : Line) (writer : Writer) : (line.writing writer).Resembles line := rfl

/-- Lines that resemble each other are both closed or both open. -/
theorem isClosed (same : line.Resembles other) : line.client.isClosed = other.client.isClosed :=
  congrArg (·.client.isClosed) same

/-- A request starts its sentence anew, so what was left of another one has no influence on it. -/
theorem run (same : line.Resembles other) (words : List String) :
    Agree Line.Resembles Eq (Session.run words line) (Session.run words other) := by
  cases closed : line.client.isClosed with
  | true =>
    rw [run_closed closed, run_closed (same.isClosed.symm.trans closed)]
    exact .error same
  | false =>
    rw [run_open closed, run_open (same.isClosed.symm.trans closed), same]
    -- Both run from the very same line.
    cases (do forM words writeWord; endSentence; receive : Conversation Reply)
        (other.writing .fresh) with
    | ok reply after => exact .ok rfl rfl
    | error fault after => exact .error rfl

/-- What is left of a sentence has no influence on a login. -/
theorem login (same : line.Resembles other) (user password : String) :
    Agree Line.Resembles Eq (Session.login user password line)
      (Session.login user password other) := by
  refine Agree.bind (same.run (loginRequest user password)) ?_
  rintro reply _ line other rfl same
  -- The reply is the same, and so is what it asks for next.
  cases reply.done.get? "ret" with
  | none => exact .ok rfl same
  | some challenge =>
    dsimp only
    cases Text.readHex challenge with
    | error position => exact .error same
    | ok challenge =>
      dsimp only
      cases challengeResponse challenge password with
      | error run => exact .error same
      | ok response =>
        exact Agree.bind (same.run (challengeRequest user response))
          fun _ _ _ _ _ same => .ok rfl same

end Line.Resembles

/-- What a client can be asked to do. -/
inductive Call where
  | request (words : List String)
  | login (user password : String)
  | close
deriving Repr, DecidableEq

/-- What a client does on a call; only a request has a reply for its caller. -/
def Call.conversation : Call → Conversation (Option Reply)
  | .request words => do return some (← run words)
  | .login user password => do
      Session.login user password
      return none
  | .close => do
      modify Line.close
      return none

/-- Calls in turn, whatever comes of those before: what each of them comes to, and the line after. -/
def callInTurn : List Call → Line → List (Except Fault (Option Reply)) × Line
  | [], line => ([], line)
  | call :: later, line =>
      let (outcome, after) : Except Fault (Option Reply) × Line :=
        match call.conversation line with
        | .ok reply after => (.ok reply, after)
        | .error fault after => (.error fault, after)
      let (outcomes, last) := callInTurn later after
      (outcome :: outcomes, last)

/-- Nothing is seen of what came between the lines, and no later call can tell them apart. -/
structure Line.Traceless (line after : Line) : Prop where
  unseen : after.events = line.events
  unread : after.client.link = line.client.link
  untold : ∀ later, (callInTurn later after).1 = (callInTurn later line).1 ∧
    (callInTurn later after).2.Resembles (callInTurn later line).2

namespace Line.Resembles

variable {line other : Line}

/-- What is left of a sentence has no influence on a call. -/
theorem call (same : line.Resembles other) (call : Call) :
    Agree Line.Resembles Eq (call.conversation line) (call.conversation other) := by
  cases call with
  | request words =>
    exact Agree.bind (same.run words) fun _ _ _ _ reply same => .ok (congrArg some reply) same
  | login user password =>
    exact Agree.bind (same.login user password) fun _ _ _ _ _ same => .ok rfl same
  | close =>
    refine .ok rfl ?_
    -- Both connections are closed, or both have been before.
    have number : line.client.link = other.client.link := congrArg (·.client.link) same
    have seen : line.events = other.events := congrArg (·.events) same
    unfold Line.close
    rw [same.isClosed]
    cases closed : other.client.isClosed with
    | true => exact same
    | false => simp [Line.Resembles, Line.writing, Line.record, number, seen]

/-- What is left of a sentence has no influence on calls in turn. -/
theorem callInTurn (same : line.Resembles other) (calls : List Call) :
    (Session.callInTurn calls line).1 = (Session.callInTurn calls other).1 ∧
      (Session.callInTurn calls line).2.Resembles (Session.callInTurn calls other).2 := by
  -- Each call comes to the same and leaves lines that resemble each other for the next.
  induction calls generalizing line other with
  | nil => exact ⟨rfl, same⟩
  | cons call later ih =>
    have agree := same.call call
    unfold Session.callInTurn
    generalize call.conversation line = outcome at agree
    generalize call.conversation other = outcome' at agree
    cases agree with
    | ok reply left =>
      obtain ⟨outcomes, last⟩ := ih left
      exact ⟨by simp [reply, outcomes], last⟩
    | error left =>
      obtain ⟨outcomes, last⟩ := ih left
      exact ⟨by simp [outcomes], last⟩

/-- Another sentence being written leaves no trace. -/
theorem traceless (line : Line) (writer : Writer) : line.Traceless (line.writing writer) :=
  ⟨rfl, rfl, (writing line writer).callInTurn⟩

end Line.Resembles

/-- Why a word cannot be written: some character has no byte, or the bytes are too many for a length. -/
inductive Unwritable (word : String) : Wire.Fault → Prop
  | unencodable {run : Text.CodePage.Unencodable} (refused : encode word = .error run) :
      Unwritable word (.unencodable run)
  | oversized (encodable : Encodable word) (long : 2 ^ 32 ≤ word.length) :
      Unwritable word (.oversized word.length)

/-- A word that is not encoded cannot be written, for the same reason. -/
theorem unwritable_of_encodeWord {word : String} {fault : Wire.Fault}
    (refused : encodeWord word = .error fault) : Unwritable word fault := by
  unfold encodeWord at refused
  cases encoded : encode word with
  | error run =>
    rw [encoded] at refused
    cases refused
    exact .unencodable encoded
  | ok bytes =>
    have encodable := Text.CodePage.encodable_of_encode encoded
    -- There is a byte for each character, and a length announces fewer than its limit.
    rw [encode_eq_ok encodable] at encoded
    cases encoded
    have size := length_filterMap_byteOfChar? encodable
    rw [String.length_toList] at size
    rw [encode_eq_ok encodable] at refused
    dsimp only at refused
    rw [size] at refused
    cases announced : encodeLength? word.length with
    | some length => simp [announced] at refused
    | none =>
      rw [announced] at refused
      cases refused
      refine .oversized encodable (Nat.le_of_not_lt fun short => ?_)
      have code := encodeLength?_isSome short
      simp [announced] at code

/-- A sentence that is not encoded has a first word that cannot be written, for the same reason. -/
theorem exists_unwritable {words : List String} {fault : Wire.Fault}
    (refused : encodeSentence words = .error fault) :
    ∃ before word later, words = before ++ word :: later ∧
      (∀ earlier ∈ before, Writable earlier) ∧ Unwritable word fault := by
  -- The words are encoded in turn, so that the fault is that of the first one that fails.
  obtain ⟨before, word, later, split, written, failed⟩ :=
    mapM_eq_error_iff.mp (mapM_encodeWord_of_error refused)
  refine ⟨before, word, later, split, fun earlier member => ?_, unwritable_of_encodeWord failed⟩
  obtain ⟨code, encoded⟩ := written earlier member
  exact writable_of_encodeWord encoded

/-- A step of writing sentences. -/
inductive WritingStep where
  | beginning
  | word (text : String)
  | ending
deriving Repr, DecidableEq

namespace WritingStep

/-- What is done in a step. -/
def conversation : WritingStep → Conversation Unit
  | .beginning => beginSentence
  | .word text => writeWord text
  | .ending => endSentence

/-- The step is about a word of a sentence, and not about where it begins or ends. -/
def isWord : WritingStep → Bool
  | .word _ => true
  | .beginning | .ending => false

/-- The bytes of the word, if the step is about one that can be written. -/
def code? : WritingStep → Option (List UInt8)
  | .word text => (encodeWord text).toOption
  | .beginning | .ending => none

end WritingStep

/-- The line after a step, also if it fails. -/
def Line.afterStep (line : Line) (step : WritingStep) : Line := lineOf (step.conversation line)

/-- The line after steps in turn, whatever comes of those before. -/
def Line.afterSteps (line : Line) (steps : List WritingStep) : Line := steps.foldl Line.afterStep line

/-- The bytes of the words since the last beginning or end, as far as they could be written. -/
def openCodes (steps : List WritingStep) : List UInt8 :=
  ((steps.rtakeWhile WritingStep.isWord).filterMap WritingStep.code?).flatten

section Steps

variable (line : Line)

private theorem afterSteps_concat (steps : List WritingStep) (step : WritingStep) :
    line.afterSteps (steps ++ [step]) = (line.afterSteps steps).afterStep step :=
  List.foldl_concat Line.afterStep line step steps

/-- The end of a sentence sends what is pending, and the empty word. -/
theorem afterStep_ending :
    (line.afterStep .ending).client.writer = .fresh ∧
      (line.afterStep .ending).client.link.id = line.client.link.id ∧
      ((line.afterStep .ending).events =
          line.events ++ [.sent line.client.link.id (line.client.writer.pending ++ [0])] ∨
        (line.afterStep .ending).events =
          line.events ++ [.sendFailed line.client.link.id (line.client.writer.pending ++ [0])]) := by
  have number := line.client.link.afterSend_keeps.1
  have ran : line.afterStep .ending =
      lineOf (transmit (line.client.writer.pending ++ [0]) (line.writing .fresh)) := rfl
  rw [ran, transmit]
  -- What is sent may be taken or not, and the connection stays the same.
  cases sent : line.client.link.afterSend with
  | mk outcome link =>
    rw [sent] at number
    cases outcome <;> simp_all [lineOf, Line.writing, Line.record]

/-- A step that is no end of a sentence is not seen from outside. -/
theorem afterStep_events (step : WritingStep) (other : step ≠ .ending) :
    (line.afterStep step).events = line.events ∧
      (line.afterStep step).client.link = line.client.link := by
  cases step with
  | beginning => exact ⟨rfl, rfl⟩
  -- A word is only added to what is pending, or refused.
  | word text =>
    have ran : line.afterStep (.word text) = lineOf (writeWord text line) := rfl
    rw [ran, writeWord]
    cases line.client.writer.word text <;> exact ⟨rfl, rfl⟩
  | ending => exact absurd rfl other

/-- A word is added to what is pending if it can be written, and else changes nothing. -/
theorem afterStep_word (text : String) :
    (line.afterStep (.word text)).client.writer.pending =
      line.client.writer.pending ++ ((encodeWord text).toOption).getD [] := by
  -- What cannot be written leaves the writer as it was.
  have ran : line.afterStep (.word text) = lineOf (writeWord text line) := rfl
  rw [ran, writeWord, Writer.word]
  cases encodeWord text <;> simp [lineOf, Except.map, Except.toOption]

/-- What is pending after steps are the words since the last beginning or end. -/
theorem pending_afterSteps (fresh : line.client.writer = .fresh) (steps : List WritingStep) :
    (line.afterSteps steps).client.writer.pending = openCodes steps := by
  -- The induction follows the steps to the last one.
  induction steps using List.reverseRecOn with
  | nil => exact congrArg Writer.pending fresh
  | append_singleton steps step ih =>
    rw [afterSteps_concat]
    unfold openCodes at ih ⊢
    cases step with
    | beginning =>
      rw [List.rtakeWhile_concat_neg _ _ _ (by decide)]
      rfl
    | ending =>
      rw [List.rtakeWhile_concat_neg _ _ _ (by decide), (afterStep_ending _).1]
      rfl
    | word text =>
      rw [List.rtakeWhile_concat_pos _ _ _ rfl, afterStep_word, ih]
      cases coded : encodeWord text <;>
        simp [WritingStep.code?, coded, Except.toOption]

/-- Steps of writing stay on their connection. -/
theorem id_afterSteps (steps : List WritingStep) :
    (line.afterSteps steps).client.link.id = line.client.link.id := by
  -- The induction is on the steps from the last one, which sends or is not seen.
  induction steps using List.reverseRecOn with
  | nil => rfl
  | append_singleton steps step ih =>
    rw [afterSteps_concat]
    by_cases ends : step = .ending
    · rw [ends, (afterStep_ending _).2.1, ih]
    · rw [(afterStep_events _ step ends).2, ih]

end Steps

/--
A request leaves no trace, or is one write of all its words.

It leaves none if the client is closed or one of the words cannot be written, whichever it is and
whatever came before. Underneath, only the end of a sentence is seen from outside, as one write of the
words since the last beginning or end that could be written, with the empty word behind them.
-/
theorem traceless_or_written_once (exchange : Exchange) :
    ((exchange.line.client.isClosed = true ∧ exchange.answer = .error .closed ∧
          exchange.line.Traceless exchange.after) ∨
        (exchange.line.client.isClosed = false ∧
          ∃ before word later fault, exchange.words = before ++ word :: later ∧
            (∀ earlier ∈ before, Writable earlier) ∧ Unwritable word fault ∧
            exchange.answer = .error (.wire fault) ∧
            exchange.line.Traceless exchange.after) ∨
        (exchange.line.client.isClosed = false ∧ (∀ word ∈ exchange.words, Writable word) ∧
          ∃ bytes, encodeSentence exchange.words = .ok bytes ∧
            (exchange.after.events = exchange.line.events ++ [.sent exchange.connection bytes] ∨
              exchange.after.events =
                exchange.line.events ++ [.sendFailed exchange.connection bytes]))) ∧
      ∀ steps,
        let there := (exchange.line.writing .fresh).afterSteps steps
        (there.afterStep .beginning).events = there.events ∧
          (∀ text, (there.afterStep (.word text)).events = there.events) ∧
          ((there.afterStep .ending).events =
              there.events ++ [.sent exchange.connection (openCodes steps ++ [0])] ∨
            (there.afterStep .ending).events =
              there.events ++ [.sendFailed exchange.connection (openCodes steps ++ [0])]) := by
  obtain ⟨line, words⟩ := exchange
  refine ⟨?_, fun steps => ?_⟩
  · dsimp only
    cases closed : line.client.isClosed with
    | true =>
      have ran : run words line = .error .closed line := run_closed closed
      refine .inl ⟨rfl, ?_, ?_⟩
      · simp only [Exchange.answer, ran]
      · simp only [Exchange.after, ran]
        exact Line.Resembles.traceless line line.client.writer
    | false =>
      cases written : encodeSentence words with
      | error fault =>
        obtain ⟨before, word, later, split, earlier, unwritable⟩ := exists_unwritable written
        obtain ⟨writer, ran⟩ := run_unsendable closed written
        refine .inr (.inl ⟨rfl, before, word, later, fault, split, earlier, unwritable, ?_, ?_⟩)
        · simp only [Exchange.answer, ran]
        · simp only [Exchange.after, ran]
          exact Line.Resembles.traceless line writer
      | ok bytes =>
        obtain ⟨-, -, -, writable⟩ := encodeSentence_ok written
        refine .inr (.inr ⟨rfl, writable, bytes, rfl, ?_⟩)
        -- What is seen of the request is one write.
        have made : (Exchange.mk line words).Made := Exchange.made_of_written closed written
        obtain ⟨other, same, sends⟩ := made
        cases written.symm.trans same
        rw [(Exchange.mk line words).after_keeps.2.2.2]
        exact sends.imp (congrArg (line.events ++ ·)) (congrArg (line.events ++ ·))
  · intro there
    have pending : there.client.writer.pending = openCodes steps :=
      pending_afterSteps (line.writing .fresh) rfl steps
    have number : there.client.link.id = (Exchange.mk line words).connection :=
      id_afterSteps (line.writing .fresh) steps
    rw [← pending, ← number]
    exact ⟨(afterStep_events there .beginning WritingStep.noConfusion).1,
      fun text => (afterStep_events there (.word text) WritingStep.noConfusion).1,
      (afterStep_ending there).2.2⟩

end RouterMetrics.Session
