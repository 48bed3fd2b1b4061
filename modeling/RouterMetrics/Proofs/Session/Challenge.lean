import RouterMetrics.Proofs.Session.Login
import RouterMetrics.Proofs.Wire.Sent

/-!
Challenges: when a login has a second request.

Main statement: it has one exactly if the first was answered with a challenge in hexadecimal, and
then the response can be computed and sent.
-/

namespace RouterMetrics.Text

/-- Hexadecimal digits are plain characters. -/
theorem hexDigit_plain : ∀ value < 16, (hexDigit value).toNat < 0x80 := by decide

/-- Digits of a number are plain characters, as many as asked for. -/
theorem hexDigits_plain (width value : Nat) :
    (hexDigits width value).length = width ∧ ∀ c ∈ hexDigits width value, c.toNat < 0x80 := by
  -- The induction is on the width: the last digit stands for the remainder.
  induction width generalizing value with
  | zero => exact ⟨rfl, by simp [hexDigits]⟩
  | succ width ih =>
    obtain ⟨count, plain⟩ := ih (value / 16)
    refine ⟨by simp [hexDigits, count], List.forall_mem_append.mpr ⟨plain, fun c member => ?_⟩⟩
    rw [List.mem_singleton.mp member]
    exact hexDigit_plain _ (Nat.mod_lt value (by decide))

/-- Bytes are written in two plain characters each. -/
theorem hexText_plain (bytes : List UInt8) :
    (hexText bytes).length = 2 * bytes.length ∧ ∀ c ∈ (hexText bytes).toList, c.toNat < 0x80 := by
  unfold hexText
  rw [← String.length_toList, String.toList_ofList]
  induction bytes with
  | nil => simp
  | cons byte bytes ih =>
    -- Two digits are written for the first byte, before those of the others.
    obtain ⟨count, plain⟩ := hexDigits_plain 2 byte.toNat
    rw [List.flatMap_cons]
    refine ⟨?_, List.forall_mem_append.mpr ⟨plain, ih.2⟩⟩
    rw [List.length_append, count, ih.1, List.length_cons]
    omega

end RouterMetrics.Text

namespace RouterMetrics.Digest.Md5

/-- A number is written in as many bytes as asked for. -/
theorem length_littleEndianBytes (count n : Nat) : (littleEndianBytes count n).length = count := by
  -- The induction is on the number of bytes, for any number that is left.
  induction count generalizing n with
  | zero => rfl
  | succ count ih => simp [littleEndianBytes, ih]

/-- A digest has sixteen bytes. -/
theorem length_digest (message : List UInt8) : (digest message).length = 16 := by
  simp [digest, length_littleEndianBytes]

end RouterMetrics.Digest.Md5

namespace RouterMetrics.Session

open RouterMetrics.Wire
open RouterMetrics.Text.CodePage (Encodable byteOfChar? encode encode_eq_ok encodable_of_encode
  encodable_append_iff)

/-- The request was made: its bytes were sent, or were refused on the way. -/
def Exchange.Made (exchange : Exchange) : Prop :=
  ∃ bytes, exchange.bytes = .ok bytes ∧
    (exchange.sends = [.sent exchange.connection bytes] ∨
      exchange.sends = [.sendFailed exchange.connection bytes])

/-- The request was answered by a complete reply without a trap. -/
def Exchange.Accepted (exchange : Exchange) : Prop := ∃ reply, exchange.answer = .ok reply

instance (exchange : Exchange) : Decidable exchange.Accepted :=
  match answered : exchange.answer with
  | .ok reply => .isTrue ⟨reply, answered⟩
  | .error _ => .isFalse fun ⟨_, other⟩ => by cases answered.symm.trans other

/-- The challenge in a complete reply without a trap, if there is one in hexadecimal. -/
def Exchange.challenge? (exchange : Exchange) : Option (List UInt8) :=
  match exchange.answer with
  | .error _ => none
  | .ok reply => (reply.done.get? "ret").bind fun text => (Text.readHex text).toOption

/-- The requests of a login: the credentials, and the response to a challenge exactly if there is one. -/
inductive LoginOf (user password : String) : List Exchange → Prop
  | plain {first : Exchange} (credentials : first.words = loginRequest user password)
      (unchallenged : first.challenge? = none) : LoginOf user password [first]
  | challenged {first second : Exchange} {challenge : List UInt8} {response : String}
      (credentials : first.words = loginRequest user password)
      (asked : first.challenge? = some challenge)
      (computed : challengeResponse challenge password = .ok response)
      (follows : second.words = challengeRequest user response) (made : second.Made) :
      LoginOf user password [first, second]

/-- A request on an open client is made if its words can be written. -/
theorem Exchange.made_of_written {exchange : Exchange} {bytes : List UInt8}
    (isOpen : exchange.line.client.isClosed = false)
    (written : encodeSentence exchange.words = .ok bytes) : exchange.Made := by
  -- On an open client the bytes are sent, whether they arrive or not.
  refine ⟨bytes, written, ?_⟩
  have own : exchange.bytes = .ok bytes := written
  unfold Exchange.sends
  rw [isOpen, own]
  cases exchange.line.client.link.afterSend.1 with
  | ok delivered => exact .inl rfl
  | error fault => exact .inr rfl

/-- Only a request that was written on an open client is accepted. -/
theorem Exchange.Accepted.written {exchange : Exchange} (accepted : exchange.Accepted) :
    exchange.line.client.isClosed = false ∧
      ∃ bytes, encodeSentence exchange.words = .ok bytes := by
  obtain ⟨reply, answered⟩ := accepted
  unfold Exchange.answer at answered
  -- A closed client and words that cannot be written both leave the request without a reply.
  cases closed : exchange.line.client.isClosed with
  | true =>
    rw [run_closed closed] at answered
    cases answered
  | false =>
    refine ⟨rfl, ?_⟩
    cases written : encodeSentence exchange.words with
    | ok bytes => exact ⟨bytes, rfl⟩
    | error fault =>
      obtain ⟨writer, failed⟩ := run_unsendable closed written
      rw [failed] at answered
      cases answered

/-- An accepted request can be seen from outside. -/
theorem Exchange.Accepted.sends_ne_nil {exchange : Exchange} (accepted : exchange.Accepted) :
    exchange.sends ≠ [] := by
  -- Sending may have failed, which is seen as well.
  obtain ⟨isOpen, bytes, written⟩ := accepted.written
  obtain ⟨_, -, sent | refused⟩ := Exchange.made_of_written isOpen written
  · simp [sent]
  · simp [refused]

/-- No answer says that a password cannot be encoded: this is no fault of sending or reading. -/
theorem Exchange.answer_ne_unencodable (exchange : Exchange) (run : Text.CodePage.Unencodable) :
    exchange.answer ≠ .error (.unencodablePassword run) := by
  intro answered
  unfold Exchange.answer at answered
  -- The request is not made, cannot be written, is refused, or is answered by what is read.
  cases closed : exchange.line.client.isClosed with
  | true =>
    rw [run_closed closed] at answered
    cases answered
  | false =>
    cases written : encodeSentence exchange.words with
    | error fault =>
      obtain ⟨writer, failed⟩ := run_unsendable closed written
      rw [failed] at answered
      cases answered
    | ok bytes =>
      cases sent : exchange.line.client.link.afterSend with
      | mk outcome link =>
        cases outcome with
        | error fault =>
          rw [run_refused closed written sent] at answered
          cases answered
        | ok delivered =>
          rw [run_sent closed written sent] at answered
          cases read : readReply link.inbox with
          | ok reply rest =>
            rw [read] at answered
            cases answered
          | error fault rest =>
            rw [read] at answered
            cases answered
            -- Reading a reply meets no such fault.
            exact readReplyFrom_met (by simp) read

section Login

variable {user password : String} {line : Line}

/-- Credentials that were accepted can be encoded. -/
theorem encodable_of_accepted
    (accepted : (Exchange.mk line (loginRequest user password)).Accepted) :
    Writable ("=name=" ++ user) ∧ Encodable password := by
  -- Every word of a request that was answered has been written.
  obtain ⟨-, bytes, written⟩ := accepted.written
  obtain ⟨-, -, -, writable⟩ := encodeSentence_ok written
  have named := writable ("=name=" ++ user) (by simp [loginRequest])
  obtain ⟨encodable, -⟩ := writable ("=password=" ++ password) (by simp [loginRequest])
  exact ⟨named, (encodable_append_iff.mp encodable).2⟩

/-- The response to a challenge can be computed where the password can be encoded, and written. -/
theorem exists_challengeResponse (encodable : Encodable password) (challenge : List UInt8) :
    ∃ response, challengeResponse challenge password = .ok response ∧
      Writable ("=response=" ++ response) := by
  have secret := encode_eq_ok encodable
  refine ⟨_, by rw [challengeResponse, secret]; rfl, ?_, ?_⟩
  · -- The response has only plain characters.
    obtain ⟨-, plain⟩ := Text.hexText_plain
      (Digest.Md5.digest (0 :: password.toList.filterMap byteOfChar? ++ challenge))
    intro c member
    have start : Encodable "=response=" ∧ Encodable "00" := by decide
    simp only [String.toList_append, List.mem_append] at member
    rcases member with mark | zeros | digits
    · exact start.1 c mark
    · exact start.2 c zeros
    · simp [byteOfChar?, plain c digits]
  · obtain ⟨count, -⟩ := Text.hexText_plain
      (Digest.Md5.digest (0 :: password.toList.filterMap byteOfChar? ++ challenge))
    rw [Digest.Md5.length_digest] at count
    simp only [String.length_append, count]
    decide

/-- The requests of a login are those of one with these credentials. -/
theorem loginOf_loginExchanges (user password : String) (line : Line) :
    LoginOf user password (loginExchanges user password line) := by
  let first : Exchange := ⟨line, loginRequest user password⟩
  unfold loginExchanges nextLogin
  dsimp only
  cases answered : first.answer with
  | error fault => exact .plain rfl (by simp [Exchange.challenge?, first, answered])
  | ok reply =>
    dsimp only
    cases asked : reply.done.get? "ret" with
    | none => exact .plain rfl (by simp [Exchange.challenge?, first, answered, asked])
    | some text =>
      dsimp only
      cases read : Text.readHex text with
      | error position =>
        refine .plain rfl ?_
        simp [Exchange.challenge?, first, answered, asked, read, Except.toOption]
      | ok challenge =>
        -- The first request was accepted, so that its credentials can be encoded.
        have accepted : first.Accepted := ⟨reply, answered⟩
        obtain ⟨named, encodable⟩ := encodable_of_accepted accepted
        obtain ⟨response, computed, writable⟩ := exists_challengeResponse encodable challenge
        simp only [computed]
        have posed : first.challenge? = some challenge := by
          simp [Exchange.challenge?, first, answered, asked, read, Except.toOption]
        refine .challenged rfl posed computed rfl ?_
        have words : ∀ word ∈ challengeRequest user response, Writable word := by
          intro word member
          simp only [challengeRequest, List.mem_cons, List.not_mem_nil, or_false] at member
          rcases member with rfl | rfl | rfl
          · unfold Writable
            decide
          · exact named
          · exact writable
        obtain ⟨bytes, written⟩ := exists_encodeSentence words
        refine Exchange.made_of_written ?_ written
        -- The first request has left its client open.
        exact first.after_keeps.1.trans accepted.written.1

/-- A login that succeeds has its last request accepted. -/
theorem accepted_of_login {after : Line} (entered : login user password line = .ok () after) :
    ∃ last, (loginExchanges user password line).getLast? = some last ∧ last.Accepted := by
  rw [login_eq] at entered
  unfold loginExchanges
  dsimp only at entered ⊢
  -- The last request is the first one if no response is asked for, and else the second.
  cases answered : (Exchange.mk line (loginRequest user password)).answer with
  | error fault =>
    rw [answered] at entered
    cases entered
  | ok reply =>
    rw [answered] at entered
    dsimp only at entered ⊢
    cases next : nextLogin user password reply with
    | error fault =>
      rw [next] at entered
      cases entered
    | ok words =>
      rw [next] at entered
      cases words with
      | none => exact ⟨_, rfl, reply, answered⟩
      | some words =>
        dsimp only at entered ⊢
        cases replied :
            (Exchange.mk (Exchange.mk line (loginRequest user password)).after words).answer with
        | ok last => exact ⟨_, rfl, last, replied⟩
        | error fault =>
          rw [replied] at entered
          cases entered

/-- No login fails for a password that cannot be encoded: it would have failed before. -/
theorem login_ne_unencodable (user password : String) (line later : Line)
    (run : Text.CodePage.Unencodable) :
    login user password line ≠ .error (.unencodablePassword run) later := by
  intro failed
  rw [login_eq] at failed
  dsimp only at failed
  cases answered : (Exchange.mk line (loginRequest user password)).answer with
  | error fault =>
    rw [answered] at failed
    cases failed
    exact Exchange.answer_ne_unencodable _ run answered
  | ok reply =>
    rw [answered] at failed
    dsimp only at failed
    cases next : nextLogin user password reply with
    | error fault =>
      rw [next] at failed
      cases failed
      -- The response could have been computed from the password that was accepted.
      unfold nextLogin at next
      obtain ⟨-, encodable⟩ := encodable_of_accepted ⟨reply, answered⟩
      split at next
      · cases next
      · split at next
        · cases next
        · rename_i challenge _
          obtain ⟨response, computed, -⟩ := exists_challengeResponse encodable challenge
          rw [computed] at next
          cases next
    | ok words =>
      rw [next] at failed
      cases words with
      | none => cases failed
      | some words =>
        dsimp only at failed
        cases replied :
            (Exchange.mk (Exchange.mk line (loginRequest user password)).after words).answer with
        | ok last =>
          rw [replied] at failed
          cases failed
        | error fault =>
          rw [replied] at failed
          cases failed
          exact Exchange.answer_ne_unencodable _ run replied

end Login

end RouterMetrics.Session
