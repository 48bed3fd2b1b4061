import Mathlib
import RouterMetrics.Session.Reply

/-! What reading a reply leaves on the stream, and the faults that it can meet there. -/

namespace RouterMetrics.Wire

/-- A fault that reading can meet on a stream with an ending. -/
def Fault.CanBeMet (ending : Option NetworkFault) : Fault → Prop
  | .network failure => ending = some failure
  | .endOfStream _ _ | .badLength _ | .badWord _ => True
  | .unencodable _ | .oversized _ => False

/-- Reading leaves the ending of a stream alone, and meets no network failure that is not there. -/
structure KeepsEnding {α : Type} (reader : Reader α) : Prop where
  kept : ∀ {inbox rest result}, reader inbox = .ok result rest → rest.ending = inbox.ending
  met : ∀ {inbox rest fault}, reader inbox = .error fault rest → fault.CanBeMet inbox.ending

namespace KeepsEnding

variable {α β : Type}

/-- A result that is given at once reads nothing. -/
theorem pure (result : α) : KeepsEnding (pure result : Reader α) where
  -- There is no byte that would be read.
  kept read := by
    cases read
    rfl
  met failed := nomatch failed

/-- A fault of the text itself can be met on every stream. -/
theorem throw {fault : Fault} (ofText : ∀ ending, fault.CanBeMet ending) :
    KeepsEnding (throw fault : Reader α) where
  kept read := nomatch read
  met {inbox _ other} failed := by
    -- Throwing fails with this very fault and reads nothing.
    have same : (EStateM.Result.error fault inbox : EStateM.Result _ _ α) = .error other _ := failed
    cases same
    exact ofText inbox.ending

/-- Readers in turn keep the ending one after the other. -/
theorem bind {first : Reader α} {next : α → Reader β} (head : KeepsEnding first)
    (tail : ∀ result, KeepsEnding (next result)) : KeepsEnding (first >>= next) where
  kept {inbox rest result} read := by
    -- The second reader starts where the first one has stopped.
    cases half : first inbox with
    | ok middle left =>
      simp only [Bind.bind, EStateM.bind, half] at read
      exact ((tail middle).kept read).trans (head.kept half)
    | error fault left => simp [Bind.bind, EStateM.bind, half] at read
  met {inbox rest fault} failed := by
    -- The fault is that of the second reader, or the first one fails.
    cases half : first inbox with
    | ok middle left =>
      simp only [Bind.bind, EStateM.bind, half] at failed
      rw [← head.kept half]
      exact (tail middle).met failed
    | error other left =>
      simp only [Bind.bind, EStateM.bind, half, EStateM.Result.error.injEq] at failed
      exact failed.1 ▸ head.met half

end KeepsEnding

private theorem keepsEnding_readBytes (count : Nat) : KeepsEnding (readBytes count) where
  kept {inbox rest result} read := by
    unfold readBytes at read
    -- Enough bytes are there, or reading fails for want of them.
    split at read
    · cases read
      rfl
    · split at read <;> cases read
  met {inbox rest fault} failed := by
    unfold readBytes at failed
    -- Where bytes are missing, the ending says why, if it says anything.
    split at failed
    · cases failed
    · split at failed
      · rename_i ending
        cases failed
        exact ending
      · cases failed
        trivial

private theorem keepsEnding_readWord : KeepsEnding readWord := by
  -- A word is its length, which starts with one byte, and as many bytes behind it.
  refine .bind (.bind (keepsEnding_readBytes 1) fun bytes => ?_) fun length =>
    keepsEnding_readBytes length
  -- A length is announced by its first byte, which may be one that announces nothing.
  unfold readAnnounced
  split
  · exact .throw fun _ => trivial
  · exact .bind (keepsEnding_readBytes _) fun _ => .pure _

/-- Reading a sentence keeps the ending. -/
theorem keepsEnding_readSentence : KeepsEnding readSentence := by
  -- The words are taken up one after another, as the fold over them does.
  have fold : ∀ sentence inbox,
      (∀ {rest result}, foldWords Sentence.absorb sentence inbox = .ok result rest →
        rest.ending = inbox.ending) ∧
      ∀ {rest fault}, foldWords Sentence.absorb sentence inbox = .error fault rest →
        fault.CanBeMet inbox.ending := by
    intro sentence inbox
    fun_induction foldWords Sentence.absorb sentence inbox with
    | case1 sentence inbox fault rest failed =>
      refine ⟨fun same => ?_, fun same => ?_⟩ <;> cases same
      -- No word can be read.
      exact keepsEnding_readWord.met failed
    | case2 sentence inbox rest empty =>
      refine ⟨fun same => ?_, fun same => ?_⟩ <;> cases same
      -- The empty word ends the sentence.
      exact keepsEnding_readWord.kept empty
    | case3 sentence inbox byte bytes rest word fault refused =>
      refine ⟨fun same => ?_, fun same => ?_⟩ <;> cases same
      -- A word is refused only because it has no place in a sentence.
      unfold Sentence.absorb at refused
      split at refused
      · cases refused
      · split at refused
        · cases refused
        · split at refused
          · cases refused
          · cases refused
            trivial
    | case4 sentence inbox byte bytes rest word next accepted ih =>
      have passed := keepsEnding_readWord.kept word
      exact ⟨fun read => (ih.1 read).trans passed, fun failed => passed ▸ ih.2 failed⟩
  exact ⟨fun read => (fold _ _).1 read, fun failed => (fold _ _).2 failed⟩

end RouterMetrics.Wire

namespace RouterMetrics.Session

open RouterMetrics.Wire

/-- What stands behind the first complete sentence that ends a reply, if such a sentence comes. -/
def bytesAfterDone? (inbox : Inbox) : Option (List UInt8) :=
  match _read : readSentence inbox with
  | .error _ _ => none
  | .ok sentence rest =>
      if sentence.word = "!done" then some rest.unread else bytesAfterDone? rest
termination_by inbox.unread.length
decreasing_by exact readSentence_shrinks _read

/-- What a reply that was read to its end leaves stands behind the sentence that completes it. -/
theorem readReplyFrom_leaves {rows : List Sentence} {trap : Option Sentence} {inbox : Inbox} :
    (∀ {reply rest}, readReplyFrom rows trap inbox = .ok reply rest →
      bytesAfterDone? inbox = some rest.unread) ∧
    ∀ {last reply rest}, readReplyFrom rows trap inbox = .error (.device last (some reply)) rest →
      bytesAfterDone? inbox = some rest.unread := by
  -- The cases follow the sentences: one that ends the reply is where the other reader stops, too.
  fun_induction readReplyFrom rows trap inbox with
  | case1 => exact ⟨nofun, nofun⟩
  | case2 rows trap inbox sentence rest read word ih =>
    -- A row does not end the reply.
    rw [bytesAfterDone?, read]
    simpa [word] using ih
  | case3 rows trap inbox sentence rest read word ih =>
    -- A trap is kept, but the reply goes on behind it.
    rw [bytesAfterDone?, read]
    simpa [word] using ih
  | case4 rows inbox sentence rest read word =>
    -- Without a trap the reply is complete.
    refine ⟨fun same => ?_, nofun⟩
    cases same
    rw [bytesAfterDone?, read]
    simp [word]
  | case5 rows inbox sentence rest read word last =>
    -- With a trap the reply is complete, but it is a fault.
    refine ⟨nofun, fun same => ?_⟩
    cases same
    rw [bytesAfterDone?, read]
    simp [word]
  -- A fatal sentence ends the session without a reply.
  | case6 => exact ⟨nofun, nofun⟩
  | case7 rows trap inbox sentence rest read word ih =>
    -- An empty sentence is passed over.
    rw [bytesAfterDone?, read]
    simpa [word] using ih
  | case8 => exact ⟨nofun, nofun⟩

/-- A fault that reading a reply can meet on a stream with an ending. -/
def Fault.CanBeMet (ending : Option NetworkFault) : Fault → Prop
  | .wire fault => fault.CanBeMet ending
  | .device trap (some _) => isFatal trap = false
  | .device trap none => isFatal trap = true
  | .unknownReply _ => True
  | .badChallenge _ | .unencodablePassword _ | .badArgument _ | .closed => False

/-- Reading a reply meets only such faults, given that the last trap so far was not fatal. -/
theorem readReplyFrom_met {rows : List Sentence} {trap : Option Sentence} {inbox rest : Inbox}
    {fault : Fault} (nonfatal : ∀ last, trap = some last → isFatal last = false)
    (failed : readReplyFrom rows trap inbox = .error fault rest) :
    fault.CanBeMet inbox.ending := by
  fun_induction readReplyFrom rows trap inbox with
  | case1 rows trap inbox other left unread =>
    -- No sentence can be read.
    cases failed
    exact keepsEnding_readSentence.met unread
  | case2 rows trap inbox sentence left read word ih =>
    rw [← keepsEnding_readSentence.kept read]
    exact ih nonfatal failed
  | case3 rows trap inbox sentence left read word ih =>
    rw [← keepsEnding_readSentence.kept read]
    refine ih ?_ failed
    -- The new last trap has the word of a trap.
    rintro _ ⟨⟩
    simp [isFatal, word]
  | case4 => cases failed
  | case5 rows inbox sentence left read word last =>
    cases failed
    -- The reply is complete, and its last trap was not a fatal one.
    exact nonfatal last rfl
  | case6 rows trap inbox sentence left read word =>
    -- A fatal sentence is a fault without a reply.
    cases failed
    simp [Fault.CanBeMet, isFatal, word]
  | case7 rows trap inbox sentence left read word ih =>
    rw [← keepsEnding_readSentence.kept read]
    exact ih nonfatal failed
  | case8 =>
    -- A sentence with another word is a fault of its own.
    cases failed
    trivial

end RouterMetrics.Session
