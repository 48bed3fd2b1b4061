import RouterMetrics.Wire.Fault

/-! The readable side of a stream: bytes that have come, and what a read past them meets. -/

namespace RouterMetrics.Wire

/-- Bytes not yet read, and the failure that stands after them; without one the stream ends. -/
structure Inbox where
  unread : List UInt8
  ending : Option NetworkFault
deriving Repr, DecidableEq

/-- A step of reading: it leaves the inbox as far as it was read, also when it fails. -/
abbrev Reader := EStateM Fault Inbox

/-- An inbox that ends after the given bytes. -/
def Inbox.ofBytes (bytes : List UInt8) : Inbox := ⟨bytes, none⟩

/-- Exactly `count` bytes; a stream that ends before gives up what was left. -/
def readBytes (count : Nat) : Reader (List UInt8) := fun inbox =>
  if count ≤ inbox.unread.length then
    .ok (inbox.unread.take count) { inbox with unread := inbox.unread.drop count }
  else
    match inbox.ending with
    | some fault => .error (.network fault) inbox
    | none => .error (.endOfStream count inbox.unread.length) { inbox with unread := [] }

/-- Bytes that were read are gone from the inbox. -/
theorem readBytes_shrinks {count : Nat} {inbox rest : Inbox} {bytes : List UInt8}
    (read : readBytes count inbox = .ok bytes rest) :
    rest.unread.length + count = inbox.unread.length := by
  unfold readBytes at read
  -- Bytes are taken only where there are enough.
  split at read
  · simp only [EStateM.Result.ok.injEq] at read
    rw [← read.2]
    simp only [List.length_drop]
    omega
  · split at read <;> simp at read

end RouterMetrics.Wire
