import RouterMetrics.Wire.Inbox

/-! The variable-length code that announces how many bytes a word has. -/

namespace RouterMetrics.Wire

/-- The last `count` bytes of a number, the highest first. -/
def bigEndian : (count n : Nat) → List UInt8
  | 0, _ => []
  | count + 1, n => bigEndian count (n / 256) ++ [UInt8.ofNat n]

/-- The number that bytes stand for, the highest first. -/
def ofBigEndian (bytes : List UInt8) : Nat :=
  bytes.foldl (fun n byte => n * 256 + byte.toNat) 0

/-- The code of a length: its size is marked by the leading ones of the first byte. -/
def encodeLength? (n : Nat) : Option (List UInt8) :=
  if n < 0x80 then some (bigEndian 1 n)
  else if n < 0x4000 then some (bigEndian 2 (0x8000 + n))
  else if n < 0x200000 then some (bigEndian 3 (0xC00000 + n))
  else if n < 0x10000000 then some (bigEndian 4 (0xE0000000 + n))
  else if n < 0x100000000 then some (0xF0 :: bigEndian 4 n)
  else none

/-- The bits of a length that its first byte holds, and how many bytes follow. -/
def announcedLength? (first : UInt8) : Option (Nat × Nat) :=
  let n := first.toNat
  if n < 0x80 then some (n, 0)
  else if n < 0xC0 then some (n - 0x80, 1)
  else if n < 0xE0 then some (n - 0xC0, 2)
  else if n < 0xF0 then some (n - 0xE0, 3)
  -- The three low bits of the longest form are not looked at.
  else if n < 0xF8 then some (0, 4)
  else none

/-- The rest of a length after its first byte. -/
def readAnnounced (first : UInt8) : Reader Nat :=
  match announcedLength? first with
  | none => throw (.badLength first)
  | some (high, following) => do
      let low ← readBytes following
      return high * Nat.pow 256 following + ofBigEndian low

/-- A length as it stands in a stream. -/
def readLength : Reader Nat := do
  let bytes ← readBytes 1
  readAnnounced (bytes.head?.getD 0)

/-- What follows the first byte of a length only takes bytes away. -/
theorem readAnnounced_shrinks {first : UInt8} {inbox rest : Inbox} {n : Nat}
    (read : readAnnounced first inbox = .ok n rest) :
    rest.unread.length ≤ inbox.unread.length := by
  unfold readAnnounced at read
  cases form : announcedLength? first with
  | none =>
    -- A first byte that announces no length ends the reading at once.
    simp only [form] at read
    have failed : EStateM.Result.error (Fault.badLength first) inbox = .ok n rest := read
    cases failed
  | some parts =>
    obtain ⟨high, following⟩ := parts
    cases second : readBytes following inbox with
    | error fault after => simp [form, bind, EStateM.bind, second] at read
    | ok low after =>
      have gone := readBytes_shrinks second
      simp only [form, bind, EStateM.bind, second, pure, EStateM.pure,
        EStateM.Result.ok.injEq] at read
      rw [← read.2]
      omega

/-- A length that was read has taken at least its first byte. -/
theorem readLength_shrinks {inbox rest : Inbox} {n : Nat} (read : readLength inbox = .ok n rest) :
    rest.unread.length < inbox.unread.length := by
  unfold readLength at read
  cases first : readBytes 1 inbox with
  | error fault next => simp [bind, EStateM.bind, first] at read
  | ok bytes next =>
    -- The first byte is gone, and what it announces takes no byte back.
    have gone := readBytes_shrinks first
    simp only [bind, EStateM.bind, first] at read
    have left := readAnnounced_shrinks read
    omega

end RouterMetrics.Wire
