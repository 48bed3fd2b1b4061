import RouterMetrics.Text.Utf8

/-! Channels: texts that are read from bytes piece by piece. A character or a line break that two
pieces share is read with the later one, and a fault is placed within the piece that shows it. -/

namespace RouterMetrics.Text

/-- A text with single line breaks in place of carriage returns, alone or before a line break. -/
def plainLines : List Char → List Char
  | '\r' :: '\n' :: rest => '\n' :: plainLines rest
  | '\r' :: rest => '\n' :: plainLines rest
  | c :: rest => c :: plainLines rest
  | [] => []

/-- A text that is being read. -/
structure Channel where
  /-- The bytes that are left. -/
  bytes : List UInt8
  /-- The bytes taken of a character that is not complete. -/
  cut : List UInt8
  /-- Whether a carriage return was taken that a line break may follow. -/
  returned : Bool
  /-- The characters that are read and not yet handed out. -/
  ready : List Char
  /-- How many bytes made how many characters the last time. -/
  lastYield : Nat × Nat

namespace Channel

/-- The channel before the first byte. -/
def ofBytes (bytes : List UInt8) : Channel := ⟨bytes, [], false, [], (0, 0)⟩

/-- The least number of bytes that are taken at once. -/
def pieceSize : Nat := 8192

/-- Takes a piece when some characters are wanted, and tells whether there may be another one. -/
def takePiece (channel : Channel) (wanted : Nat) : Except Utf8.Invalid (Bool × Channel) := do
  let (bytes, made) := channel.lastYield
  let piece := channel.bytes.take (max pieceSize (wanted * bytes / made))
  let isLast := piece.isEmpty
  let (chars, cut) ← Utf8.decodeFrom isLast 0 0 (channel.cut ++ piece)
  let chars := if channel.returned && (isLast || !chars.isEmpty) then '\r' :: chars else chars
  let returned := !isLast && (chars.getLast? == some '\r' || (channel.returned && chars.isEmpty))
  let ready := plainLines (if returned then chars.dropLast else chars)
  let rest := channel.bytes.drop piece.length
  return (!isLast || !ready.isEmpty, ⟨rest, cut, returned, ready, (piece.length, ready.length)⟩)

/-- Hands out some characters, or all that are left if these are fewer. -/
def read (channel : Channel) (wanted : Nat) :
    (budget : Nat) → Except Utf8.Invalid (List Char × Channel)
  | 0 => .ok ([], channel)
  | budget + 1 => do
      let found := channel.ready.take wanted
      let channel := { channel with ready := channel.ready.drop wanted }
      if found.length == wanted then return (found, channel)
      let (goesOn, channel) ← channel.takePiece (wanted - found.length)
      if !goesOn then return (found, channel)
      let (later, channel) ← channel.read (wanted - found.length) budget
      return (found ++ later, channel)

/-- The blocks of a size that the text consists of, and the fault after them, if there is one. -/
def blocks (size : Nat) (channel : Channel) :
    (budget : Nat) → List (List Char) × Option Utf8.Invalid
  | 0 => ([], none)
  | budget + 1 =>
      -- Every piece but the last one takes a byte.
      match channel.read size (channel.bytes.length + 2) with
      | .error invalid => ([], some invalid)
      | .ok ([], _) => ([], none)
      | .ok (block, channel) =>
          let (later, invalid) := channel.blocks size budget
          (block :: later, invalid)

end Channel

/-- The blocks of a size of the text of bytes, and the fault after them, if there is one. -/
def blocksOf (size : Nat) (bytes : List UInt8) : List (List Char) × Option Utf8.Invalid :=
  (Channel.ofBytes bytes).blocks size (bytes.length + 1)

end RouterMetrics.Text
