import RouterMetrics.Wire.Length

/-! Words: a length and that many bytes of text in the code page. -/

namespace RouterMetrics.Wire

/-- The bytes of a word. -/
def encodeWord (word : String) : Except Fault (List UInt8) :=
  match Text.CodePage.encode word with
  | .error run => .error (.unencodable run)
  | .ok bytes =>
      match encodeLength? bytes.length with
      | none => .error (.oversized bytes.length)
      | some length => .ok (length ++ bytes)

/-- The words of a sentence and the empty word that ends it. -/
def encodeSentence (words : List String) : Except Fault (List UInt8) := do
  let encoded ← words.mapM encodeWord
  return encoded.flatten ++ [0]

/-- The bytes of a word; the empty word has none. -/
def readWord : Reader (List UInt8) := do
  let length ← readLength
  readBytes length

/-- A word that was read has taken at least one byte. -/
theorem readWord_shrinks {inbox rest : Inbox} {word : List UInt8}
    (read : readWord inbox = .ok word rest) : rest.unread.length < inbox.unread.length := by
  unfold readWord at read
  cases announced : readLength inbox with
  | error fault next => simp [bind, EStateM.bind, announced] at read
  | ok length next =>
    -- The length is gone, also where the word behind it is empty.
    have lengthGone := readLength_shrinks announced
    simp only [bind, EStateM.bind, announced] at read
    have wordGone := readBytes_shrinks read
    omega

end RouterMetrics.Wire
