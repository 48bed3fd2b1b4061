import RouterMetrics.Wire.Word

/-! Writing a sentence word by word, to be sent in one piece. -/

namespace RouterMetrics.Wire

/-- The encoded words of a sentence that has not been ended. -/
structure Writer where
  pending : List UInt8
deriving Repr, DecidableEq

namespace Writer

/-- A writer at the start of a sentence. -/
def fresh : Writer := ⟨[]⟩

/-- The writer after one more word; a word that cannot be encoded leaves nothing behind. -/
def word (writer : Writer) (text : String) : Except Fault Writer :=
  (encodeWord text).map fun bytes => ⟨writer.pending ++ bytes⟩

/-- The bytes of the ended sentence, and the writer for the next. -/
def finish (writer : Writer) : List UInt8 × Writer :=
  (writer.pending ++ [0], fresh)

end Writer

end RouterMetrics.Wire
