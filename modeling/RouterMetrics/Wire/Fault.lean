import RouterMetrics.Network
import RouterMetrics.Text.CodePage

/-! What can go wrong while words are written to a stream or read from it. -/

namespace RouterMetrics.Wire

/-- Why a word could not be written or a sentence not be read. -/
inductive Fault where
  /-- The stream ended in the middle of what was to be read. -/
  | endOfStream (wanted got : Nat)
  /-- The network failed. -/
  | network (fault : NetworkFault)
  /-- A length starts with a byte that announces nothing. -/
  | badLength (first : UInt8)
  /-- A word that is neither a tag nor an attribute. -/
  | badWord (word : List UInt8)
  /-- A text has characters outside the code page. -/
  | unencodable (run : Text.CodePage.Unencodable)
  /-- A word has more bytes than a length can announce. -/
  | oversized (length : Nat)
deriving Repr, DecidableEq

/-- The wording of a fault. -/
def Fault.message : Fault → String
  | .endOfStream wanted got => s!"unexpected end of stream: wanted {wanted} bytes, got {got}"
  | .network fault => fault.message
  | .badLength first =>
      let byte := Text.hexText [first]
      s!"invalid RouterOS word length prefix: 0x{byte}"
  | .badWord word => "invalid RouterOS sentence word: " ++ Text.quotedBytes word
  | .unencodable run => "word can't be encoded as cp1250: " ++ run.message
  | .oversized length => s!"a word of {length} bytes is too long"

end RouterMetrics.Wire
