import RouterMetrics.OrderedMap
import RouterMetrics.Wire.Word

/-! Sentences: a control word, a tag and attributes, ended by the empty word. -/

namespace RouterMetrics.Wire

/-- The attributes of a sentence in the order in which their names first came. -/
abbrev Attributes := OrderedMap String String

/-- A sentence as it was received. -/
structure Sentence where
  word : String
  tag : String
  attributes : Attributes
deriving Repr, DecidableEq

/-- The sentence of which nothing has been read. -/
def Sentence.blank : Sentence := ⟨"", "", .empty⟩

/-- The value of an attribute. -/
def Sentence.get? (sentence : Sentence) (name : String) : Option String :=
  sentence.attributes.get? name

/-- The value of an attribute, empty where it is missing. -/
def Sentence.get (sentence : Sentence) (name : String) : String :=
  sentence.attributes.getD name ""

/-- The text of a sentence in messages. -/
def Sentence.text (sentence : Sentence) : String :=
  let pairs := sentence.attributes.entries.map fun entry =>
    "(" ++ Text.quoted entry.1 ++ ", " ++ Text.quoted entry.2 ++ ")"
  sentence.word ++ " @" ++ sentence.tag ++ " [" ++ ", ".intercalate pairs ++ "]"

/-- The bytes that start a tag. -/
def tagMark : List UInt8 := [0x2E, 0x74, 0x61, 0x67, 0x3D]

/-- The byte that starts an attribute and stands between its name and its value. -/
def equalsByte : UInt8 := 0x3D

/-- A name and a value, split at the first equals sign; without one the value is empty. -/
def splitAttribute (bytes : List UInt8) : String × String :=
  let name := bytes.takeWhile (· != equalsByte)
  (Text.CodePage.decode name, Text.CodePage.decode (bytes.drop (name.length + 1)))

/-- The sentence with one more word: first the control word, then tags and attributes. -/
def Sentence.absorb (sentence : Sentence) (bytes : List UInt8) : Except Fault Sentence :=
  if sentence.word.isEmpty then .ok { sentence with word := Text.CodePage.decode bytes }
  else if tagMark.isPrefixOf bytes then
    .ok { sentence with tag := Text.CodePage.decode (bytes.drop tagMark.length) }
  else if bytes.head? == some equalsByte then
    let (name, value) := splitAttribute (bytes.drop 1)
    .ok { sentence with attributes := sentence.attributes.put name value }
  else .error (.badWord bytes)

/-- Words taken up one after another, until the empty word or a word that is refused. -/
def foldWords {σ : Type} (step : σ → List UInt8 → Except Fault σ) (state : σ) (inbox : Inbox) :
    EStateM.Result Fault Inbox σ :=
  match _read : readWord inbox with
  | .error fault rest => .error fault rest
  | .ok [] rest => .ok state rest
  | .ok (byte :: bytes) rest =>
      match step state (byte :: bytes) with
      | .error fault => .error fault rest
      | .ok next => foldWords step next rest
termination_by inbox.unread.length
decreasing_by exact readWord_shrinks _read

/-- Words taken up to the end of a sentence have taken at least one byte. -/
theorem foldWords_shrinks {σ : Type} {step : σ → List UInt8 → Except Fault σ} {state result : σ}
    {inbox rest : Inbox} (read : foldWords step state inbox = .ok result rest) :
    rest.unread.length < inbox.unread.length := by
  fun_induction foldWords step state inbox with
  | case1 => simp at read
  -- The empty word is taken, too.
  | case2 state inbox rest' empty =>
    have gone := readWord_shrinks empty
    simp only [EStateM.Result.ok.injEq] at read
    rw [← read.2]
    exact gone
  | case3 => simp at read
  -- One word is gone, and the fold goes on with what is left.
  | case4 state inbox byte bytes rest' word next _ ih =>
    have gone := readWord_shrinks word
    have left := ih read
    omega

/-- The next sentence of a stream. -/
def readSentence : Reader Sentence := foldWords Sentence.absorb Sentence.blank

/-- A sentence that was read has taken at least one byte. -/
theorem readSentence_shrinks {inbox rest : Inbox} {sentence : Sentence}
    (read : readSentence inbox = .ok sentence rest) :
    rest.unread.length < inbox.unread.length :=
  foldWords_shrinks read

/-- The words of a sent sentence as texts, up to its first empty word, and the bytes after it. -/
def sentWords (bytes : List UInt8) : List String × List UInt8 :=
  let keep := fun (words : List String) word => .ok (words ++ [Text.CodePage.decode word])
  match foldWords keep [] (.ofBytes bytes) with
  | .ok words rest => (words, rest.unread)
  | .error _ _ => ([], bytes)

end RouterMetrics.Wire
