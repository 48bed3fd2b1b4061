import RouterMetrics.Proofs.Lists
import RouterMetrics.Proofs.Wire.Sentence

/-!
What is sent in one piece is one sentence.

Main statement: the bytes of written words are read back as these words, with nothing behind them.
-/

namespace RouterMetrics.Wire

open RouterMetrics.Text.CodePage

/-- Only lengths below the limit of the longest form have a code. -/
theorem lt_of_encodeLength? {n : Nat} {code : List UInt8} (coded : encodeLength? n = some code) :
    n < 2 ^ 32 := by
  -- Each form has its limit, and there is none beyond the last one.
  unfold encodeLength? at coded
  grind

/-- A word that was written could be written: its bytes are those of its characters. -/
theorem writable_of_encodeWord {word : String} {code : List UInt8}
    (written : encodeWord word = .ok code) : Writable word := by
  unfold encodeWord at written
  cases encoded : encode word with
  | error run => simp [encoded] at written
  | ok bytes =>
    have encodable := encodable_of_encode encoded
    -- There is one byte for each character, and a length has announced them all.
    rw [encode_eq_ok encodable] at encoded
    cases encoded
    have size : (bytesOf word).length = word.length := by
      rw [bytesOf, length_filterMap_byteOfChar? encodable, String.length_toList]
    simp only [encode_eq_ok encodable] at written
    cases announced : encodeLength? (word.toList.filterMap byteOfChar?).length with
    | none => simp [announced] at written
    | some length => exact ⟨encodable, size ▸ lt_of_encodeLength? announced⟩

/-- The bytes of a sentence are those of its words, each of which could be written. -/
theorem encodeSentence_ok {words : List String} {bytes : List UInt8}
    (written : encodeSentence words = .ok bytes) :
    ∃ codes, words.mapM encodeWord = .ok codes ∧ codes.flatten ++ [0] = bytes ∧
      ∀ word ∈ words, Writable word := by
  cases coded : words.mapM encodeWord with
  | error fault => simp [encodeSentence, coded, Bind.bind, Except.bind] at written
  | ok codes =>
    refine ⟨codes, rfl, ?_, fun word member => ?_⟩
    · simpa [encodeSentence, coded, Bind.bind, Except.bind, Pure.pure, Except.pure] using written
    · -- A word with a code could be written.
      obtain ⟨code, encoded⟩ := exists_ok_of_mem_mapM coded member
      exact writable_of_encodeWord encoded

/-- Words that can all be written are written as a sentence. -/
theorem exists_encodeSentence {words : List String} (writable : ∀ word ∈ words, Writable word) :
    ∃ bytes, encodeSentence words = .ok bytes := by
  -- Each word has its code, and the codes are joined.
  obtain ⟨codes, coded⟩ := exists_mapM fun word member =>
    (takes_encodeWord (writable word member)).imp fun _ written => written.1
  refine ⟨codes.flatten ++ [0], ?_⟩
  simp [encodeSentence, coded, Bind.bind, Except.bind, Pure.pure, Except.pure]

/-- A text that is not empty has bytes, if it can be written. -/
theorem bytesOf_ne_nil {word : String} (writable : Writable word) (nonempty : word ≠ "") :
    bytesOf word ≠ [] := by
  -- There are as many bytes as characters.
  intro empty
  have size : (bytesOf word).length = word.toList.length :=
    length_filterMap_byteOfChar? writable.1
  rw [empty] at size
  exact nonempty (String.toList_eq_nil_iff.mp (List.length_eq_zero_iff.mp size.symm))

/-- Keeping every word keeps them all, in their order. -/
theorem foldlM_keep {words : List String} (encodable : ∀ word ∈ words, Encodable word)
    (kept : List String) :
    (words.map bytesOf).foldlM
        (fun (words : List String) word => (.ok (words ++ [decode word]) : Except Fault _)) kept =
      .ok (kept ++ words) := by
  -- The induction is on the words, for any that are kept before them.
  induction words generalizing kept with
  | nil => simp [Pure.pure, Except.pure]
  | cons word words ih =>
    have read : decode (bytesOf word) = word := decode_encoded (encodable word List.mem_cons_self)
    simp only [List.map_cons, List.foldlM_cons, Bind.bind, Except.bind, read]
    rw [ih (fun other member => encodable other (List.mem_cons_of_mem word member))]
    simp

/-- The bytes of words that are not empty are one sentence, with nothing behind it. -/
theorem sentWords_encodeSentence {words : List String} {bytes : List UInt8}
    (written : encodeSentence words = .ok bytes) (nonempty : ∀ word ∈ words, word ≠ "") :
    sentWords bytes = (words, []) := by
  obtain ⟨codes, coded, rfl, writable⟩ := encodeSentence_ok written
  have kept := foldlM_keep (fun word member => (writable word member).1) []
  obtain ⟨codes', coded', taken⟩ := takes_foldWords writable
    (fun word member => bytesOf_ne_nil (writable word member) (nonempty word member)) kept
  -- The words have been written in one way only.
  rw [coded] at coded'
  cases coded'
  have read := taken.whole [] none
  rw [List.append_nil] at read
  unfold sentWords
  simp only [Inbox.ofBytes, read, List.nil_append]

end RouterMetrics.Wire
