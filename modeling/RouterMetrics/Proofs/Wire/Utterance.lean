import RouterMetrics.Proofs.Wire.Sentence

/-!
Utterances: sentences in the words in which they come, and what these words say.

Main statement: an utterance is read as the sentence that its words say, from exactly its own bytes.
-/

namespace RouterMetrics.Wire

open RouterMetrics.Text.CodePage

/-- A word that may come behind a control word: one with the mark of a tag or of an attribute. -/
def isMarked (word : List UInt8) : Bool :=
  tagMark.isPrefixOf word || word.head? == some equalsByte

/-- A sentence as it may come: words with bytes, and behind the first one only such with a mark. -/
structure Utterance where
  words : List (List UInt8)
  nonempty : ∀ word ∈ words, word ≠ [] := by decide
  announced : ∀ word ∈ words, word.length < 2 ^ 32 := by decide
  marked : ∀ word ∈ words.tail, isMarked word = true := by decide

/-- The tag that a word gives, if it is a word about the tag. -/
def tagIn? (word : List UInt8) : Option String :=
  if tagMark.isPrefixOf word then some (decode (word.drop tagMark.length)) else none

/-- The name and the value that a word gives, if it is a word about an attribute. -/
def attributeIn? (word : List UInt8) : Option (String × String) :=
  if word.head? == some equalsByte then some (splitAttribute (word.drop 1)) else none

/-- A word on the wire, behind its length. -/
def framed (word : List UInt8) : List UInt8 := (encodeLength? word.length).getD [] ++ word

namespace Utterance

/-- The bytes of an utterance, up to the empty word that ends it. -/
def bytes (utterance : Utterance) : List UInt8 := utterance.words.flatMap framed ++ [0]

/-- What an utterance says: the last tag counts, and of the values of a name the last one. -/
def sentence (utterance : Utterance) : Sentence :=
  match utterance.words with
  | [] => .blank
  | control :: others =>
      ⟨decode control, (others.filterMap tagIn?).getLast?.getD "",
        .ofList (others.filterMap attributeIn?)⟩

end Utterance

/-- A word that a length can announce is taken from its frame. -/
theorem takes_framed (word : List UInt8) (announced : word.length < 2 ^ 32) :
    Takes readWord (framed word) word := by
  -- The length is taken first, and then as many bytes.
  obtain ⟨code, coded⟩ := Option.isSome_iff_exists.mp (encodeLength?_isSome announced)
  rw [framed, coded]
  exact (takes_encodeLength? coded).bind (takes_readBytes word)

/-- Words are taken from their frames one after another, as far as the step accepts them. -/
theorem takes_framedWords {σ : Type} {step : σ → List UInt8 → Except Fault σ} {state result : σ}
    {words : List (List UInt8)} (nonempty : ∀ word ∈ words, word ≠ [])
    (announced : ∀ word ∈ words, word.length < 2 ^ 32)
    (accepted : words.foldlM step state = .ok result) :
    Takes (foldWords step state) (words.flatMap framed ++ [0]) result := by
  -- The state of the fold changes from word to word.
  induction words generalizing state with
  | nil =>
    cases accepted
    -- The empty word is framed by its length alone.
    exact takes_foldWords_nil (takes_framed [] (by decide))
  | cons word words ih =>
    rw [List.foldlM_cons] at accepted
    cases taken : step state word with
    | error fault => simp [taken, Bind.bind, Except.bind] at accepted
    | ok next =>
      simp only [taken, Bind.bind, Except.bind] at accepted
      have tail := ih (fun other member => nonempty other (List.mem_cons_of_mem word member))
        (fun other member => announced other (List.mem_cons_of_mem word member)) accepted
      rw [List.flatMap_cons, List.append_assoc]
      exact takes_foldWords_cons (nonempty word List.mem_cons_self)
        (takes_framed word (announced word List.mem_cons_self)) taken tail

private theorem absorb_marked {sentence : Sentence} {word : List UInt8} (named : sentence.word ≠ "")
    (marked : isMarked word = true) :
    sentence.absorb word = .ok
      ⟨sentence.word, (tagIn? word).getD sentence.tag,
        (attributeIn? word).elim sentence.attributes fun pair =>
          sentence.attributes.put pair.1 pair.2⟩ := by
  unfold Sentence.absorb
  rw [if_neg (by simpa using named)]
  by_cases tag : tagMark.isPrefixOf word
  · -- A word about the tag starts with a point, and so it is about no attribute.
    obtain ⟨behind, rfl⟩ := List.isPrefixOf_iff_prefix.mp tag
    rw [if_pos tag, tagIn?, if_pos tag]
    rfl
  · have equals : (word.head? == some equalsByte) = true := by
      simpa [isMarked, tag] using marked
    rw [if_neg tag, if_pos equals, tagIn?, if_neg tag, attributeIn?, if_pos equals]
    rfl

private theorem absorb_allMarked {sentence : Sentence} {words : List (List UInt8)}
    (named : sentence.word ≠ "") (marked : ∀ word ∈ words, isMarked word = true) :
    words.foldlM Sentence.absorb sentence = .ok
      ⟨sentence.word, (words.filterMap tagIn?).getLast?.getD sentence.tag,
        (words.filterMap attributeIn?).foldl (fun map pair => map.put pair.1 pair.2)
          sentence.attributes⟩ := by
  -- The induction is on the words behind the control word, which stays as it is.
  induction words generalizing sentence with
  | nil => rfl
  | cons word words ih =>
    rw [List.foldlM_cons, absorb_marked named (marked word List.mem_cons_self)]
    simp only [Bind.bind, Except.bind]
    rw [ih (by exact named) fun other member => marked other (List.mem_cons_of_mem word member)]
    -- A later word about the tag overrides this one, and attributes are put in behind each other.
    cases tag : tagIn? word <;> cases pair : attributeIn? word <;>
      simp [tag, pair, List.getLast?_cons]

/-- The words of an utterance are taken up into what it says. -/
theorem Utterance.absorbed (utterance : Utterance) :
    utterance.words.foldlM Sentence.absorb .blank = .ok utterance.sentence := by
  obtain ⟨words, nonempty, -, marked⟩ := utterance
  cases words with
  | nil => rfl
  | cons control others =>
    -- The control word has a character for each of its bytes.
    have named : decode control ≠ "" := by
      intro empty
      have size := length_decode control
      rw [empty] at size
      exact nonempty control List.mem_cons_self (List.length_eq_zero_iff.mp size.symm)
    have started : Sentence.blank.absorb control = .ok ⟨decode control, "", .empty⟩ := rfl
    rw [List.foldlM_cons, started]
    exact absorb_allMarked named marked

/-- An utterance is read as what it says, from just its own bytes. -/
theorem Utterance.takes (utterance : Utterance) :
    Takes readSentence utterance.bytes utterance.sentence :=
  takes_framedWords utterance.nonempty utterance.announced utterance.absorbed

end RouterMetrics.Wire
