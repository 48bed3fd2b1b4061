import RouterMetrics.Proofs.OrderedMap
import RouterMetrics.Proofs.Text.CodePage
import RouterMetrics.Proofs.Wire.Length

/-!
Sentences read back as they were written.

Main statement: whatever is written with a control word, a tag and attributes is read back one
sentence after the other, and a sentence that is cut off is never taken for a shorter one.
-/

namespace RouterMetrics.Wire

open RouterMetrics.Text.CodePage

/-- The bytes of a text, one for each character that has one. -/
def bytesOf (text : String) : List UInt8 := text.toList.filterMap byteOfChar?

/-- Bytes of joined texts are joined bytes. -/
@[simp] theorem bytesOf_append (text more : String) :
    bytesOf (text ++ more) = bytesOf text ++ bytesOf more := by
  simp [bytesOf]

/-- A text that can be a word: its characters have bytes, and a length can announce them. -/
def Writable (word : String) : Prop := Encodable word ∧ word.length < 2 ^ 32

/-- A writable text has a code, from which its bytes are read back. -/
theorem takes_encodeWord {word : String} (writable : Writable word) :
    ∃ code, encodeWord word = .ok code ∧ Takes readWord code (bytesOf word) := by
  obtain ⟨encodable, short⟩ := writable
  have size : (bytesOf word).length = word.length := by
    rw [bytesOf, length_filterMap_byteOfChar? encodable, String.length_toList]
  -- The text has as many bytes as characters, so a length can announce them.
  obtain ⟨length, coded⟩ := Option.isSome_iff_exists.mp
    (encodeLength?_isSome (n := (bytesOf word).length) (by omega))
  refine ⟨length ++ bytesOf word, ?_, ?_⟩
  · have encoded : encode word = .ok (bytesOf word) := encode_eq_ok encodable
    simp [encodeWord, encoded, coded]
  · exact (takes_encodeLength? coded).bind (takes_readBytes (bytesOf word))

private theorem takes_emptyWord : Takes readWord [0] [] :=
  -- The length is zero, and no bytes stand behind it.
  (takes_encodeLength? (n := 0) rfl).bind (takes_readBytes [])

/-- Written words are taken up one after another, as far as the step accepts them. -/
theorem takes_foldWords {σ : Type} {step : σ → List UInt8 → Except Fault σ} {state result : σ}
    {words : List String} (writable : ∀ word ∈ words, Writable word)
    (nonempty : ∀ word ∈ words, bytesOf word ≠ [])
    (accepted : (words.map bytesOf).foldlM step state = .ok result) :
    ∃ codes, words.mapM encodeWord = .ok codes ∧
      Takes (foldWords step state) (codes.flatten ++ [0]) result := by
  -- The state of the fold changes from word to word.
  induction words generalizing state with
  | nil =>
    cases accepted
    exact ⟨[], rfl, takes_foldWords_nil takes_emptyWord⟩
  | cons word words ih =>
    simp only [List.map_cons, List.foldlM_cons] at accepted
    cases taken : step state (bytesOf word) with
    | error fault => simp [taken, Bind.bind, Except.bind] at accepted
    | ok next =>
      simp only [taken, Bind.bind, Except.bind] at accepted
      obtain ⟨code, coded, head⟩ := takes_encodeWord (writable word List.mem_cons_self)
      obtain ⟨codes, others, tail⟩ := ih (fun w member => writable w (List.mem_cons_of_mem _ member))
        (fun w member => nonempty w (List.mem_cons_of_mem _ member)) accepted
      refine ⟨code :: codes, ?_, ?_⟩
      · simp [List.mapM_cons, coded, others, Bind.bind, Except.bind, Pure.pure, Except.pure]
      · rw [List.flatten_cons, List.append_assoc]
        exact takes_foldWords_cons (nonempty word List.mem_cons_self) head taken tail

/-- What a sentence is to say: its control word, its tag, and its attributes in order. -/
structure Draft where
  word : String
  tag : String
  attributes : List (String × String)
deriving Repr, DecidableEq

namespace Draft

/-- The word of an attribute. -/
def attributeWord (pair : String × String) : String := "=" ++ pair.1 ++ "=" ++ pair.2

/-- The words in which a draft is written. -/
def words (draft : Draft) : List String :=
  draft.word :: (".tag=" ++ draft.tag) :: draft.attributes.map attributeWord

/-- The draft has a control word, no name with an equals sign, and only words that can be written. -/
structure IsWritable (draft : Draft) : Prop where
  named : draft.word ≠ ""
  splittable : ∀ pair ∈ draft.attributes, '=' ∉ pair.1.toList
  writable : ∀ word ∈ draft.words, Writable word

/-- The sentence of a draft: every name where it first came, with the value that came last. -/
def sentence (draft : Draft) : Sentence where
  word := draft.word
  tag := draft.tag
  attributes :=
    ⟨(draft.attributes.map Prod.fst).eraseDups.map fun name =>
      (name, OrderedMap.lastValue draft.attributes name)⟩

end Draft

private theorem decode_bytesOf {text : String} (encodable : Encodable text) :
    decode (bytesOf text) = text :=
  decode_encoded encodable

private theorem equalsByte_not_mem {text : String} (absent : '=' ∉ text.toList) :
    equalsByte ∉ bytesOf text := by
  -- The byte of the equals sign stands for nothing else.
  intro member
  obtain ⟨c, inside, coded⟩ := List.mem_filterMap.mp member
  -- The byte reads back as one character only.
  have same : some c = some '=' := by
    rw [← charOfByte?_byteOfChar? coded]
    rfl
  exact absent (Option.some.inj same ▸ inside)

private theorem splitAttribute_bytesOf {name value : String} (splittable : '=' ∉ name.toList)
    (nameEncodable : Encodable name) (valueEncodable : Encodable value) :
    splitAttribute (bytesOf name ++ equalsByte :: bytesOf value) = (name, value) := by
  -- An attribute is split behind its name.
  have before : ∀ byte ∈ bytesOf name, (byte != equalsByte) = true := by
    intro byte member
    have differs : byte ≠ equalsByte := fun same => equalsByte_not_mem splittable (same ▸ member)
    simpa using differs
  -- The name ends at the first equals sign, and the value is all that stands behind it.
  have stop : (equalsByte :: bytesOf value).takeWhile (· != equalsByte) = [] := by simp
  have head : (bytesOf name ++ equalsByte :: bytesOf value).takeWhile (· != equalsByte) =
      bytesOf name := by
    rw [List.takeWhile_append_of_pos before, stop, List.append_nil]
  have gone : (bytesOf name).drop ((bytesOf name).length + 1) = [] :=
    List.drop_eq_nil_of_le (by omega)
  simp [splitAttribute, head, gone, List.drop_append, decode_bytesOf nameEncodable,
    decode_bytesOf valueEncodable]

private theorem absorb_control {word : String} (encodable : Encodable word) :
    Sentence.blank.absorb (bytesOf word) = .ok { Sentence.blank with word } := by
  -- The first word becomes the control word.
  simp [Sentence.absorb, Sentence.blank, decode_bytesOf encodable]

private theorem absorb_tag {sentence : Sentence} {tag : String} (named : sentence.word ≠ "")
    (encodable : Encodable tag) :
    sentence.absorb (bytesOf (".tag=" ++ tag)) = .ok { sentence with tag } := by
  -- A word with the mark of a tag becomes the tag.
  have marked : bytesOf (".tag=" ++ tag) = tagMark ++ bytesOf tag := by
    rw [bytesOf_append]
    rfl
  simp [Sentence.absorb, named, marked, decode_bytesOf encodable]

private theorem absorb_attribute {sentence : Sentence} {pair : String × String}
    (named : sentence.word ≠ "") (splittable : '=' ∉ pair.1.toList)
    (nameEncodable : Encodable pair.1) (valueEncodable : Encodable pair.2) :
    sentence.absorb (bytesOf (Draft.attributeWord pair)) =
      .ok { sentence with attributes := sentence.attributes.put pair.1 pair.2 } := by
  -- A word with an equals sign in front becomes an attribute.
  have marked : bytesOf (Draft.attributeWord pair) =
      equalsByte :: (bytesOf pair.1 ++ equalsByte :: bytesOf pair.2) := by
    have equals : bytesOf "=" = [equalsByte] := rfl
    simp [Draft.attributeWord, equals]
  have parts := splitAttribute_bytesOf splittable nameEncodable valueEncodable
  -- An equals sign in front is not the mark of a tag.
  have untagged : tagMark.isPrefixOf
      (equalsByte :: (bytesOf pair.1 ++ equalsByte :: bytesOf pair.2)) = false := rfl
  simp [Sentence.absorb, named, marked, untagged, parts]

/-- Attribute after attribute is put into the sentence. -/
theorem absorb_attributes {sentence : Sentence} {pairs : List (String × String)}
    (named : sentence.word ≠ "") (splittable : ∀ pair ∈ pairs, '=' ∉ pair.1.toList)
    (encodable : ∀ pair ∈ pairs, Encodable pair.1 ∧ Encodable pair.2) :
    ((pairs.map Draft.attributeWord).map bytesOf).foldlM Sentence.absorb sentence =
      .ok { sentence with
        attributes := pairs.foldl (fun map pair => map.put pair.1 pair.2) sentence.attributes } := by
  -- The induction is on the pairs: each is put behind those that were absorbed before.
  induction pairs generalizing sentence with
  | nil => rfl
  | cons pair pairs ih =>
    obtain ⟨nameEncodable, valueEncodable⟩ := encodable pair List.mem_cons_self
    have taken := absorb_attribute named (splittable pair List.mem_cons_self) nameEncodable
      valueEncodable
    simp only [List.map_cons, List.foldlM_cons, taken, Bind.bind, Except.bind, List.foldl_cons]
    exact ih named (fun p member => splittable p (List.mem_cons_of_mem _ member))
      fun p member => encodable p (List.mem_cons_of_mem _ member)

namespace Draft

/-- The texts of a draft that can be written are encodable. -/
theorem IsWritable.encodable {draft : Draft} (writable : draft.IsWritable) :
    Encodable draft.word ∧ Encodable draft.tag ∧
      ∀ pair ∈ draft.attributes, Encodable pair.1 ∧ Encodable pair.2 := by
  have ofWord : ∀ word ∈ draft.words, ∀ c ∈ word.toList, (byteOfChar? c).isSome :=
    fun word member => (writable.writable word member).1
  refine ⟨ofWord _ (by simp [words]), ?_, ?_⟩
  · -- The characters of the parts are characters of the words.
    intro c member
    exact ofWord (".tag=" ++ draft.tag) (by simp [words]) c (by simp [member])
  · intro pair inside
    have within : ∀ c ∈ (attributeWord pair).toList, (byteOfChar? c).isSome :=
      ofWord (attributeWord pair) (by simp [words, List.mem_map_of_mem inside])
    constructor
    · exact fun c member => within c (by simp [attributeWord, member])
    · exact fun c member => within c (by simp [attributeWord, member])

/-- No word of a draft that can be written is empty, so none of them ends the sentence. -/
theorem IsWritable.bytesOf_ne_nil {draft : Draft} (writable : draft.IsWritable) :
    ∀ word ∈ draft.words, bytesOf word ≠ [] := by
  intro word member empty
  have size : (bytesOf word).length = word.toList.length :=
    length_filterMap_byteOfChar? (writable.writable word member).1
  have blank : word = "" := by
    rw [empty] at size
    exact String.toList_eq_nil_iff.mp (List.length_eq_zero_iff.mp size.symm)
  subst blank
  simp only [words, List.mem_cons, List.mem_map] at member
  -- The control word is not empty, and the other words start with a mark.
  rcases member with control | tagged | ⟨pair, -, named⟩
  · exact writable.named control.symm
  · have chars := congrArg String.toList tagged
    simp at chars
  · have chars := congrArg String.toList named
    simp [attributeWord] at chars

/-- The words of a draft are taken up into its sentence. -/
theorem IsWritable.absorbed {draft : Draft} (writable : draft.IsWritable) :
    (draft.words.map bytesOf).foldlM Sentence.absorb Sentence.blank = .ok draft.sentence := by
  obtain ⟨control, tagged, attributes⟩ := writable.encodable
  -- The control word comes first, then the tag, and then the attributes one after another.
  have first : Sentence.absorb ⟨"", "", .empty⟩ (bytesOf draft.word) =
      .ok ⟨draft.word, "", .empty⟩ := absorb_control control
  have second : Sentence.absorb ⟨draft.word, "", .empty⟩ (bytesOf (".tag=" ++ draft.tag)) =
      .ok ⟨draft.word, draft.tag, .empty⟩ := absorb_tag writable.named tagged
  have others : ((draft.attributes.map attributeWord).map bytesOf).foldlM Sentence.absorb
      ⟨draft.word, draft.tag, .empty⟩ = .ok ⟨draft.word, draft.tag,
        draft.attributes.foldl (fun map pair => map.put pair.1 pair.2) .empty⟩ :=
    absorb_attributes writable.named writable.splittable attributes
  have entries : draft.attributes.foldl (fun map pair => map.put pair.1 pair.2) .empty =
      draft.sentence.attributes := by
    have listed := OrderedMap.entries_ofList draft.attributes
    exact congrArg OrderedMap.mk listed
  simp only [words, List.map_cons, List.foldlM_cons, first, Sentence.blank, second, Bind.bind,
    Except.bind]
  rw [others, entries]
  rfl

/-- What is written of a draft is read back as its sentence, and takes just the bytes written. -/
theorem IsWritable.takes {draft : Draft} (writable : draft.IsWritable) :
    ∃ encoding, encodeSentence draft.words = .ok encoding ∧
      Takes readSentence encoding draft.sentence := by
  -- The words are taken one by one, and the empty one ends the sentence.
  obtain ⟨codes, coded, taken⟩ :=
    takes_foldWords writable.writable writable.bytesOf_ne_nil writable.absorbed
  refine ⟨codes.flatten ++ [0], ?_, taken⟩
  simp [encodeSentence, coded, Bind.bind, Except.bind, Pure.pure, Except.pure]

end Draft

private theorem takes_mapM {items : List Draft} {encodings : List (List UInt8)}
    (each : List.Forall₂ (fun draft encoding => Takes readSentence encoding draft.sentence)
      items encodings) :
    Takes (items.mapM fun _ => readSentence) encodings.flatten (items.map Draft.sentence) := by
  -- Readers in turn take what they take one after the other.
  induction each with
  | nil => exact .pure []
  | @cons draft encoding drafts encodings head _ ih =>
    rw [List.mapM_cons, List.flatten_cons]
    -- The bytes of the first sentence are followed by those of the others.
    refine head.bind ?_
    rw [← List.append_nil encodings.flatten]
    exact ih.bind (.pure _)

/--
Written sentences are read back one for one, each from exactly its own bytes.

So a sentence leaves what stands behind it, and every cut within it is met as the end of the stream.
-/
theorem sentences_read_back (drafts : List Draft) (writable : ∀ draft ∈ drafts, draft.IsWritable) :
    ∃ encodings, drafts.mapM (fun draft => encodeSentence draft.words) = .ok encodings ∧
      List.Forall₂ (fun draft encoding => Takes readSentence encoding draft.sentence)
        drafts encodings ∧
      ∀ rest ending, drafts.mapM (fun _ => readSentence) ⟨encodings.flatten ++ rest, ending⟩ =
        .ok (drafts.map Draft.sentence) ⟨rest, ending⟩ := by
  -- The induction is on the drafts: each one is written and taken by itself.
  have each : ∃ encodings, drafts.mapM (fun draft => encodeSentence draft.words) = .ok encodings ∧
      List.Forall₂ (fun draft encoding => Takes readSentence encoding draft.sentence)
        drafts encodings := by
    induction drafts with
    | nil => exact ⟨[], rfl, .nil⟩
    | cons draft drafts ih =>
      obtain ⟨encoding, written, taken⟩ := (writable draft List.mem_cons_self).takes
      obtain ⟨encodings, others, tail⟩ :=
        ih fun other member => writable other (List.mem_cons_of_mem draft member)
      refine ⟨encoding :: encodings, ?_, .cons taken tail⟩
      simp [List.mapM_cons, written, others, Bind.bind, Except.bind, Pure.pure, Except.pure]
  obtain ⟨encodings, written, taken⟩ := each
  exact ⟨encodings, written, taken, (takes_mapM taken).whole⟩

/-- A row with a repeated name and the sentence that completes the reply to it. -/
def answeredDrafts : List Draft :=
  [⟨"!re", "", [("name", "a"), ("comment", "x=y"), ("name", "b")]⟩, ⟨"!done", "7", []⟩]

/-- The two sentences are read back, the repeated name in its first place with its last value. -/
theorem answered_reads_back :
    ∃ encodings, answeredDrafts.mapM (fun draft => encodeSentence draft.words) = .ok encodings ∧
      ∀ rest ending,
        answeredDrafts.mapM (fun _ => readSentence) ⟨encodings.flatten ++ rest, ending⟩ =
          .ok [⟨"!re", "", ⟨[("name", "b"), ("comment", "x=y")]⟩⟩, ⟨"!done", "7", .empty⟩]
            ⟨rest, ending⟩ := by
  -- The theorem only asks for words that can be written.
  have writable : ∀ draft ∈ answeredDrafts, draft.IsWritable := by
    intro draft member
    simp only [answeredDrafts, List.mem_cons, List.not_mem_nil, or_false] at member
    rcases member with rfl | rfl <;>
      exact ⟨by decide, by decide, by unfold Writable; decide⟩
  obtain ⟨encodings, written, _, read⟩ := sentences_read_back answeredDrafts writable
  exact ⟨encodings, written, read⟩

end RouterMetrics.Wire
