import RouterMetrics.Proofs.Wire.Sent

/-!
What is received, told by its bytes: the words of a sentence as they came, before they are texts.

Main statement: the value of an attribute is the text of the bytes that came behind its name.
-/

namespace RouterMetrics.Wire

open RouterMetrics.Text.CodePage

/-- The words of the next sentence as they come. -/
def readWords : Reader (List (List UInt8)) := foldWords (fun words word => .ok (words ++ [word])) []

/-- A fold over words is one over the words as they come, none of which is empty. -/
theorem foldWords_kept {σ : Type} {step : σ → List UInt8 → Except Fault σ} {state result : σ}
    {inbox rest : Inbox} (read : foldWords step state inbox = .ok result rest)
    (kept : List (List UInt8)) :
    ∃ words, foldWords (fun words word => .ok (words ++ [word])) kept inbox =
        .ok (kept ++ words) rest ∧
      words.foldlM step state = .ok result ∧ ∀ word ∈ words, word ≠ [] := by
  -- Both folds read the same words, one after another.
  fun_induction foldWords step state inbox generalizing kept with
  | case1 => cases read
  | case2 state inbox rest' empty =>
    cases read
    refine ⟨[], ?_, rfl, by simp⟩
    rw [foldWords_eq]
    simp [Bind.bind, EStateM.bind, empty, Pure.pure, EStateM.pure]
  | case3 => cases read
  | case4 state inbox byte bytes rest' word next accepted ih =>
    obtain ⟨words, others, folded, nonempty⟩ := ih read (kept ++ [byte :: bytes])
    refine ⟨(byte :: bytes) :: words, ?_, ?_, ?_⟩
    · rw [foldWords_eq]
      simp [Bind.bind, EStateM.bind, word, others]
    · simp [Bind.bind, Except.bind, accepted, folded]
    · exact List.forall_mem_cons.mpr ⟨List.cons_ne_nil byte bytes, nonempty⟩

/-- The bytes of written words are read back as they were, with nothing behind them. -/
theorem readWords_encodeSentence {words : List String} {bytes : List UInt8}
    (written : encodeSentence words = .ok bytes) (nonempty : ∀ word ∈ words, word ≠ "") :
    readWords (.ofBytes bytes) = .ok (words.map bytesOf) (.ofBytes []) := by
  obtain ⟨codes, coded, rfl, writable⟩ := encodeSentence_ok written
  -- Keeping every word accepts them all.
  have kept : ∀ (words : List (List UInt8)) kept,
      words.foldlM (fun words word => (.ok (words ++ [word]) : Except Fault _)) kept =
        .ok (kept ++ words) := by
    intro words
    induction words with
    | nil => simp [Pure.pure, Except.pure]
    | cons word words ih => simp [Bind.bind, Except.bind, ih]
  obtain ⟨codes', coded', taken⟩ := takes_foldWords writable
    (fun word member => bytesOf_ne_nil (writable word member) (nonempty word member))
    (kept (words.map bytesOf) [])
  rw [coded] at coded'
  cases coded'
  have read := taken.whole [] none
  rw [List.append_nil, List.nil_append] at read
  exact read

/-- What a word gives to an attribute, as it came, if it is a word about this attribute. -/
def valueIn? (name : String) : List UInt8 → Option (List UInt8)
  | [] => none
  | byte :: bytes =>
      let named := bytes.takeWhile (· != equalsByte)
      if byte = equalsByte ∧ decode named = name then some (bytes.drop (named.length + 1)) else none

/-- What the words of a sentence give to an attribute, as it came: the last word about it counts. -/
def valueOf? (name : String) (words : List (List UInt8)) : Option (List UInt8) :=
  (words.tail.filterMap (valueIn? name)).getLast?

/-- A sentence with the words in which it came. -/
structure Received where
  sentence : Sentence
  words : List (List UInt8)

/-- The sentence is that of the words. -/
structure Received.IsRead (received : Received) : Prop where
  absorbed : received.words.foldlM Sentence.absorb .blank = .ok received.sentence
  nonempty : ∀ word ∈ received.words, word ≠ []

private theorem get?_absorbed {sentence next : Sentence} {word : List UInt8}
    (named : sentence.word ≠ "") (absorbed : sentence.absorb word = .ok next) (name : String) :
    next.word = sentence.word ∧
      next.get? name = ((valueIn? name word).map decode).or (sentence.get? name) := by
  -- Behind the control word stand tags, which leave the attributes alone, and attributes.
  unfold Sentence.absorb at absorbed
  rw [if_neg (by simpa using named)] at absorbed
  split at absorbed
  · rename_i isTag
    cases absorbed
    obtain ⟨behind, rfl⟩ := List.isPrefixOf_iff_prefix.mp isTag
    exact ⟨rfl, by simp [valueIn?, tagMark, equalsByte, Sentence.get?]⟩
  · split at absorbed
    · rename_i isAttribute
      cases absorbed
      obtain ⟨behind, rfl⟩ := List.head?_eq_some_iff.mp (beq_iff_eq.mp isAttribute)
      refine ⟨rfl, ?_⟩
      simp only [List.drop_succ_cons, List.drop_zero, Sentence.get?, valueIn?, true_and]
      by_cases about : decode (behind.takeWhile (· != equalsByte)) = name
      · rw [if_pos about, about, OrderedMap.get?_put_self]
        rfl
      · rw [if_neg about, OrderedMap.get?_put_of_ne _ _ (Ne.symm about)]
        rfl
    · cases absorbed

private theorem get?_folded {sentence result : Sentence} {words : List (List UInt8)}
    (named : sentence.word ≠ "") (folded : words.foldlM Sentence.absorb sentence = .ok result)
    (name : String) :
    result.get? name =
      ((words.filterMap (valueIn? name)).getLast?.map decode).or (sentence.get? name) := by
  -- The induction is on the words behind the control word; a later one overrides an earlier one.
  induction words generalizing sentence with
  | nil =>
    cases folded
    rfl
  | cons word words ih =>
    rw [List.foldlM_cons] at folded
    cases absorbed : sentence.absorb word with
    | error fault => simp [absorbed, Bind.bind, Except.bind] at folded
    | ok next =>
      simp only [absorbed, Bind.bind, Except.bind] at folded
      obtain ⟨control, value⟩ := get?_absorbed named absorbed name
      rw [ih (control ▸ named) folded, value]
      cases found : valueIn? name word with
      | none => simp [found]
      | some bytes =>
        rw [List.filterMap_cons_some found, List.getLast?_cons]
        cases (words.filterMap (valueIn? name)).getLast? <;> simp

/-- The value of an attribute is the text of the bytes that came for it. -/
theorem Received.IsRead.get?_eq {received : Received} (read : received.IsRead) (name : String) :
    received.sentence.get? name = (valueOf? name received.words).map decode := by
  obtain ⟨sentence, words⟩ := received
  obtain ⟨absorbed, nonempty⟩ := read
  dsimp only at absorbed nonempty ⊢
  unfold valueOf?
  cases words with
  | nil =>
    cases absorbed
    rfl
  | cons first others =>
    -- The first word is the control word, and it has a character for each byte.
    have control : decode first ≠ "" := by
      intro empty
      have size := length_decode first
      rw [empty] at size
      exact nonempty first List.mem_cons_self (List.length_eq_zero_iff.mp size.symm)
    have started : Sentence.blank.absorb first = .ok { Sentence.blank with word := decode first } :=
      rfl
    rw [List.foldlM_cons, started] at absorbed
    simp only [Bind.bind, Except.bind] at absorbed
    rw [get?_folded control absorbed, List.tail_cons]
    exact Option.or_none

end RouterMetrics.Wire
