import Mathlib
import RouterMetrics.Wire.Sentence

/-! Framing: readers that know where what they read ends. -/

namespace RouterMetrics.Wire

/--
A reader that takes exactly some bytes for a result.

It leaves what stands behind them, and where they are cut off it meets the end of the stream.
-/
structure Takes {α : Type} (reader : Reader α) (bytes : List UInt8) (result : α) : Prop where
  whole : ∀ rest ending, reader ⟨bytes ++ rest, ending⟩ = .ok result ⟨rest, ending⟩
  cut : ∀ start, start <+: bytes → start ≠ bytes →
    ∃ wanted got, reader (.ofBytes start) = .error (.endOfStream wanted got) (.ofBytes [])

namespace Takes

variable {α β : Type}

/-- A result that is given at once takes no bytes. -/
theorem pure (result : α) : Takes (pure result : Reader α) [] result where
  whole _ _ := rfl
  -- No bytes are a cut of nothing.
  cut _ isPrefix differs := absurd (List.prefix_nil.mp isPrefix) differs

/-- Two readers in turn take the bytes of the first and then those of the second. -/
theorem bind {first : Reader α} {next : α → Reader β} {bytes more : List UInt8} {middle : α}
    {result : β} (head : Takes first bytes middle) (tail : Takes (next middle) more result) :
    Takes (first >>= next) (bytes ++ more) result where
  whole rest ending := by
    have read := head.whole (more ++ rest) ending
    have followed := tail.whole rest ending
    simp only [Bind.bind, EStateM.bind, List.append_assoc, read, followed]
  cut start isPrefix differs := by
    -- Once the first reader has all its bytes, the cut is met by the second.
    have later : ∀ within, within <+: more → within ≠ more → ∃ wanted got,
        (first >>= next) (.ofBytes (bytes ++ within)) =
          .error (.endOfStream wanted got) (.ofBytes []) := by
      intro within isPrefix shorter
      obtain ⟨wanted, got, failed⟩ := tail.cut within isPrefix shorter
      have read := head.whole within none
      refine ⟨wanted, got, ?_⟩
      simp only [Inbox.ofBytes] at failed ⊢
      simp only [Bind.bind, EStateM.bind, read, failed]
    -- The cut falls either into the bytes of the first reader or into those of the second.
    rcases List.prefix_or_prefix_of_prefix isPrefix (List.prefix_append bytes more) with
      within | ⟨within, rfl⟩
    · -- With all its bytes the first reader goes on to the second, which then has none.
      by_cases complete : start = bytes
      · subst complete
        have missing : [] ≠ more := by
          rintro rfl
          exact differs (List.append_nil start).symm
        simpa using later [] (List.nil_prefix) missing
      · obtain ⟨wanted, got, failed⟩ := head.cut start within complete
        exact ⟨wanted, got, by simp only [Bind.bind, EStateM.bind, failed]⟩
    · exact later within ((List.prefix_append_right_inj bytes).mp isPrefix)
        fun same => differs (by rw [same])

end Takes

/-- Reading a number of bytes takes just as many. -/
theorem takes_readBytes (bytes : List UInt8) : Takes (readBytes bytes.length) bytes bytes where
  whole rest ending := by simp [readBytes]
  cut start isPrefix differs := by
    -- A beginning that is not the whole has fewer bytes than are asked for.
    have shorter : start.length < bytes.length :=
      Nat.lt_of_le_of_ne isPrefix.length_le fun same => differs (isPrefix.eq_of_length same)
    exact ⟨bytes.length, start.length, by simp [readBytes, Inbox.ofBytes, Nat.not_le.mpr shorter]⟩

/-- One turn of a fold over words: the next word, and the fold over the words behind it. -/
theorem foldWords_eq {σ : Type} (step : σ → List UInt8 → Except Fault σ) (state : σ) :
    foldWords step state = (do
      match ← readWord with
      | [] => return state
      | byte :: bytes =>
          match step state (byte :: bytes) with
          | .error fault => throw fault
          | .ok next => foldWords step next : Reader σ) := by
  funext inbox
  -- Both sides read the same word; the left one looks at it inside a proof that the stream shrinks.
  rw [foldWords]
  cases read : readWord inbox with
  | error fault rest => simp [Bind.bind, EStateM.bind, read]
  | ok word rest =>
    cases word with
    | nil => simp [Bind.bind, EStateM.bind, read, Pure.pure, EStateM.pure]
    | cons byte bytes =>
      cases accepted : step state (byte :: bytes) with
      | error fault =>
        simp [Bind.bind, EStateM.bind, read, accepted, throw, throwThe, MonadExceptOf.throw,
          EStateM.throw]
      | ok next => simp [Bind.bind, EStateM.bind, read, accepted]

/-- A word that is not empty is taken up, and the fold goes on behind it. -/
theorem takes_foldWords_cons {σ : Type} {step : σ → List UInt8 → Except Fault σ}
    {state next result : σ} {word encoding more : List UInt8} (nonempty : word ≠ [])
    (head : Takes readWord encoding word) (accepted : step state word = .ok next)
    (tail : Takes (foldWords step next) more result) :
    Takes (foldWords step state) (encoding ++ more) result := by
  -- The word is taken first, and the step decides whether to go on.
  obtain ⟨byte, others, rfl⟩ := List.exists_cons_of_ne_nil nonempty
  rw [foldWords_eq]
  refine head.bind ?_
  simp only [accepted]
  exact tail

/-- The empty word ends the fold. -/
theorem takes_foldWords_nil {σ : Type} {step : σ → List UInt8 → Except Fault σ} {state : σ}
    {encoding : List UInt8} (head : Takes readWord encoding []) :
    Takes (foldWords step state) encoding state := by
  -- The empty word is taken, and nothing behind it.
  rw [foldWords_eq, ← List.append_nil encoding]
  exact head.bind (.pure state)

end RouterMetrics.Wire
