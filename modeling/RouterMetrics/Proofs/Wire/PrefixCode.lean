import RouterMetrics.Proofs.Wire.Length

/-!
The code of lengths as a whole: its shortest forms, and what every stream is read as.

Main statement: each length below the limit has a code that no other one begins with and than which no
form is shorter, and what is read of any stream is told by the leading ones of its first byte.
-/

namespace RouterMetrics.Wire

/-- How many ones a byte starts with, from its highest bit on. -/
def leadingOnes (byte : UInt8) : Nat :=
  ((List.range 8).takeWhile fun place => byte.toNat.testBit (7 - place)).length

/-- How many bytes a stream announces for the length it starts with; it always has a first one. -/
def announcedSize : List UInt8 → Nat
  | [] => 1
  | first :: _ => leadingOnes first + 1

/-- A first byte with too many leading ones announces nothing. -/
def AnnouncesNothing (bytes : List UInt8) : Prop := ∃ first ∈ bytes.head?, 0xF8 ≤ first.toNat

/-- How many bits of a length stand beside the mark in a form of so many bytes. -/
def capacity (size : Nat) : Nat := min (7 * size) 32

/-! First bytes. -/

/-- The forms are those with up to four leading ones, which are the bytes below the limit. -/
theorem leadingOnes_le_four_iff (first : UInt8) : leadingOnes first ≤ 4 ↔ first.toNat < 0xF8 := by
  -- Each of the bytes is looked at.
  have all : ∀ byte : Fin 256,
      leadingOnes (UInt8.ofNat byte) ≤ 4 ↔ (UInt8.ofNat byte).toNat < 0xF8 := by decide +kernel
  simpa using all ⟨first.toNat, first.toNat_lt⟩

/-- A first byte announces as many bytes as it has leading ones, and holds the bits behind them. -/
theorem announcedLength?_eq (first : UInt8) :
    announcedLength? first =
      if leadingOnes first ≤ 4 then
        some (first.toNat % 2 ^ (capacity (leadingOnes first + 1) - 8 * leadingOnes first),
          leadingOnes first)
      else none := by
  -- Each of the bytes is looked at.
  have all : ∀ byte : Fin 256, announcedLength? (UInt8.ofNat byte) =
      if leadingOnes (UInt8.ofNat byte) ≤ 4 then
        some ((UInt8.ofNat byte).toNat % 2 ^ (capacity (leadingOnes (UInt8.ofNat byte) + 1) -
          8 * leadingOnes (UInt8.ofNat byte)), leadingOnes (UInt8.ofNat byte))
      else none := by decide +kernel
  simpa using all ⟨first.toNat, first.toNat_lt⟩

/-! Numbers under a mark. -/

/-- Bytes stand for a number within their range. -/
theorem ofBigEndian_lt (bytes : List UInt8) : ofBigEndian bytes < 256 ^ bytes.length := by
  -- The induction is on the bytes from the last one, which is below the range of one byte.
  induction bytes using List.reverseRecOn with
  | nil => simp [ofBigEndian]
  | append_singleton bytes byte ih =>
    have below := byte.toNat_lt
    simp only [ofBigEndian, List.foldl_append, List.foldl_cons, List.foldl_nil, List.length_append,
      List.length_singleton, Nat.pow_succ] at ih ⊢
    omega

/-- The first of some bytes stands for its multiple of the range of the others. -/
theorem ofBigEndian_cons (first : UInt8) (others : List UInt8) :
    ofBigEndian (first :: others) = first.toNat * 256 ^ others.length + ofBigEndian others := by
  -- The induction is on the bytes from the last one, which both sides add alike.
  induction others using List.reverseRecOn with
  | nil => simp [ofBigEndian]
  | append_singleton others byte ih =>
    simp only [ofBigEndian, List.foldl_cons, List.foldl_append, List.foldl_nil, List.length_append,
      List.length_singleton, Nat.pow_succ] at ih ⊢
    rw [ih, Nat.add_mul, Nat.mul_assoc]
    omega

/-- Without its mark a number keeps the bits of its first byte behind the mark, and the other bytes. -/
theorem ofBigEndian_mod (first : UInt8) (others : List UInt8) (bits : Nat) :
    ofBigEndian (first :: others) % 2 ^ (8 * others.length + bits) =
      first.toNat % 2 ^ bits * 256 ^ others.length + ofBigEndian others := by
  have range : 2 ^ (8 * others.length) = 256 ^ others.length := Nat.pow_mul 2 8 _
  have positive : 0 < 256 ^ others.length := Nat.pow_pos (by decide)
  have below := ofBigEndian_lt others
  -- The other bytes are the remainder of their range, and the first one is the quotient.
  have remainder : (first.toNat * 256 ^ others.length + ofBigEndian others) % 256 ^ others.length =
      ofBigEndian others := by
    rw [Nat.mul_add_mod', Nat.mod_eq_of_lt below]
  have quotient : (first.toNat * 256 ^ others.length + ofBigEndian others) / 256 ^ others.length =
      first.toNat := by
    rw [Nat.add_comm, Nat.add_mul_div_right _ _ positive, Nat.div_eq_of_lt below, Nat.zero_add]
  rw [ofBigEndian_cons, Nat.pow_add, range, Nat.mod_mul, remainder, quotient]
  ring

/-! Codes. -/

/-- A code of several bytes is only made for a length that has no room in fewer. -/
theorem le_of_encodeLength? {n : Nat} {code : List UInt8} (encoded : encodeLength? n = some code)
    (several : 1 < code.length) : 2 ^ (7 * (code.length - 1)) ≤ n := by
  unfold encodeLength? at encoded
  -- Each form is tried where the next shorter one has been found too small.
  iterate 5
    split at encoded
    · cases encoded
      simp only [length_bigEndian, List.length_cons] at several ⊢
      omega
  cases encoded

/-- A code has no more bytes than any form with room for its length. -/
theorem length_le_of_capacity {n size : Nat} {code : List UInt8}
    (encoded : encodeLength? n = some code) (positive : 0 < size) (room : n < 2 ^ capacity size) :
    code.length ≤ size := by
  by_contra longer
  -- A longer code would be for lengths that do not fit into this form.
  have shortfall : capacity size ≤ 7 * (code.length - 1) := by
    unfold capacity
    omega
  have above := le_of_encodeLength? encoded (by omega)
  have bound := Nat.pow_le_pow_right (show 0 < 2 by decide) shortfall
  omega

/-! Streams. -/

section Streams

variable {bytes : List UInt8} {ending : Option NetworkFault}

/-- A first byte that announces nothing is refused, and nothing but this byte is taken. -/
theorem readLength_of_announcesNothing {first : UInt8} (others : List UInt8)
    (ending : Option NetworkFault) (nothing : 0xF8 ≤ first.toNat) :
    readLength ⟨first :: others, ending⟩ = .error (.badLength first) ⟨others, ending⟩ := by
  -- The first byte has been taken when its form is looked at.
  have none : announcedLength? first = none := by
    rw [announcedLength?_eq, if_neg (by rw [leadingOnes_le_four_iff]; omega)]
  change readAnnounced first ⟨others, ending⟩ = _
  simp only [readAnnounced, none]
  rfl

/-- Where all announced bytes are there, the length is the number in them without its mark. -/
theorem readLength_of_whole (something : ¬ AnnouncesNothing bytes)
    (whole : announcedSize bytes ≤ bytes.length) :
    readLength ⟨bytes, ending⟩ =
      .ok (ofBigEndian (bytes.take (announcedSize bytes)) % 2 ^ capacity (announcedSize bytes))
        ⟨bytes.drop (announcedSize bytes), ending⟩ := by
  cases bytes with
  | nil => simp [announcedSize] at whole
  | cons first others =>
    have form : leadingOnes first ≤ 4 := by
      rw [leadingOnes_le_four_iff]
      simpa [AnnouncesNothing] using something
    have enough : leadingOnes first ≤ others.length := by simpa [announcedSize] using whole
    have taken : (others.take (leadingOnes first)).length = leadingOnes first :=
      List.length_take_of_le enough
    -- The bits of the form are those of the first byte and eight for each of the others.
    have bits : 8 * leadingOnes first +
        (capacity (leadingOnes first + 1) - 8 * leadingOnes first) =
          capacity (leadingOnes first + 1) := by
      unfold capacity
      omega
    have value := ofBigEndian_mod first (others.take (leadingOnes first))
      (capacity (leadingOnes first + 1) - 8 * leadingOnes first)
    rw [taken, bits] at value
    change readAnnounced first ⟨others, ending⟩ = _
    rw [readAnnounced, announcedLength?_eq, if_pos form]
    simp only [announcedSize, List.take_succ_cons, List.drop_succ_cons, value, Bind.bind, EStateM.bind,
      readBytes, if_pos enough, Pure.pure, EStateM.pure, Nat.pow_eq]

/-- Where an announced byte is missing, what stands after the stream is met. -/
theorem readLength_of_short (something : ¬ AnnouncesNothing bytes)
    (short : bytes.length < announcedSize bytes) :
    (ending = none ∧ ∃ wanted got,
        readLength ⟨bytes, ending⟩ = .error (.endOfStream wanted got) (.ofBytes [])) ∨
      ∃ fault rest, ending = some fault ∧
        readLength ⟨bytes, ending⟩ = .error (.network fault) rest := by
  cases bytes with
  -- Without a first byte the stream ends or fails at once.
  | nil =>
    cases ending with
    | none => exact .inl ⟨rfl, 1, 0, rfl⟩
    | some fault => exact .inr ⟨fault, _, rfl, rfl⟩
  | cons first others =>
    have form : leadingOnes first ≤ 4 := by
      rw [leadingOnes_le_four_iff]
      simpa [AnnouncesNothing] using something
    -- The first byte is there, but not all that it announces.
    have missing : ¬ leadingOnes first ≤ others.length := by simpa [announcedSize] using short
    have read : readLength ⟨first :: others, ending⟩ = readAnnounced first ⟨others, ending⟩ := rfl
    rw [read, readAnnounced, announcedLength?_eq, if_pos form]
    cases ending with
    | none =>
      exact .inl ⟨rfl, leadingOnes first, others.length, by
        simp [Bind.bind, EStateM.bind, readBytes, missing, Inbox.ofBytes]⟩
    | some fault =>
      exact .inr ⟨fault, ⟨others, some fault⟩, rfl, by
        simp [Bind.bind, EStateM.bind, readBytes, missing]⟩

/-- What announces something announces from one to five bytes. -/
theorem announcedSize_mem_Icc (something : ¬ AnnouncesNothing bytes) :
    announcedSize bytes ∈ Set.Icc 1 5 := by
  -- The first byte is announced by itself, with four others at most.
  cases bytes with
  | nil => simp [announcedSize]
  | cons first others =>
    have form : leadingOnes first ≤ 4 := by
      rw [leadingOnes_le_four_iff]
      simpa [AnnouncesNothing] using something
    simpa [announcedSize] using Nat.lt_succ_of_le form

/-- A stream has no form for its length, or has all bytes of the form, or ends or fails before. -/
theorem readLength_cases (bytes : List UInt8) (ending : Option NetworkFault) :
    (∃ first others, bytes = first :: others ∧ 0xF8 ≤ first.toNat ∧ AnnouncesNothing bytes ∧
        readLength ⟨bytes, ending⟩ = .error (.badLength first) ⟨others, ending⟩) ∨
      (¬ AnnouncesNothing bytes ∧ announcedSize bytes ≤ bytes.length ∧
        readLength ⟨bytes, ending⟩ =
          .ok (ofBigEndian (bytes.take (announcedSize bytes)) % 2 ^ capacity (announcedSize bytes))
            ⟨bytes.drop (announcedSize bytes), ending⟩) ∨
      (¬ AnnouncesNothing bytes ∧ bytes.length < announcedSize bytes ∧ ending = none ∧
        ∃ wanted got, readLength ⟨bytes, ending⟩ = .error (.endOfStream wanted got) (.ofBytes [])) ∨
      (¬ AnnouncesNothing bytes ∧ bytes.length < announcedSize bytes ∧
        ∃ fault rest, ending = some fault ∧
          readLength ⟨bytes, ending⟩ = .error (.network fault) rest) := by
  -- The first byte decides on the form, and the number of bytes on the rest.
  by_cases nothing : AnnouncesNothing bytes
  · obtain ⟨first, head, high⟩ := id nothing
    obtain ⟨others, rfl⟩ := List.head?_eq_some_iff.mp head
    exact .inl ⟨first, others, rfl, high, nothing, readLength_of_announcesNothing others ending high⟩
  · refine .inr ?_
    rcases Nat.lt_or_ge bytes.length (announcedSize bytes) with short | whole
    · refine .inr ?_
      rcases readLength_of_short nothing short with ⟨last, ended⟩ | failed
      · exact .inl ⟨nothing, short, last, ended⟩
      · exact .inr ⟨nothing, short, failed⟩
    · exact .inl ⟨nothing, whole, readLength_of_whole nothing whole⟩

/-- A length is read exactly if all bytes are there that the stream announces. -/
theorem readLength_eq_ok_iff {n : Nat} {rest : Inbox} :
    readLength ⟨bytes, ending⟩ = .ok n rest ↔
      ¬ AnnouncesNothing bytes ∧ announcedSize bytes ≤ bytes.length ∧
        n = ofBigEndian (bytes.take (announcedSize bytes)) % 2 ^ capacity (announcedSize bytes) ∧
        rest = ⟨bytes.drop (announcedSize bytes), ending⟩ := by
  constructor
  · intro read
    -- In the other cases there is a fault.
    rcases readLength_cases bytes ending with ⟨_, _, -, -, -, refused⟩ | ⟨something, whole, same⟩ |
        ⟨-, -, -, _, _, ended⟩ | ⟨-, -, _, _, -, failed⟩
    · cases refused.symm.trans read
    · cases same.symm.trans read
      exact ⟨something, whole, rfl, rfl⟩
    · cases ended.symm.trans read
    · cases failed.symm.trans read
  · rintro ⟨something, whole, rfl, rfl⟩
    exact readLength_of_whole something whole

/-- A length is refused exactly for a first byte that announces nothing, and this byte is taken. -/
theorem readLength_eq_badLength_iff {first : UInt8} {rest : Inbox} :
    readLength ⟨bytes, ending⟩ = .error (.badLength first) rest ↔
      0xF8 ≤ first.toNat ∧ bytes = first :: rest.unread ∧ rest.ending = ending := by
  constructor
  · intro refused
    -- In the other cases there is a number or another fault.
    rcases readLength_cases bytes ending with ⟨_, _, there, high, -, same⟩ | ⟨-, -, read⟩ |
        ⟨-, -, -, _, _, ended⟩ | ⟨-, -, _, _, -, failed⟩
    · cases same.symm.trans refused
      exact ⟨high, there, rfl⟩
    · cases read.symm.trans refused
    · cases ended.symm.trans refused
    · cases failed.symm.trans refused
  · rintro ⟨high, rfl, rfl⟩
    exact readLength_of_announcesNothing rest.unread rest.ending high

/-- The stream ends within a length exactly if it has fewer bytes than it announces. -/
theorem readLength_endOfStream_iff :
    (∃ wanted got rest, readLength ⟨bytes, ending⟩ = .error (.endOfStream wanted got) rest) ↔
      ending = none ∧ ¬ AnnouncesNothing bytes ∧ bytes.length < announcedSize bytes := by
  -- One of the four cases is that the stream ends.
  rcases readLength_cases bytes ending with ⟨_, _, -, -, nothing, refused⟩ | ⟨-, whole, read⟩ |
      ⟨something, short, last, wanted, got, ended⟩ | ⟨-, -, _, _, other, failed⟩
  · exact iff_of_false (by simp [refused]) fun same => same.2.1 nothing
  · exact iff_of_false (by simp [read]) fun same => absurd same.2.2 (Nat.not_lt.mpr whole)
  · exact iff_of_true ⟨wanted, got, _, ended⟩ ⟨last, something, short⟩
  · exact iff_of_false (by simp [failed]) fun same => by cases other.symm.trans same.1

end Streams

/--
Lengths below the limit have codes that are read back, and no form is shorter and no code the beginning
of another one; and every stream is read as its first byte announces.

A length takes the announced bytes and is the number in them without the mark. It is refused exactly
for a first byte that announces nothing, and the stream ends within it exactly if it has fewer bytes.
-/
theorem length_code_exact :
    (∀ n < 2 ^ 32, ∃ code, encodeLength? n = some code ∧
      (∀ rest ending, readLength ⟨code ++ rest, ending⟩ = .ok n ⟨rest, ending⟩) ∧
      (∀ bytes rest ending, readLength ⟨bytes ++ rest, ending⟩ = .ok n ⟨rest, ending⟩ →
        code.length ≤ bytes.length) ∧
      ∀ m other, encodeLength? m = some other → other <+: code → m = n) ∧
    ∀ bytes ending,
      (∀ n rest, readLength ⟨bytes, ending⟩ = .ok n rest ↔
        ¬ AnnouncesNothing bytes ∧ announcedSize bytes ≤ bytes.length ∧
          n = ofBigEndian (bytes.take (announcedSize bytes)) % 2 ^ capacity (announcedSize bytes) ∧
          rest = ⟨bytes.drop (announcedSize bytes), ending⟩) ∧
      (∀ n rest, readLength ⟨bytes, ending⟩ = .ok n rest →
        n < 2 ^ 32 ∧ announcedSize bytes ∈ Set.Icc 1 5) ∧
      (∀ first rest, readLength ⟨bytes, ending⟩ = .error (.badLength first) rest ↔
        0xF8 ≤ first.toNat ∧ bytes = first :: rest.unread ∧ rest.ending = ending) ∧
      ((∃ wanted got rest, readLength ⟨bytes, ending⟩ = .error (.endOfStream wanted got) rest) ↔
        ending = none ∧ ¬ AnnouncesNothing bytes ∧ bytes.length < announcedSize bytes) ∧
      (ending = none → (∃ n rest, readLength ⟨bytes, ending⟩ = .ok n rest) ∨
        (∃ first rest, readLength ⟨bytes, ending⟩ = .error (.badLength first) rest) ∨
          ∃ wanted got rest, readLength ⟨bytes, ending⟩ = .error (.endOfStream wanted got) rest) := by
  refine ⟨fun n below => ?_, fun bytes ending => ?_⟩
  · obtain ⟨code, encoded⟩ := Option.isSome_iff_exists.mp (encodeLength?_isSome below)
    refine ⟨code, encoded, (takes_encodeLength? encoded).whole, ?_, ?_⟩
    · intro bytes rest ending read
      obtain ⟨something, whole, rfl, left⟩ := readLength_eq_ok_iff.mp read
      -- What is left tells how many bytes have been taken.
      have size : announcedSize (bytes ++ rest) = bytes.length := by
        have same := congrArg (fun inbox => inbox.unread.length) left
        simp only [List.length_drop, List.length_append] at same whole
        omega
      have positive := (announcedSize_mem_Icc something).1
      rw [← size]
      exact length_le_of_capacity encoded positive (Nat.mod_lt _ (Nat.two_pow_pos _))
    · rintro m other encoded' ⟨more, rfl⟩
      -- The stream is read as both lengths.
      have read := (takes_encodeLength? encoded').whole more none
      have whole := (takes_encodeLength? encoded).whole [] none
      rw [List.append_nil, read] at whole
      exact (EStateM.Result.ok.inj whole).1
  · refine ⟨fun n rest => readLength_eq_ok_iff, fun n rest read => ?_,
      fun first rest => readLength_eq_badLength_iff, readLength_endOfStream_iff, fun last => ?_⟩
    · obtain ⟨something, -, rfl, -⟩ := readLength_eq_ok_iff.mp read
      have limit : 2 ^ capacity (announcedSize bytes) ≤ 2 ^ 32 :=
        Nat.pow_le_pow_right (by decide) (Nat.min_le_right _ _)
      exact ⟨(Nat.mod_lt _ (Nat.two_pow_pos _)).trans_le limit, announcedSize_mem_Icc something⟩
    · rcases readLength_cases bytes ending with ⟨first, _, -, -, -, refused⟩ | ⟨-, -, read⟩ |
          ⟨-, -, -, wanted, got, ended⟩ | ⟨-, -, _, _, other, -⟩
      · exact .inr (.inl ⟨first, _, refused⟩)
      · exact .inl ⟨_, _, read⟩
      · exact .inr (.inr ⟨wanted, got, _, ended⟩)
      · cases other.symm.trans last

/-- The least length of the longest form, and a small length in that form with bits that do not count. -/
theorem length_code_exact_longest :
    0x10000000 < 2 ^ 32 ∧ encodeLength? 0x10000000 = some [0xF0, 0x10, 0, 0, 0] ∧
      (∀ bytes rest ending, readLength ⟨bytes ++ rest, ending⟩ = .ok 0x10000000 ⟨rest, ending⟩ →
        5 ≤ bytes.length) ∧
      readLength (.ofBytes [0xF3, 0, 0, 0, 5, 9]) = .ok 5 (.ofBytes [9]) := by
  have below : 0x10000000 < 2 ^ 32 := by decide
  have code : encodeLength? 0x10000000 = some [0xF0, 0x10, 0, 0, 0] := by decide
  obtain ⟨_, encoded, -, shortest, -⟩ := length_code_exact.1 _ below
  cases code.symm.trans encoded
  -- The theorem also tells what a longer form of a small length is read as.
  refine ⟨below, code, shortest, ?_⟩
  refine ((length_code_exact.2 [0xF3, 0, 0, 0, 5, 9] none).1 5 (.ofBytes [9])).mpr ?_
  exact ⟨by simp [AnnouncesNothing], by decide, by decide, by decide⟩

end RouterMetrics.Wire
