import Mathlib
import RouterMetrics.Text.CodePage

/-! Texts written in the code page read back as they were. -/

namespace RouterMetrics.Text.CodePage

/-- Every character of a text has a byte. -/
def Encodable (text : String) : Prop := ∀ c ∈ text.toList, (byteOfChar? c).isSome

instance (text : String) : Decidable (Encodable text) :=
  decidable_of_iff (text.toList.all fun c => (byteOfChar? c).isSome) List.all_eq_true

private theorem upperHalf_length : upperHalf.length = 128 := by decide +kernel

/-- The byte of a character stands for that character. -/
theorem charOfByte?_byteOfChar? {c : Char} {byte : UInt8} (found : byteOfChar? c = some byte) :
    charOfByte? byte = some c := by
  unfold byteOfChar? at found
  split at found
  · -- The lower half of the page is that of plain text.
    rename_i plain
    simp only [Option.some.injEq] at found
    subst found
    have value : (UInt8.ofNat c.toNat).toNat = c.toNat := by
      rw [UInt8.toNat_ofNat']
      omega
    simp [charOfByte?, value, plain]
  · -- In the upper half the place in the table is the distance from its first byte.
    rename_i high
    obtain ⟨place, located, rfl⟩ := Option.map_eq_some_iff.mp found
    obtain ⟨inside, named, -⟩ := List.findIdx?_eq_some_iff_getElem.mp located
    have named : upperHalf[place] = c.toNat := by simpa using named
    have bound : place < 128 := upperHalf_length ▸ inside
    have value : (UInt8.ofNat (0x80 + place)).toNat = 0x80 + place := by
      rw [UInt8.toNat_ofNat']
      omega
    have entry : upperHalf[(UInt8.ofNat (0x80 + place)).toNat - 0x80]? = some c.toNat := by
      rw [value, Nat.add_sub_cancel_left, List.getElem?_eq_getElem inside, named]
    unfold charOfByte?
    rw [if_neg (by omega), entry]
    -- A zero in the table stands for no character, and a character so low has its byte elsewhere.
    have positive : c.toNat ≠ 0 := by omega
    split
    · simp_all
    · simp_all
    · rename_i code _ same
      simp only [Option.some.injEq] at same
      rw [← same, Char.ofNat_toNat]

private theorem firstUnencodable?_eq_none {start : Nat} {text : List Char}
    (encodable : ∀ c ∈ text, (byteOfChar? c).isSome) : firstUnencodable? start text = none := by
  -- The search passes over every character that has a byte.
  induction text generalizing start with
  | nil => rfl
  | cons c text ih =>
    rw [firstUnencodable?, if_pos (encodable c List.mem_cons_self)]
    exact ih fun d member => encodable d (List.mem_cons_of_mem c member)

private theorem isSome_of_firstUnencodable? {start : Nat} {text : List Char}
    (none : firstUnencodable? start text = none) : ∀ c ∈ text, (byteOfChar? c).isSome := by
  -- The search ends with nothing only where every character has let it pass.
  induction text generalizing start with
  | nil => exact fun c member => absurd member List.not_mem_nil
  | cons c text ih =>
    rw [firstUnencodable?] at none
    split at none
    · rename_i coded
      exact List.forall_mem_cons.mpr ⟨coded, ih none⟩
    · cases none

/-- Only encodable texts are encoded. -/
theorem encodable_of_encode {text : String} {bytes : List UInt8}
    (encoded : encode text = .ok bytes) : Encodable text := by
  -- A character without a byte would have been found.
  unfold encode at encoded
  split at encoded
  · cases encoded
  · rename_i none
    exact isSome_of_firstUnencodable? none

/-- The bytes of an encodable text are those of its characters. -/
theorem encode_eq_ok {text : String} (encodable : Encodable text) :
    encode text = .ok (text.toList.filterMap byteOfChar?) := by
  -- No character without a byte is found.
  rw [encode, firstUnencodable?_eq_none encodable]

/-- An encodable text has one byte for each of its characters. -/
theorem length_filterMap_byteOfChar? {text : List Char}
    (encodable : ∀ c ∈ text, (byteOfChar? c).isSome) :
    (text.filterMap byteOfChar?).length = text.length := by
  -- The induction is on the characters, each of which has its byte.
  induction text with
  | nil => rfl
  | cons c text ih =>
    obtain ⟨byte, found⟩ := Option.isSome_iff_exists.mp (encodable c List.mem_cons_self)
    simp [found, ih fun d member => encodable d (List.mem_cons_of_mem c member)]

private theorem map_charOfByte?_filterMap {text : List Char}
    (encodable : ∀ c ∈ text, (byteOfChar? c).isSome) :
    (text.filterMap byteOfChar?).map (fun byte => (charOfByte? byte).getD replacement) = text := by
  -- Bytes of characters read back as these characters.
  induction text with
  | nil => rfl
  | cons c text ih =>
    -- No character is left out, and none is read back as the replacement.
    obtain ⟨byte, found⟩ := Option.isSome_iff_exists.mp (encodable c List.mem_cons_self)
    simp [found, charOfByte?_byteOfChar? found,
      ih fun d member => encodable d (List.mem_cons_of_mem c member)]

/-- A text that was encoded decodes to itself. -/
theorem decode_encoded {text : String} (encodable : Encodable text) :
    decode (text.toList.filterMap byteOfChar?) = text := by
  -- Each byte is read as the character that it was written for.
  rw [decode, map_charOfByte?_filterMap encodable, String.ofList_toList]

/-- The character of a byte stands for that byte. -/
theorem byteOfChar?_charOfByte? {byte : UInt8} {c : Char} (found : charOfByte? byte = some c) :
    byteOfChar? c = some byte := by
  -- The page is small enough to look at every byte.
  have table : ∀ n < 256, ((charOfByte? (UInt8.ofNat n)).all
      fun c => byteOfChar? c == some (UInt8.ofNat n)) = true := by decide +kernel
  have entry := table byte.toNat byte.toNat_lt
  rw [UInt8.ofNat_toNat, found] at entry
  exact beq_iff_eq.mp entry

/-- A text has one character for each byte from which it was read. -/
theorem length_decode (bytes : List UInt8) : (decode bytes).length = bytes.length := by
  rw [decode, String.length_ofList, List.length_map]

/-- The texts read from joined bytes are joined. -/
theorem decode_append (bytes more : List UInt8) :
    decode (bytes ++ more) = decode bytes ++ decode more := by
  -- Bytes are read one by one.
  rw [decode, List.map_append, String.ofList_append, decode, decode]

/-- The text of joined bytes is that of the pieces, joined by the text of what is between them. -/
theorem decode_intercalate (separator : List UInt8) (pieces : List (List UInt8)) :
    decode (separator.intercalate pieces) = (decode separator).intercalate (pieces.map decode) := by
  -- The induction is on the pieces, with something between any two of them.
  induction pieces with
  | nil => rfl
  | cons piece pieces ih =>
    cases pieces with
    | nil => simp
    | cons next later =>
      rw [List.intercalate_cons_cons, decode_append, decode_append, ih]
      exact String.intercalate_cons_cons.symm

/-- Every character of joined texts has a byte exactly if those of both texts have one. -/
theorem encodable_append_iff {text more : String} :
    Encodable (text ++ more) ↔ Encodable text ∧ Encodable more := by
  -- The characters of joined texts are those of both.
  unfold Encodable
  rw [String.toList_append, List.forall_mem_append]

/-- A text that was read can be written again exactly if each of its bytes has a character. -/
theorem encodable_decode_iff (bytes : List UInt8) :
    Encodable (decode bytes) ↔ ∀ byte ∈ bytes, (charOfByte? byte).isSome := by
  unfold Encodable
  rw [decode, String.toList_ofList]
  simp only [List.forall_mem_map]
  refine forall₂_congr fun byte _ => ?_
  cases found : charOfByte? byte with
  | some c => simp [byteOfChar?_charOfByte? found]
  -- The replacement has no byte of its own.
  | none => exact iff_of_false (by decide +kernel) (by simp)

/-- A text that was read from bytes with characters is written as these bytes. -/
theorem filterMap_byteOfChar?_decode {bytes : List UInt8}
    (known : ∀ byte ∈ bytes, (charOfByte? byte).isSome) :
    (decode bytes).toList.filterMap byteOfChar? = bytes := by
  rw [decode, String.toList_ofList, List.filterMap_map]
  -- Each byte gives a character, and this character gives the byte.
  refine (List.filterMap_congr fun byte member => ?_).trans List.filterMap_some
  obtain ⟨c, found⟩ := Option.isSome_iff_exists.mp (known byte member)
  simp [found, byteOfChar?_charOfByte? found]

end RouterMetrics.Text.CodePage
