import RouterMetrics.Proofs.Wire.Framing

/-! A length reads back from its code, whatever its size. -/

namespace RouterMetrics.Wire

/-- A number is written in as many bytes as it was given. -/
@[simp] theorem length_bigEndian (count n : Nat) : (bigEndian count n).length = count := by
  -- The induction is on the number of bytes, for any number that is left.
  induction count generalizing n with
  | zero => rfl
  | succ count ih => simp [bigEndian, ih]

private theorem bigEndian_succ (count n : Nat) :
    bigEndian (count + 1) n = UInt8.ofNat (n / 256 ^ count) :: bigEndian count n := by
  -- The highest byte stands first, and behind it the lower part of the number.
  induction count generalizing n with
  | zero => simp [bigEndian]
  | succ count ih =>
    rw [bigEndian, ih, bigEndian, Nat.div_div_eq_div_mul, ← Nat.pow_succ']
    rfl

private theorem bigEndian_add_mul (count high n : Nat) :
    bigEndian count (256 ^ count * high + n) = bigEndian count n := by
  -- What is a multiple of the range of the bytes does not show in them.
  induction count generalizing n with
  | zero => rfl
  | succ count ih =>
    -- Leaving out the lowest byte leaves a multiple of the smaller range.
    have quotient : (256 ^ (count + 1) * high + n) / 256 = 256 ^ count * high + n / 256 := by
      rw [Nat.pow_succ']
      have regrouped : 256 * 256 ^ count * high = 256 * (256 ^ count * high) := Nat.mul_assoc ..
      omega
    -- The lowest byte is the same, as the multiple ends with a zero.
    have lowest : UInt8.ofNat (256 ^ (count + 1) * high + n) = UInt8.ofNat n := by
      apply UInt8.toNat_inj.mp
      rw [UInt8.toNat_ofNat', UInt8.toNat_ofNat', Nat.pow_succ']
      have regrouped : 256 * 256 ^ count * high = 256 * (256 ^ count * high) := Nat.mul_assoc ..
      omega
    rw [bigEndian, quotient, ih, lowest]
    rfl

/-- The bytes of a number that fits into them stand for that number. -/
theorem ofBigEndian_bigEndian {count n : Nat} (fits : n < 256 ^ count) :
    ofBigEndian (bigEndian count n) = n := by
  induction count generalizing n with
  | zero =>
    have zero : n = 0 := by simpa using fits
    simp [bigEndian, ofBigEndian, zero]
  | succ count ih =>
    have smaller : n / 256 < 256 ^ count := by
      rw [Nat.pow_succ'] at fits
      omega
    -- The bytes in front stand for the quotient, and the last one is the remainder.
    have rest : ofBigEndian (bigEndian count (n / 256)) = n / 256 := ih smaller
    unfold ofBigEndian at rest ⊢
    simp only [bigEndian, List.foldl_append, List.foldl_cons, List.foldl_nil, rest,
      UInt8.toNat_ofNat']
    omega

/-- A length in two parts: what its first byte holds of it, and bytes for the rest. -/
theorem takes_readLength {first : UInt8} {high following low : Nat}
    (announced : announcedLength? first = some (high, following)) (fits : low < 256 ^ following) :
    Takes readLength (first :: bigEndian following low) (high * 256 ^ following + low) := by
  refine (takes_readBytes [first]).bind ?_
  simp only [List.head?_cons, Option.getD_some, readAnnounced, announced]
  -- What follows the first byte is read and added to the bits that it holds.
  have rest := takes_readBytes (bigEndian following low)
  rw [length_bigEndian] at rest
  rw [← List.append_nil (bigEndian following low)]
  refine rest.bind ?_
  rw [ofBigEndian_bigEndian fits]
  exact Takes.pure _

private theorem bigEndian_marked (following mark n : Nat) :
    bigEndian (following + 1) (256 ^ following * mark + n) =
      UInt8.ofNat (mark + n / 256 ^ following) :: bigEndian following (n % 256 ^ following) := by
  -- Under a mark in its highest byte a number shows its own highest part there.
  have positive : 0 < 256 ^ following := Nat.pow_pos (by decide)
  -- The bytes behind the first one show the lower part only.
  have lower : bigEndian following n = bigEndian following (n % 256 ^ following) := by
    rw [← bigEndian_add_mul following (n / 256 ^ following) (n % 256 ^ following), Nat.div_add_mod]
  rw [bigEndian_succ, bigEndian_add_mul, Nat.mul_add_div positive, lower]

private theorem announcedLength?_marked {mark limit following high : Nat}
    (form : (mark, limit, following) ∈ [(0, 0x80, 0), (0x80, 0x40, 1), (0xC0, 0x20, 2), (0xE0, 0x10, 3)])
    (below : high < limit) :
    announcedLength? (UInt8.ofNat (mark + high)) = some (high, following) := by
  -- The first byte of a form with up to four bytes shows its mark and the bits beside it.
  simp only [List.mem_cons, Prod.mk.injEq, List.not_mem_nil, or_false] at form
  unfold announcedLength?
  simp only [UInt8.toNat_ofNat']
  -- The marks leave the ranges of the forms apart, so each first byte falls into its own.
  rcases form with ⟨rfl, rfl, rfl⟩ | ⟨rfl, rfl, rfl⟩ | ⟨rfl, rfl, rfl⟩ | ⟨rfl, rfl, rfl⟩ <;>
    grind

/-- A code is read back as the length for which it was made. -/
theorem takes_encodeLength? {n : Nat} {code : List UInt8} (encoded : encodeLength? n = some code) :
    Takes readLength code n := by
  -- All forms but the longest are a mark above the bytes of the length.
  have marked : ∀ mark limit following,
      (mark, limit, following) ∈ [(0, 0x80, 0), (0x80, 0x40, 1), (0xC0, 0x20, 2), (0xE0, 0x10, 3)] →
      n < 256 ^ following * limit →
      Takes readLength (bigEndian (following + 1) (256 ^ following * mark + n)) n := by
    intro mark limit following form below
    -- The quotient goes beside the mark, and the remainder into the bytes that follow.
    have high : n / 256 ^ following < limit := Nat.div_lt_of_lt_mul below
    have low : n % 256 ^ following < 256 ^ following :=
      Nat.mod_lt n (Nat.pow_pos (by decide))
    have parts : n / 256 ^ following * 256 ^ following + n % 256 ^ following = n :=
      Nat.div_add_mod' n (256 ^ following)
    rw [bigEndian_marked]
    have taken := takes_readLength (announcedLength?_marked form high) low
    rwa [parts] at taken
  -- The forms are tried from the shortest on.
  unfold encodeLength? at encoded
  split at encoded
  · cases encoded
    simpa using marked 0 0x80 0 (by simp) (by omega)
  split at encoded
  · cases encoded
    exact marked 0x80 0x40 1 (by simp) (by omega)
  split at encoded
  · cases encoded
    exact marked 0xC0 0x20 2 (by simp) (by omega)
  split at encoded
  · cases encoded
    exact marked 0xE0 0x10 3 (by simp) (by omega)
  split at encoded
  · -- The longest form keeps no bits of the length in its first byte.
    rename_i small
    cases encoded
    have announced : announcedLength? 0xF0 = some (0, 4) := rfl
    simpa using takes_readLength announced small
  · simp at encoded

/-- Every length below the limit of the longest form has a code. -/
theorem encodeLength?_isSome {n : Nat} (below : n < 2 ^ 32) : (encodeLength? n).isSome := by
  -- One of the forms has room for it.
  unfold encodeLength?
  grind

end RouterMetrics.Wire
