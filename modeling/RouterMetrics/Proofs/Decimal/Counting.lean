import Mathlib
import RouterMetrics.Decimal.Binary64

/-!
Doubles that count: those nearest to natural numbers.

They are in the order of the numbers, numbers below `2 ^ 53` are told apart from all others, and from
a limit on there are none.
-/

namespace RouterMetrics.Decimal

section Quotients

variable (numerator denominator : Nat)

/-- Rounding gives the quotient or the next number. -/
theorem roundedQuotient_bounds : numerator / denominator ≤ roundedQuotient numerator denominator ∧
    roundedQuotient numerator denominator ≤ numerator / denominator + 1 := by
  -- The remainder decides between the two.
  unfold roundedQuotient
  dsimp only
  split <;> omega

/-- Rounding keeps the order of fractions with one denominator. -/
theorem roundedQuotient_mono {numerator more : Nat} (denominator : Nat) (order : numerator ≤ more) :
    roundedQuotient numerator denominator ≤ roundedQuotient more denominator := by
  have lower := (roundedQuotient_bounds more denominator).1
  have upper := (roundedQuotient_bounds numerator denominator).2
  have quotients : numerator / denominator ≤ more / denominator := Nat.div_le_div_right order
  rcases Nat.lt_or_eq_of_le quotients with less | same
  · omega
  · -- Of two fractions with one quotient the larger one has the larger rest.
    have rests : numerator % denominator ≤ more % denominator := by
      have first := Nat.div_add_mod numerator denominator
      have second := Nat.div_add_mod more denominator
      rw [same] at first
      omega
    unfold roundedQuotient
    dsimp only
    rw [same]
    split <;> split <;> omega

/-- A whole quotient is not rounded. -/
theorem roundedQuotient_mul {denominator : Nat} (quotient : Nat) (positive : 0 < denominator) :
    roundedQuotient (quotient * denominator) denominator = quotient := by
  -- There is no remainder.
  unfold roundedQuotient
  rw [Nat.mul_div_cancel _ positive, Nat.mul_mod_left]
  simp [positive]

end Quotients

/-- The significand of the double nearest to a positive number, in units of a tiny power of two. -/
def significand (tiny n : Nat) : Nat :=
  roundedQuotient (n * Nat.pow 2 tiny) (Nat.pow 2 (n.log2 + tiny - 52))

section Significands

variable {tiny n : Nat} (fine : 52 ≤ tiny)

include fine

/-- A significand has at least 53 bits, as a number is not below its highest power of two. -/
theorem power_le_scaled (positive : n ≠ 0) :
    Nat.pow 2 52 * Nat.pow 2 (n.log2 + tiny - 52) ≤ n * Nat.pow 2 tiny := by
  -- Both sides are multiplied by one power of two.
  rw [Nat.pow_eq, Nat.pow_eq, Nat.pow_eq, ← pow_add,
    show 52 + (n.log2 + tiny - 52) = n.log2 + tiny by omega, pow_add]
  exact Nat.mul_le_mul_right _ (Nat.log2_self_le positive)

/-- A significand has 53 bits, or it is about to carry. -/
theorem significand_bounds (positive : n ≠ 0) :
    2 ^ 52 ≤ significand tiny n ∧ significand tiny n ≤ 2 ^ 53 := by
  have unit : 0 < Nat.pow 2 (n.log2 + tiny - 52) := Nat.two_pow_pos _
  -- Before rounding there are exactly 53 bits.
  have lower : 2 ^ 52 ≤ n * Nat.pow 2 tiny / Nat.pow 2 (n.log2 + tiny - 52) :=
    (Nat.le_div_iff_mul_le unit).mpr (power_le_scaled fine positive)
  have upper : n * Nat.pow 2 tiny / Nat.pow 2 (n.log2 + tiny - 52) < 2 ^ 53 := by
    rw [Nat.div_lt_iff_lt_mul unit, Nat.pow_eq, Nat.pow_eq, ← pow_add,
      show 53 + (n.log2 + tiny - 52) = n.log2 + 1 + tiny by omega, pow_add]
    exact Nat.mul_lt_mul_of_pos_right Nat.lt_log2_self (Nat.two_pow_pos tiny)
  -- Rounding adds one at most.
  obtain ⟨least, most⟩ :=
    roundedQuotient_bounds (n * Nat.pow 2 tiny) (Nat.pow 2 (n.log2 + tiny - 52))
  unfold significand
  omega

/-- A number of at most 53 bits is not rounded. -/
theorem significand_exact (small : n.log2 ≤ 52) :
    significand tiny n = n * 2 ^ (52 - n.log2) := by
  -- The unit of the last bit divides the number.
  have whole : n * Nat.pow 2 tiny =
      n * 2 ^ (52 - n.log2) * Nat.pow 2 (n.log2 + tiny - 52) := by
    rw [Nat.pow_eq, Nat.pow_eq, mul_assoc, ← pow_add]
    congr 2
    omega
  unfold significand
  rw [whole]
  exact roundedQuotient_mul _ (Nat.two_pow_pos _)

omit fine in
/-- Significands at one scale are in the order of the numbers. -/
theorem significand_mono {m : Nat} (order : n ≤ m) (logs : n.log2 = m.log2) :
    significand tiny n ≤ significand tiny m := by
  -- The unit of the last bit is the same, and rounding keeps the order.
  unfold significand
  rw [logs]
  exact roundedQuotient_mono _ (Nat.mul_le_mul_right _ order)

end Significands

/-- The scale of a positive number: the larger one of the two estimates. -/
theorem scaleOfFraction_one {n : Nat} (positive : n ≠ 0) : scaleOfFraction n 1 = n.log2 + 1022 := by
  have enough := power_le_scaled (show 52 ≤ 1074 by omega) positive
  have guess : n.log2 + 1075 - Nat.log2 1 - 53 = n.log2 + 1022 := by
    rw [show Nat.log2 1 = 0 from rfl]
    omega
  rw [show n.log2 + 1074 - 52 = n.log2 + 1022 by omega] at enough
  unfold scaleOfFraction
  generalize 1074 = tiny at enough ⊢
  -- The estimate is not one too high, as the significand has its highest bit.
  rw [guess, if_neg (by omega), one_mul, if_neg (Nat.not_lt.mpr enough)]

/-- The bits of the double nearest to a positive number. -/
theorem nearestBits_one {n : Nat} (positive : n ≠ 0) :
    nearestBits n 1 = min ((n.log2 + 1022) * 2 ^ 52 + significand 1074 n) infinityBits := by
  -- The scale is known, and the rest are the bits of the significand behind it.
  unfold nearestBits significand
  rw [if_neg positive, scaleOfFraction_one positive]
  rw [show n.log2 + 1074 - 52 = n.log2 + 1022 by omega]
  generalize 1074 = tiny
  dsimp only
  rw [one_mul]
  rfl

/-- The bits of infinity, as a number. -/
theorem infinityBits_eq : infinityBits = 2047 * 2 ^ 52 := rfl

/-- No nearest double is beyond infinity. -/
theorem nearestBits_le (numerator denominator : Nat) :
    nearestBits numerator denominator ≤ infinityBits := by
  -- Bits beyond infinity are cut off, and zero has none.
  unfold nearestBits
  split
  · exact Nat.zero_le _
  · exact Nat.min_le_right _ _

/-- The bits of nearest doubles are in the order of the numbers. -/
theorem nearestBits_mono {n m : Nat} (order : n ≤ m) : nearestBits n 1 ≤ nearestBits m 1 := by
  by_cases zero : n = 0
  · rw [zero]
    exact Nat.zero_le _
  · have positive : m ≠ 0 := by omega
    have logs : n.log2 ≤ m.log2 := (Nat.le_log2 positive).mpr ((Nat.log2_self_le zero).trans order)
    have most := (significand_bounds (show 52 ≤ 1074 by omega) zero).2
    have least := (significand_bounds (show 52 ≤ 1074 by omega) positive).1
    rw [nearestBits_one zero, nearestBits_one positive]
    rcases Nat.lt_or_eq_of_le logs with less | same
    · -- Even with a carry the smaller number does not come beyond the next power of two.
      omega
    · have significands : significand 1074 n ≤ significand 1074 m := significand_mono order same
      omega

private theorem lt_of_step {log next smaller larger unit : Nat} (positive : 0 < unit)
    (small : log ≤ 52) (most : smaller + unit ≤ 2 ^ 53)
    (step : log < next ∧ 2 ^ 52 ≤ larger ∨ log = next ∧ larger = smaller + unit) :
    min ((log + 1022) * 2 ^ 52 + smaller) infinityBits <
      min ((next + 1022) * 2 ^ 52 + larger) infinityBits := by
  -- Either the power of two grows, or the significand does, and neither is near infinity.
  rw [infinityBits_eq]
  omega

/-- A number below `2 ^ 53` has other bits than the next one. -/
theorem nearestBits_lt_succ {n : Nat} (small : n < 2 ^ 53) :
    nearestBits n 1 < nearestBits (n + 1) 1 := by
  by_cases zero : n = 0
  · rw [zero]
    decide +kernel
  · -- Below this bound a number is not rounded, so that one more makes a whole step.
    have positive : n + 1 ≠ 0 := Nat.add_one_ne_zero n
    have logs : n.log2 ≤ 52 := Nat.lt_succ_iff.mp ((Nat.log2_lt zero).mpr small)
    have grows : n.log2 ≤ (n + 1).log2 :=
      (Nat.le_log2 positive).mpr ((Nat.log2_self_le zero).trans (Nat.le_succ n))
    have step : n * 2 ^ (52 - n.log2) + 2 ^ (52 - n.log2) = (n + 1) * 2 ^ (52 - n.log2) := by ring
    have most : n * 2 ^ (52 - n.log2) + 2 ^ (52 - n.log2) ≤ 2 ^ 53 := by
      rw [step, show 53 = n.log2 + 1 + (52 - n.log2) by omega, pow_add]
      exact Nat.mul_le_mul_right _ Nat.lt_log2_self
    rw [nearestBits_one zero, nearestBits_one positive,
      significand_exact (show 52 ≤ 1074 by omega) logs]
    refine lt_of_step (Nat.two_pow_pos (52 - n.log2)) logs most ?_
    rcases Nat.lt_or_eq_of_le grows with less | same
    · -- The next number has one bit more, and so a larger scale.
      exact .inl ⟨less, (significand_bounds (show 52 ≤ 1074 by omega) positive).1⟩
    · -- Both numbers have one scale, and are not rounded.
      refine .inr ⟨same, ?_⟩
      rw [significand_exact (show 52 ≤ 1074 by omega) (same ▸ logs), ← same, step]

/-- A number below `2 ^ 53` has other bits than every larger one. -/
theorem nearestBits_lt {n m : Nat} (small : n < 2 ^ 53) (order : n < m) :
    nearestBits n 1 < nearestBits m 1 :=
  (nearestBits_lt_succ small).trans_le (nearestBits_mono order)

section Bits

open Float.Model (UnpackedFloat Format)
open Float.Model.UnpackedFloat

/-- The word with these bits. -/
abbrev wordOf (bits : Nat) : BitVec Format.binary64.numBits := (UInt64.ofNat bits).toBitVec

private theorem wordOf_fields {bits : Nat} (unsigned : bits < 2 ^ 63) :
    (unpackExponent (wordOf bits)).toNat = bits / 2 ^ 52 ∧
      (unpackMantissa (wordOf bits)).toNat = bits % 2 ^ 52 ∧
      unpackSign (wordOf bits) = 0#1 := by
  -- The lower 52 bits are the mantissa, the next 11 are the exponent, and then comes the sign.
  have whole : (UInt64.ofNat bits).toBitVec.toNat = bits := by
    simp
    omega
  refine ⟨?_, ?_, ?_⟩
  · rw [unpackExponent_def, BitVec.extractLsb'_toNat, whole, Nat.shiftRight_eq_div_pow]
    apply Nat.mod_eq_of_lt
    show bits / 2 ^ 52 < 2 ^ 11
    omega
  · rw [unpackMantissa_def, BitVec.extractLsb'_toNat, whole]
    simp
  · rw [unpackSign_def]
    apply BitVec.eq_of_toNat_eq
    rw [BitVec.extractLsb'_toNat, whole, Nat.shiftRight_eq_div_pow]
    show bits / 2 ^ 63 % 2 = 0
    omega

private theorem leading_mantissa {bits : Nat} (unsigned : bits < 2 ^ 63) :
    (1#1 ++ unpackMantissa (wordOf bits)).toNat = 2 ^ 52 + bits % 2 ^ 52 := by
  -- The mantissa has a leading bit that is not written.
  obtain ⟨-, mantissa, -⟩ := wordOf_fields unsigned
  rw [BitVec.toNat_append, ← Nat.shiftLeft_add_eq_or_of_lt (BitVec.isLt _), mantissa]
  rfl

/-- A double without a sign is zero, infinity, or a mantissa with an exponent. -/
theorem unpack_wordOf {bits : Nat} (inRange : bits ≤ infinityBits) :
    bits = 0 ∧ unpack .binary64 (wordOf bits) = .zero .positive ∨
      bits = infinityBits ∧ unpack .binary64 (wordOf bits) = .infinity .positive ∨
      ∃ mantissa exponent, ∃ positive : 0 < mantissa,
        unpack .binary64 (wordOf bits) = .finite .positive mantissa exponent positive ∧
          mantissa = (if bits / 2 ^ 52 = 0 then bits else 2 ^ 52 + bits % 2 ^ 52) ∧
          exponent = (max (bits / 2 ^ 52) 1 : Nat) - 1075 ∧ 0 < bits ∧ bits < infinityBits := by
  rw [infinityBits_eq] at *
  obtain ⟨exponent, mantissa, sign⟩ := wordOf_fields (show bits < 2 ^ 63 by omega)
  unfold UnpackedFloat.unpack
  rw [sign]
  dsimp only
  split
  · -- With the largest exponent only infinity is in the range.
    rename_i full
    have top : bits / 2 ^ 52 = 2047 := by rw [← exponent, full]; rfl
    have none : unpackMantissa (wordOf bits) = 0#52 :=
      BitVec.eq_of_toNat_eq (by rw [mantissa]; show bits % 2 ^ 52 = 0; omega)
    rw [if_pos none]
    exact .inr (.inl ⟨by omega, rfl⟩)
  · rename_i notFull
    have below : bits / 2 ^ 52 ≠ 2047 := by
      intro top
      exact notFull (BitVec.eq_of_toNat_eq (exponent.trans top))
    split
    · rename_i least
      have bottom : bits / 2 ^ 52 = 0 := by rw [← exponent, least]; rfl
      split
      · -- Nothing is left of zero.
        rename_i none
        have empty : bits % 2 ^ 52 = 0 := by rw [← mantissa, none]; rfl
        exact .inl ⟨by omega, rfl⟩
      · rename_i some
        have left : bits % 2 ^ 52 ≠ 0 := by
          intro empty
          exact some (BitVec.eq_of_toNat_eq (mantissa.trans empty))
        have positive : 0 < (unpackMantissa (wordOf bits)).toNat := by omega
        refine .inr (.inr ⟨_, _, positive, rfl, ?_, ?_, by omega, by omega⟩)
        · rw [mantissa]
          omega
        · rw [exponent, bottom]
          rfl
    · rename_i notLeast
      have above : bits / 2 ^ 52 ≠ 0 := by
        intro bottom
        exact notLeast (BitVec.eq_of_toNat_eq (exponent.trans bottom))
      have leading := leading_mantissa (show bits < 2 ^ 63 by omega)
      have positive : 0 < (1#1 ++ unpackMantissa (wordOf bits)).toNat := by omega
      refine .inr (.inr ⟨_, _, positive, rfl, ?_, ?_, by omega, by omega⟩)
      · rw [if_neg above, leading]
      · rw [exponent, show max (bits / 2 ^ 52) 1 = bits / 2 ^ 52 by omega]
        rfl

private theorem valid_wordOf {bits : Nat} (inRange : bits ≤ infinityBits) :
    Format.binary64.Valid (wordOf bits) where
  eq_packedNaN full some := by
    -- With the largest exponent only infinity is in the range.
    rw [infinityBits_eq] at inRange
    obtain ⟨exponent, mantissa, -⟩ := wordOf_fields (show bits < 2 ^ 63 by omega)
    have top : bits / 2 ^ 52 = 2047 := by rw [← exponent, full]; rfl
    exact absurd (BitVec.eq_of_toNat_eq (by rw [mantissa]; show bits % 2 ^ 52 = 0; omega)) some

/-- A double up to infinity has the bits that it is made of. -/
theorem toBits_ofBits {bits : Nat} (inRange : bits ≤ infinityBits) :
    (Float.ofBits (UInt64.ofNat bits)).toBits = UInt64.ofNat bits := by
  -- Bits up to infinity are no pattern of something that is no number.
  have packed := pack_unpack_of_valid (valid_wordOf inRange)
  exact congrArg UInt64.ofBitVec packed

/-- Doubles up to infinity are in the order of their bits. -/
theorem ofBits_le {bits more : Nat} (order : bits ≤ more) (inRange : more ≤ infinityBits) :
    Float.ofBits (UInt64.ofNat bits) ≤ Float.ofBits (UInt64.ofNat more) := by
  have unpacked : ∀ {bits}, bits ≤ infinityBits →
      (Float.ofBits (UInt64.ofNat bits)).toModel.unpack = unpack .binary64 (wordOf bits) := by
    intro bits inRange
    exact congrArg (fun word : UInt64 => unpack .binary64 word.toBitVec) (toBits_ofBits inRange)
  have compared : (unpack .binary64 (wordOf bits)).le (unpack .binary64 (wordOf more)) = true := by
    have top := infinityBits_eq
    rcases unpack_wordOf (order.trans inRange) with ⟨-, first⟩ | ⟨infinite, first⟩ |
      ⟨mantissa, exponent, positive, first, mantissaIs, exponentIs, some, -⟩
    · -- Zero comes first.
      rcases unpack_wordOf inRange with ⟨-, second⟩ | ⟨-, second⟩ | ⟨_, _, _, second, -⟩ <;>
        rw [first, second] <;> rfl
    · rcases unpack_wordOf inRange with ⟨none, -⟩ | ⟨-, second⟩ | ⟨_, _, _, -, -, -, -, finite⟩
      · omega
      · rw [first, second]
        rfl
      · omega
    · rcases unpack_wordOf inRange with ⟨none, -⟩ | ⟨-, second⟩ |
        ⟨mantissa', exponent', positive', second, mantissaIs', exponentIs', -, -⟩
      · omega
      · -- Infinity comes last.
        rw [first, second]
        rfl
      · -- The exponents come first, and below the least one of them there are no leading bits.
        have sorted : exponent < exponent' ∨ exponent = exponent' ∧ mantissa ≤ mantissa' := by
          split at mantissaIs <;> split at mantissaIs' <;> omega
        rw [first, second]
        show ((compare exponent exponent').then (compare mantissa mantissa')).isLE = true
        rcases sorted with less | ⟨same, least⟩
        · rw [compare_lt_iff_lt.mpr less]
          rfl
        · rw [same, compare_eq_iff_eq.mpr rfl]
          exact Nat.isLE_compare.mpr least
  show Float.le _ _ = true
  unfold Float.le
  rw [decide_eq_true_iff]
  show UnpackedFloat.le _ _ = true
  rw [unpacked (order.trans inRange), unpacked inRange]
  exact compared

end Bits

/-- The double nearest to a number, by its bits. -/
theorem nearestDouble_eq (n : Nat) :
    nearestDouble false n 1 = Float.ofBits (UInt64.ofNat (nearestBits n 1)) := by
  -- There is no sign.
  unfold nearestDouble
  dsimp only
  rw [if_neg Bool.false_ne_true]

/-- Nearest doubles are in the order of the numbers. -/
theorem nearestDouble_mono {n m : Nat} (order : n ≤ m) :
    nearestDouble false n 1 ≤ nearestDouble false m 1 := by
  -- Doubles without a sign are in the order of their bits.
  rw [nearestDouble_eq, nearestDouble_eq]
  exact ofBits_le (nearestBits_mono order) (nearestBits_le m 1)

/-- A number below `2 ^ 53` has another double than every larger one. -/
theorem nearestDouble_eq_iff {n m : Nat} (small : n < 2 ^ 53) (order : n ≤ m) :
    nearestDouble false m 1 = nearestDouble false n 1 ↔ m = n := by
  constructor
  · intro same
    -- The bits can be told from the doubles.
    have words : UInt64.ofNat (nearestBits m 1) = UInt64.ofNat (nearestBits n 1) := by
      rw [← toBits_ofBits (nearestBits_le m 1), ← toBits_ofBits (nearestBits_le n 1),
        ← nearestDouble_eq, ← nearestDouble_eq, same]
    rcases Nat.lt_or_eq_of_le order with less | equal
    · -- A larger number would have other bits, all of which fit into one word.
      have lower := nearestBits_lt small less
      have upper := nearestBits_le m 1
      have bits := congrArg UInt64.toNat words
      generalize nearestBits n 1 = first at lower bits
      generalize nearestBits m 1 = second at lower upper bits
      rw [infinityBits_eq] at upper
      rw [UInt64.toNat_ofNat', UInt64.toNat_ofNat'] at bits
      omega
    · exact equal.symm
  · intro same
    rw [same]

/-- The least number beyond the range: half a step above the largest double, where ties go up. -/
def rangeLimit : Nat := 2 ^ 1024 - 2 ^ 970

private theorem nearestBits_rangeLimit : nearestBits rangeLimit 1 = infinityBits := by
  decide +kernel

private theorem nearestBits_belowLimit : nearestBits (rangeLimit - 1) 1 < infinityBits := by
  decide +kernel

/-- A number has no double exactly if it is beyond the range. -/
theorem doubleOfNat?_eq_none_iff {n : Nat} : doubleOfNat? n = none ↔ rangeLimit ≤ n := by
  have infinite : doubleOfNat? n = none ↔ nearestBits n 1 = infinityBits := by
    unfold doubleOfNat?
    split <;> simp_all
  rw [infinite]
  -- Nearest bits grow with the number, and they reach infinity at the limit.
  constructor
  · intro same
    by_contra below
    have order := nearestBits_mono (Nat.le_sub_one_of_lt (Nat.lt_of_not_le below))
    exact absurd same (order.trans_lt nearestBits_belowLimit).ne
  · intro beyond
    exact Nat.le_antisymm (nearestBits_le n 1) (nearestBits_rangeLimit ▸ nearestBits_mono beyond)

end RouterMetrics.Decimal
