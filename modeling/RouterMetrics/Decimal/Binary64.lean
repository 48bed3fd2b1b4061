/-! Doubles as exact fractions: the parts of a double, and the double nearest to a fraction. -/

namespace RouterMetrics.Decimal

/-- The magnitude of a finite double: `significand * 2 ^ (scale - 1074)`. -/
structure Magnitude where
  significand : Nat
  scale : Nat
deriving Repr, DecidableEq

/-- What a double stands for, its sign apart. -/
inductive Extent where
  | finite (magnitude : Magnitude)
  | infinite
  | undefined
deriving Repr, DecidableEq

/-- The extent of the double with these bits. -/
def extentOfBits (bits : Nat) : Extent :=
  let fraction := bits % Nat.pow 2 52
  let exponent := bits / Nat.pow 2 52 % Nat.pow 2 11
  if exponent == 2047 then (if fraction == 0 then .infinite else .undefined)
  else if exponent == 0 then .finite ⟨fraction, 0⟩
  else .finite ⟨Nat.pow 2 52 + fraction, exponent - 1⟩

/-- Whether the double with these bits has a minus sign. -/
def signOfBits (bits : Nat) : Bool :=
  bits / Nat.pow 2 63 % 2 == 1

/-- The bits of infinity, above those of every finite double. -/
def infinityBits : Nat := 2047 * Nat.pow 2 52

/-- The quotient rounded to the nearest whole number, a tie to the even one. -/
def roundedQuotient (numerator denominator : Nat) : Nat :=
  let quotient := numerator / denominator
  let twice := 2 * (numerator % denominator)
  if twice < denominator ∨ (twice = denominator ∧ quotient % 2 = 0) then quotient else quotient + 1

/--
The scale at which a positive fraction has a significand of 53 bits, or the least scale.

The two estimates of the quotient's size differ by one, and the larger is tried first.
-/
def scaleOfFraction (numerator denominator : Nat) : Nat :=
  let guess := numerator.log2 + 1075 - denominator.log2 - 53
  if guess = 0 then 0
  else if numerator * Nat.pow 2 1074 < Nat.pow 2 52 * (denominator * Nat.pow 2 guess) then guess - 1
  else guess

/-- The bits of the nonnegative double nearest to a fraction, infinity beyond the largest. -/
def nearestBits (numerator denominator : Nat) : Nat :=
  if numerator = 0 then 0
  else
    let scale := scaleOfFraction numerator denominator
    -- A significand that rounds up to 54 bits carries into the exponent by itself.
    let bits := scale * Nat.pow 2 52 +
      roundedQuotient (numerator * Nat.pow 2 1074) (denominator * Nat.pow 2 scale)
    min bits infinityBits

/-- The double nearest to a fraction with a sign. -/
def nearestDouble (negative : Bool) (numerator denominator : Nat) : Float :=
  let bits := nearestBits numerator denominator
  Float.ofBits (UInt64.ofNat (if negative then Nat.pow 2 63 + bits else bits))

/-- The double nearest to a natural number, if it is within the range of doubles. -/
def doubleOfNat? (n : Nat) : Option Float :=
  if nearestBits n 1 = infinityBits then none else some (nearestDouble false n 1)

/-- The bits of a double as a number. -/
def bitsOf (value : Float) : Nat :=
  value.toBits.toNat

/-- The double that is no number. -/
def undefinedDouble : Float := Float.ofBits 0x7FF8000000000000

/-- Whether a double is no number. -/
def isUndefined (value : Float) : Bool := extentOfBits (bitsOf value) == .undefined

/-- The whole part of a double; none for infinity and for what is not a number. -/
def truncated? (value : Float) : Option Int :=
  match extentOfBits (bitsOf value) with
  | .finite m =>
      let whole : Nat := m.significand * Nat.pow 2 m.scale / Nat.pow 2 1074
      some (if signOfBits (bitsOf value) then -(whole : Int) else (whole : Int))
  | _ => none

/-- The whole number that a double is; none for one with a fraction too. -/
def wholeValue? (value : Float) : Option Int :=
  match extentOfBits (bitsOf value) with
  | .finite m =>
      if m.significand * Nat.pow 2 m.scale % Nat.pow 2 1074 = 0 then truncated? value else none
  | _ => none

end RouterMetrics.Decimal
