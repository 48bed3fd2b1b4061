import RouterMetrics.Decimal.Binary64

/-! The fewest decimal digits that read back as a given double. -/

namespace RouterMetrics.Decimal

/-- A decimal number `digits * 10 ^ exponent`. -/
structure Scientific where
  digits : Nat
  exponent : Int
deriving Repr, DecidableEq

/--
The numbers that round to a double, as multiples of one fraction.

The value lies at `middle` and the interval reaches from `low` to `high`.
-/
structure Interval where
  low : Nat
  middle : Nat
  high : Nat
  closed : Bool
  numerator : Nat
  denominator : Nat
deriving Repr, DecidableEq

/-- The rounding interval of a positive magnitude, in quarters of its last place. -/
def Magnitude.interval (m : Magnitude) : Interval where
  -- Below a power of two the doubles lie twice as close.
  low := 4 * m.significand - (if m.significand = Nat.pow 2 52 ∧ 0 < m.scale then 1 else 2)
  middle := 4 * m.significand
  high := 4 * m.significand + 2
  closed := m.significand % 2 == 0
  numerator := Nat.pow 2 m.scale
  denominator := Nat.pow 2 1076

/-- Whether `candidate * unitNumerator / unitDenominator` lies in the interval. -/
def Interval.contains (i : Interval) (candidate unitNumerator unitDenominator : Nat) : Bool :=
  let point := candidate * unitNumerator * i.denominator
  let scaled := fun bound => bound * i.numerator * unitDenominator
  if i.closed then scaled i.low ≤ point && point ≤ scaled i.high
  else scaled i.low < point && point < scaled i.high

/-- The power of ten `10 ^ exponent` as a fraction. -/
def powerOfTen (exponent : Int) : Nat × Nat :=
  if 0 ≤ exponent then (Nat.pow 10 exponent.toNat, 1) else (1, Nat.pow 10 (-exponent).toNat)

/-- The number nearest to the middle of the interval on a decimal grid, if one reads back. -/
def Interval.onGrid? (i : Interval) (exponent : Int) : Option Scientific :=
  let (unitNumerator, unitDenominator) := powerOfTen exponent
  let value := i.middle * i.numerator * unitDenominator
  let unit := unitNumerator * i.denominator
  let below := value / unit
  let lower := i.contains below unitNumerator unitDenominator
  let upper := i.contains (below + 1) unitNumerator unitDenominator
  let twice := 2 * (value % unit)
  let lowerIsNearer := twice < unit || (twice == unit && below % 2 == 0)
  if lower && (lowerIsNearer || !upper) then some ⟨below, exponent⟩
  else if upper then some ⟨below + 1, exponent⟩
  else none

/-- The number of decimal digits of a natural number. -/
def digitCount (n : Nat) : Nat :=
  (Nat.toDigits 10 n).length

/-- The exponent of the first digit of a positive fraction. -/
def firstDigitExponent (numerator denominator : Nat) : Int :=
  if denominator ≤ numerator then (digitCount (numerator / denominator) : Int) - 1
  else
    let places := digitCount (denominator / numerator)
    -- A quotient that is an exact power of ten starts one place earlier.
    if numerator * Nat.pow 10 (places - 1) < denominator then -(places : Int)
    else 1 - (places : Int)

/-- The first grid with a number that reads back, from coarse to fine. -/
def Interval.firstOnGrid? (i : Interval) : (exponents : List Int) → Option Scientific
  | [] => none
  | exponent :: finer => (i.onGrid? exponent).orElse fun _ => i.firstOnGrid? finer

/-- The same number with a last digit of zero moved into the exponent. -/
def Scientific.withoutZero (d : Scientific) : Scientific :=
  if d.digits % 10 = 0 then ⟨d.digits / 10, d.exponent + 1⟩ else d

/-- The fewest digits that read back as a positive magnitude, and of those the nearest to it. -/
def shortest (m : Magnitude) : Scientific :=
  let i := m.interval
  let first := firstDigitExponent (i.middle * i.numerator) i.denominator
  let found := i.firstOnGrid? ((List.range 17).map fun (count : Nat) => first - (count : Int))
  -- Only the number just above the coarsest grid's last digit, a power of ten, ends in a zero.
  (found.getD ⟨0, 0⟩).withoutZero

end RouterMetrics.Decimal
