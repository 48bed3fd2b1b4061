import RouterMetrics.Decimal.Binary64
import RouterMetrics.Text.Blank
import RouterMetrics.Text.DecimalDigit
import RouterMetrics.Text.Quoted

/-! Numbers read from texts: whole numbers and doubles, in the digits of any script. -/

namespace RouterMetrics.Decimal

open RouterMetrics.Text

/-- A character as a numeral sees it: digits of any script alike, and white space as spaces. -/
def numeralChar (c : Char) : Char :=
  if c.toNat < 128 then c
  else
    match digitValue? c with
    | some value => Char.ofNat (48 + value)
    | none => if isBlank c then ' ' else c

/-- The characters of a numeral without the white space around it. -/
def numeralChars (text : String) : List Char :=
  trimWhile isPlainBlank (text.toList.map numeralChar)

/-- Whether the sign is a minus, and what follows the sign. -/
def splitSign : List Char → Bool × List Char
  | '-' :: rest => (true, rest)
  | '+' :: rest => (false, rest)
  | rest => (false, rest)

/-- The value of a plain digit in a base of at most 36; letters stand for ten and more. -/
def plainDigit? (base : Nat) (c : Char) : Option Nat :=
  let code := c.toNat
  let value :=
    if 48 ≤ code ∧ code ≤ 57 then code - 48
    else if 97 ≤ code ∧ code ≤ 122 then code - 87
    else if 65 ≤ code ∧ code ≤ 90 then code - 55
    else base
  if value < base then some value else none

/-- Some digits, with single underscores between them. -/
structure DigitRun where
  /-- The digits in order. -/
  digits : List Nat
  /-- An underscore has no digit after it. -/
  broken : Bool
deriving Repr, DecidableEq

/-- The longest run of digits at the start, and the rest; the flag tells of a digit before. -/
def digitRun (base : Nat) (afterDigit : Bool) : List Char → DigitRun × List Char
  | [] => (⟨[], false⟩, [])
  | c :: rest =>
      if c == '_' then
        if afterDigit then
          match digitRun base false rest with
          | (⟨[], _⟩, _) => (⟨[], true⟩, rest)
          | found => found
        else (⟨[], false⟩, c :: rest)
      else
        match plainDigit? base c with
        | some value =>
            let (run, after) := digitRun base true rest
            (⟨value :: run.digits, run.broken⟩, after)
        | none => (⟨[], false⟩, c :: rest)

/-- The number with these digits. -/
def ofDigits (base : Nat) (digits : List Nat) : Nat :=
  digits.foldl (fun value digit => value * base + digit) 0

/-- Why a text is not a whole number. -/
inductive IntegerFault where
  | malformed (base : Nat) (text : String)
  | tooManyDigits (count : Nat)
deriving Repr, DecidableEq

/-- The most digits that a whole number may be written with. -/
def digitLimit : Nat := 4300

/-- The most characters of a quoted text that are shown as no whole number, marks included. -/
def shownLimit : Nat := 200

/-- What is wrong with something that is no whole number in a base, given how it is quoted. -/
def notWholeMessage (base : Nat) (quoted : String) : String :=
  s!"invalid literal for int() with base {base}: " ++
    String.ofList (quoted.toList.take shownLimit)

/-- What is wrong with a text that is not a whole number. -/
def IntegerFault.message : IntegerFault → String
  | .malformed base text => notWholeMessage base (quoted text)
  | .tooManyDigits count =>
      s!"Exceeds the limit ({digitLimit} digits) for integer string conversion: " ++
        s!"value has {count} " ++
        "digits; use sys.set_int_max_str_digits() to increase the limit"

/-- The letter after a zero that may announce a base. -/
def baseLetter? (base : Nat) : Option Char :=
  match base with
  | 2 => some 'b'
  | 8 => some 'o'
  | 16 => some 'x'
  | _ => none

/-- The text after a zero and the letter of the base; an underscore may follow them. -/
def dropBaseMark (base : Nat) (text : List Char) : List Char :=
  match text, baseLetter? base with
  | '0' :: c :: rest, some letter =>
      if c.toLower == letter then (if rest.head? == some '_' then rest.drop 1 else rest) else text
  | _, _ => text

/-- The whole number that a text denotes in a base; only base ten has a limit on its digits. -/
def readIntegerIn (base : Nat) (text : String) : Except IntegerFault Int :=
  let (negative, unsigned) := splitSign (numeralChars text)
  let (run, rest) := digitRun base false (dropBaseMark base unsigned)
  if run.digits.isEmpty || run.broken then .error (.malformed base text)
  -- Length is looked at before what follows the digits.
  else if base == 10 && digitLimit < run.digits.length then
    .error (.tooManyDigits run.digits.length)
  else if !rest.isEmpty then .error (.malformed base text)
  else
    let value : Int := ofDigits base run.digits
    .ok (if negative then -value else value)

/-- The whole number that a text denotes in base ten. -/
def readInteger (text : String) : Except IntegerFault Int := readIntegerIn 10 text

/-- The double nearest to `digits * 10 ^ exponent`. -/
def doubleOfDecimal (negative : Bool) (digits : List Nat) (exponent : Int) : Float :=
  let significant := digits.dropWhile (· == 0)
  let size : Int := significant.length + exponent
  -- Beyond these sizes the power of ten need not be formed.
  if significant.isEmpty || size < -400 then nearestDouble negative 0 1
  else if 400 < size then nearestDouble negative (Nat.pow 2 1100) 1
  else if 0 ≤ exponent then
    nearestDouble negative (ofDigits 10 significant * Nat.pow 10 exponent.toNat) 1
  else nearestDouble negative (ofDigits 10 significant) (Nat.pow 10 (-exponent).toNat)

/-- The exponent after an `e`; zero where the text has ended, and none for anything else. -/
def readExponent? : List Char → Option Int
  | [] => some 0
  | c :: rest =>
      if c == 'e' || c == 'E' then
        let (negative, unsigned) := splitSign rest
        let (run, after) := digitRun 10 false unsigned
        if run.digits.isEmpty || run.broken || !after.isEmpty then none
        else
          let value : Int := ofDigits 10 run.digits
          some (if negative then -value else value)
      else none

/-- The double that an unsigned numeral denotes. -/
def readMagnitude? (negative : Bool) (unsigned : List Char) : Option Float :=
  let lower := String.ofList (unsigned.map Char.toLower)
  if lower == "inf" || lower == "infinity" then some (nearestDouble negative (Nat.pow 2 1100) 1)
  else if lower == "nan" then some undefinedDouble
  else
    let (whole, rest) := digitRun 10 false unsigned
    let (fraction, rest) :=
      match rest with
      | '.' :: after => digitRun 10 false after
      | other => (⟨[], false⟩, other)
    let isEmpty := whole.digits.isEmpty && fraction.digits.isEmpty
    if whole.broken || fraction.broken || isEmpty then none
    else
      (readExponent? rest).map fun exponent =>
        doubleOfDecimal negative (whole.digits ++ fraction.digits)
          (exponent - (fraction.digits.length : Int))

/-- The double nearest to the number that a text denotes. -/
def readDouble? (text : String) : Option Float :=
  let (negative, unsigned) := splitSign (numeralChars text)
  readMagnitude? negative unsigned

end RouterMetrics.Decimal
