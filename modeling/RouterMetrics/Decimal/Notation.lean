import RouterMetrics.Decimal.Shortest

/-! Doubles as text: the plain form, and the form on a metrics page. -/

namespace RouterMetrics.Decimal

/-- The digits of a natural number in base ten. -/
def naturalText (n : Nat) : List Char :=
  Nat.toDigits 10 n

/-- A whole number in base ten. -/
def integerText (n : Int) : String :=
  let digits := naturalText n.natAbs
  String.ofList (if n < 0 then '-' :: digits else digits)

/-- A natural number with zeros before it up to a width. -/
def paddedNatural (width n : Nat) : List Char :=
  let text := naturalText n
  List.replicate (width - text.length) '0' ++ text

/-- The exponent after its mark: a sign and at least two digits. -/
def exponentText (exponent : Int) : List Char :=
  'e' :: (if exponent < 0 then '-' else '+') :: paddedNatural 2 exponent.natAbs

/-- Digits with the point after the first, and the exponent of that first digit. -/
def scientific (digits : List Char) (exponent : Int) : List Char :=
  match digits with
  | [] => []
  | [first] => first :: exponentText exponent
  | first :: rest => first :: '.' :: rest ++ exponentText exponent

/-- Digits with the point in its place, and at least one digit on each side of it. -/
def positional (digits : List Char) (exponent : Int) : List Char :=
  if exponent < 0 then
    '0' :: '.' :: List.replicate ((-exponent).toNat - 1) '0' ++ digits
  else
    let whole := exponent.toNat + 1
    let filled := digits ++ List.replicate (whole + 1 - digits.length) '0'
    filled.take whole ++ '.' :: filled.drop whole

/-- The text of a magnitude: positional where the first digit's exponent is from -4 to 15. -/
def magnitudeText (m : Magnitude) : List Char :=
  if m.significand = 0 then ['0', '.', '0']
  else
    let decimal := shortest m
    let digits := naturalText decimal.digits
    let exponent := decimal.exponent + (digits.length : Int) - 1
    if -4 ≤ exponent ∧ exponent < 16 then positional digits exponent
    else scientific digits exponent

/-- The plain form of a double: the fewest digits that read back. -/
def floatText (value : Float) : String :=
  let bits := bitsOf value
  match extentOfBits bits with
  | .undefined => "nan"
  | .infinite => if signOfBits bits then "-inf" else "inf"
  | .finite m =>
      let text := magnitudeText m
      String.ofList (if signOfBits bits then '-' :: text else text)

/-- The text without the zeros and points at its end. -/
def withoutTail (text : List Char) : List Char :=
  (text.reverse.dropWhile fun c => c == '0' || c == '.').reverse

/-- A value on a metrics page: a positive one of a million or more has an exponent. -/
def sampleText (value : Float) : String :=
  let bits := bitsOf value
  match extentOfBits bits with
  | .undefined => "NaN"
  | .infinite => if signOfBits bits then "-Inf" else "+Inf"
  | .finite m =>
      let text := magnitudeText m
      let whole := text.takeWhile (· != '.')
      let fraction := text.drop (whole.length + 1)
      if signOfBits bits then String.ofList ('-' :: text)
      else
        match whole with
        | first :: rest =>
            if 6 < whole.length ∧ whole.length < text.length then
              String.ofList (withoutTail (first :: '.' :: rest ++ fraction) ++ ['e', '+'] ++
                paddedNatural 2 (whole.length - 1))
            else String.ofList text
        | [] => String.ofList text

end RouterMetrics.Decimal
