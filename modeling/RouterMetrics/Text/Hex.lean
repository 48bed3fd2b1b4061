import RouterMetrics.Text.Blank

/-! Hexadecimal digits, and bytes written as pairs of them. -/

namespace RouterMetrics.Text

/-- The small hexadecimal digit of a value below sixteen. -/
def hexDigit (value : Nat) : Char :=
  if value < 10 then Char.ofNat (48 + value) else Char.ofNat (87 + value)

/-- The value of a hexadecimal digit in either case. -/
def hexValue? (c : Char) : Option Nat :=
  let code := c.toNat
  if 48 ≤ code ∧ code ≤ 57 then some (code - 48)
  else if 97 ≤ code ∧ code ≤ 102 then some (code - 87)
  else if 65 ≤ code ∧ code ≤ 70 then some (code - 55)
  else none

/-- The last `width` hexadecimal digits of a number, the highest first. -/
def hexDigits : (width value : Nat) → List Char
  | 0, _ => []
  | width + 1, value => hexDigits width (value / 16) ++ [hexDigit (value % 16)]

/-- Bytes as pairs of hexadecimal digits. -/
def hexText (bytes : List UInt8) : String :=
  String.ofList (bytes.flatMap fun byte => hexDigits 2 byte.toNat)

/-- The bytes of pairs of digits with blanks between them, or the position of what is no digit. -/
def readPairs (position : Nat) : List Char → Except Nat (List UInt8)
  | [] => .ok []
  | [c] =>
      if isPlainBlank c then .ok []
      else if (hexValue? c).isSome then .error (position + 1) else .error position
  | c :: d :: rest =>
      if isPlainBlank c then readPairs (position + 1) (d :: rest)
      else
        match hexValue? c, hexValue? d with
        | none, _ => .error position
        | some _, none => .error (position + 1)
        | some high, some low =>
            (readPairs (position + 2) rest).map (UInt8.ofNat (high * 16 + low) :: ·)

/-- The bytes that a hexadecimal text denotes, or the position of the character in the way. -/
def readHex (text : String) : Except Nat (List UInt8) :=
  -- A character outside the first 128 is found before any other.
  match text.toList.findIdx? fun c => 128 ≤ c.toNat with
  | some position => .error position
  | none => readPairs 0 text.toList

end RouterMetrics.Text
