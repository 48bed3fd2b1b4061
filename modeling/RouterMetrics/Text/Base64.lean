/-! Bytes in base 64: four characters for three bytes, padded at the end. -/

namespace RouterMetrics.Text

/-- The value of a character in base 64. -/
def sextet? (c : Char) : Option Nat :=
  let code := c.toNat
  if 65 ≤ code ∧ code ≤ 90 then some (code - 65)
  else if 97 ≤ code ∧ code ≤ 122 then some (code - 71)
  else if 48 ≤ code ∧ code ≤ 57 then some (code + 4)
  else if c == '+' then some 62
  else if c == '/' then some 63
  else none

/-- The values before the padding that ends a group; characters outside the alphabet are nothing. -/
def sextetsFrom (inGroup pads : Nat) : List Char → Option (List Nat)
  | [] => if inGroup = 0 then some [] else none
  | c :: rest =>
      match sextet? c with
      | some value => (sextetsFrom ((inGroup + 1) % 4) 0 rest).map (value :: ·)
      | none =>
          if c != '=' then sextetsFrom inGroup pads rest
          else if inGroup < 2 then sextetsFrom inGroup pads rest
          -- Nothing is looked at after the padding.
          else if 4 ≤ inGroup + pads + 1 then some []
          else sextetsFrom inGroup (pads + 1) rest

/-- The bytes of values in groups of four; the last group may be shorter. -/
def bytesOfSextets : List Nat → List UInt8
  | a :: b :: c :: d :: rest =>
      UInt8.ofNat (a * 4 + b / 16) :: UInt8.ofNat (b * 16 + c / 4) :: UInt8.ofNat (c * 64 + d) ::
        bytesOfSextets rest
  | [a, b, c] => [UInt8.ofNat (a * 4 + b / 16), UInt8.ofNat (b * 16 + c / 4)]
  | [a, b] => [UInt8.ofNat (a * 4 + b / 16)]
  | _ => []

/-- The bytes that a text in base 64 denotes, if its last group is whole or padded. -/
def readBase64? (text : List Char) : Option (List UInt8) :=
  (sextetsFrom 0 0 text).map bytesOfSextets

end RouterMetrics.Text
