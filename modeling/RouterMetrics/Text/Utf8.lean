import RouterMetrics.Text.Hex

/-! Texts read from UTF-8 bytes, with the place and the cause of a failure. -/

namespace RouterMetrics.Text.Utf8

/-- Why bytes are not UTF-8. -/
inductive Cause where
  | invalidStart
  | invalidContinuation
  | endOfData
deriving Repr, DecidableEq

/-- The bytes that cannot be read: the first one and its position, how many, and why. -/
structure Invalid where
  byte : UInt8
  start : Nat
  length : Nat
  cause : Cause
deriving Repr, DecidableEq

/-- What a first byte announces: the bits it holds and the bounds of each byte after it. -/
def announced? (byte : UInt8) : Option (Nat × List (Nat × Nat)) :=
  let n := byte.toNat
  let tail := (0x80, 0xBF)
  if n < 0x80 then some (n, [])
  else if 0xC2 ≤ n ∧ n ≤ 0xDF then some (n - 0xC0, [tail])
  else if n == 0xE0 then some (0, [(0xA0, 0xBF), tail])
  else if n == 0xED then some (0xD, [(0x80, 0x9F), tail])
  else if 0xE1 ≤ n ∧ n ≤ 0xEF then some (n - 0xE0, [tail, tail])
  else if n == 0xF0 then some (0, [(0x90, 0xBF), tail, tail])
  else if 0xF1 ≤ n ∧ n ≤ 0xF3 then some (n - 0xF0, [tail, tail, tail])
  else if n == 0xF4 then some (4, [(0x80, 0x8F), tail, tail])
  else none

/-- The code point that the announced bytes complete, or how many were good and why not more. -/
def complete (code count : Nat) : List (Nat × Nat) → List UInt8 → Except (Nat × Cause) Nat
  | [], _ => .ok code
  | _ :: _, [] => .error (count, .endOfData)
  | (low, high) :: bounds, byte :: rest =>
      if low ≤ byte.toNat ∧ byte.toNat ≤ high then
        complete (code * 64 + (byte.toNat - 0x80)) (count + 1) bounds rest
      else .error (count, .invalidContinuation)

/-- Whether bytes are the first two of three that would stand for half of a pair of codes. -/
def isHalfCut : List UInt8 → Bool
  | [first, second] => first == 0xED && 0xA0 ≤ second && second ≤ 0xBF
  | _ => false

/-- The characters of the bytes, and the bytes of a character that is cut off by their end unless
they are the last ones; given how many bytes were read already and are to be skipped. -/
def decodeFrom (areLast : Bool) (position skip : Nat) :
    List UInt8 → Except Invalid (List Char × List UInt8)
  | [] => .ok ([], [])
  | byte :: rest =>
      match skip with
      | skip + 1 => decodeFrom areLast (position + 1) skip rest
      | 0 =>
          match announced? byte with
          | none => .error ⟨byte, position, 1, .invalidStart⟩
          | some (code, bounds) =>
              match complete code 1 bounds rest with
              | .error (good, cause) =>
                  if !areLast && (cause == .endOfData || isHalfCut (byte :: rest)) then
                    .ok ([], byte :: rest)
                  else .error ⟨byte, position, good, cause⟩
              | .ok code => do
                  let (chars, cut) ← decodeFrom areLast (position + 1) bounds.length rest
                  return (Char.ofNat code :: chars, cut)

/-- The text of the bytes. -/
def decode (bytes : List UInt8) : Except Invalid String :=
  (decodeFrom true 0 0 bytes).map fun (chars, _) => String.ofList chars

/-- The wording of a cause. -/
def Cause.message : Cause → String
  | .invalidStart => "invalid start byte"
  | .invalidContinuation => "invalid continuation byte"
  | .endOfData => "unexpected end of data"

/-- What is wrong with bytes that are not UTF-8. -/
def Invalid.message (invalid : Invalid) : String :=
  let cause := invalid.cause.message
  if invalid.length == 1 then
    let byte := hexText [invalid.byte]
    s!"'utf-8' codec can't decode byte 0x{byte} in position {invalid.start}: {cause}"
  else
    let last := invalid.start + invalid.length - 1
    s!"'utf-8' codec can't decode bytes in position {invalid.start}-{last}: {cause}"

end RouterMetrics.Text.Utf8
