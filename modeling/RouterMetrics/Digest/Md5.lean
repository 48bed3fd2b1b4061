/-! The MD5 digest of a list of bytes. -/

namespace RouterMetrics.Digest.Md5

/-- The four words that a digest is made of. -/
structure State where
  a : UInt32
  b : UInt32
  c : UInt32
  d : UInt32
deriving Repr, DecidableEq

/-- The state before the first block. -/
def State.initial : State := ⟨0x67452301, 0xEFCDAB89, 0x98BADCFE, 0x10325476⟩

/-- The word added in each of the 64 steps: the leading bits of the sine of the step's number. -/
def sineWords : List UInt32 :=
  [0xD76AA478, 0xE8C7B756, 0x242070DB, 0xC1BDCEEE, 0xF57C0FAF, 0x4787C62A, 0xA8304613,
   0xFD469501, 0x698098D8, 0x8B44F7AF, 0xFFFF5BB1, 0x895CD7BE, 0x6B901122, 0xFD987193,
   0xA679438E, 0x49B40821, 0xF61E2562, 0xC040B340, 0x265E5A51, 0xE9B6C7AA, 0xD62F105D,
   0x02441453, 0xD8A1E681, 0xE7D3FBC8, 0x21E1CDE6, 0xC33707D6, 0xF4D50D87, 0x455A14ED,
   0xA9E3E905, 0xFCEFA3F8, 0x676F02D9, 0x8D2A4C8A, 0xFFFA3942, 0x8771F681, 0x6D9D6122,
   0xFDE5380C, 0xA4BEEA44, 0x4BDECFA9, 0xF6BB4B60, 0xBEBFBC70, 0x289B7EC6, 0xEAA127FA,
   0xD4EF3085, 0x04881D05, 0xD9D4D039, 0xE6DB99E5, 0x1FA27CF8, 0xC4AC5665, 0xF4292244,
   0x432AFF97, 0xAB9423A7, 0xFC93A039, 0x655B59C3, 0x8F0CCC92, 0xFFEFF47D, 0x85845DD1,
   0x6FA87E4F, 0xFE2CE6E0, 0xA3014314, 0x4E0811A1, 0xF7537E82, 0xBD3AF235, 0x2AD7D2BB, 0xEB86D391]

/-- How far the sum is rotated in the steps of each round, in turn. -/
def rotations : List (List UInt32) :=
  [[7, 12, 17, 22], [5, 9, 14, 20], [4, 11, 16, 23], [6, 10, 15, 21]]

/-- The bits of a word moved to the left, those that fall out coming in on the right. -/
def rotate (word amount : UInt32) : UInt32 :=
  (word <<< amount) ||| (word >>> (32 - amount))

/-- How a round mixes three words, and which word of the block its step takes. -/
def mix (round step : Nat) (b c d : UInt32) : UInt32 × Nat :=
  match round with
  | 0 => ((b &&& c) ||| ((~~~ b) &&& d), step)
  | 1 => ((d &&& b) ||| ((~~~ d) &&& c), (5 * step + 1) % 16)
  | 2 => (b ^^^ c ^^^ d, (3 * step + 5) % 16)
  | _ => (c ^^^ (b ||| (~~~ d)), (7 * step) % 16)

/-- One of the 64 steps over a block. -/
def State.step (words : List UInt32) (s : State) (step : Nat) : State :=
  let (mixed, index) := mix (step / 16) step s.b s.c s.d
  let sum := s.a + mixed + sineWords.getD step 0 + words.getD index 0
  let amount := (rotations.getD (step / 16) []).getD (step % 4) 0
  ⟨s.d, s.b + rotate sum amount, s.b, s.c⟩

/-- The state after one more block of sixteen words. -/
def State.block (s : State) (words : List UInt32) : State :=
  let t := (List.range 64).foldl (State.step words) s
  ⟨s.a + t.a, s.b + t.b, s.c + t.c, s.d + t.d⟩

/-- The number that four bytes stand for, the lowest first. -/
def littleEndian (bytes : List UInt8) : UInt32 :=
  UInt32.ofNat (bytes.foldr (fun byte n => n * 256 + byte.toNat) 0)

/-- The bytes of a number, the lowest first. -/
def littleEndianBytes : (count n : Nat) → List UInt8
  | 0, _ => []
  | count + 1, n => UInt8.ofNat n :: littleEndianBytes count (n / 256)

/-- A message filled up to whole blocks, its length in bits at the end. -/
def padded (message : List UInt8) : List UInt8 :=
  let zeros := (55 + 64 - message.length % 64) % 64
  message ++ 0x80 :: List.replicate zeros 0 ++ littleEndianBytes 8 (8 * message.length)

/-- The `index`-th word of the `number`-th block. -/
def blockWords (bytes : Array UInt8) (number : Nat) : List UInt32 :=
  (List.range 16).map fun index =>
    let start := 64 * number + 4 * index
    littleEndian (bytes.extract start (start + 4)).toList

/-- The sixteen bytes of the digest. -/
def digest (message : List UInt8) : List UInt8 :=
  let bytes := (padded message).toArray
  let s := (List.range (bytes.size / 64)).foldl (fun s number => s.block (blockWords bytes number))
    State.initial
  [s.a, s.b, s.c, s.d].flatMap fun word => littleEndianBytes 4 word.toNat

end RouterMetrics.Digest.Md5
