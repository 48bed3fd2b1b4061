import RouterMetrics.Text.Quoted

/-! The Windows-1250 code page: one byte for each character of a Central European text. -/

namespace RouterMetrics.Text.CodePage

/-- The code points of the bytes from 80 to FF; a zero stands for a byte without a character. -/
def upperHalf : List Nat :=
  [0x20AC, 0x0, 0x201A, 0x0, 0x201E, 0x2026, 0x2020, 0x2021, 0x0, 0x2030, 0x160, 0x2039, 0x15A,
   0x164, 0x17D, 0x179, 0x0, 0x2018, 0x2019, 0x201C, 0x201D, 0x2022, 0x2013, 0x2014, 0x0, 0x2122,
   0x161, 0x203A, 0x15B, 0x165, 0x17E, 0x17A, 0xA0, 0x2C7, 0x2D8, 0x141, 0xA4, 0x104, 0xA6, 0xA7,
   0xA8, 0xA9, 0x15E, 0xAB, 0xAC, 0xAD, 0xAE, 0x17B, 0xB0, 0xB1, 0x2DB, 0x142, 0xB4, 0xB5, 0xB6,
   0xB7, 0xB8, 0x105, 0x15F, 0xBB, 0x13D, 0x2DD, 0x13E, 0x17C, 0x154, 0xC1, 0xC2, 0x102, 0xC4,
   0x139, 0x106, 0xC7, 0x10C, 0xC9, 0x118, 0xCB, 0x11A, 0xCD, 0xCE, 0x10E, 0x110, 0x143, 0x147,
   0xD3, 0xD4, 0x150, 0xD6, 0xD7, 0x158, 0x16E, 0xDA, 0x170, 0xDC, 0xDD, 0x162, 0xDF, 0x155,
   0xE1, 0xE2, 0x103, 0xE4, 0x13A, 0x107, 0xE7, 0x10D, 0xE9, 0x119, 0xEB, 0x11B, 0xED, 0xEE,
   0x10F, 0x111, 0x144, 0x148, 0xF3, 0xF4, 0x151, 0xF6, 0xF7, 0x159, 0x16F, 0xFA, 0x171, 0xFC,
   0xFD, 0x163, 0x2D9]

/-- The character that stands for what has none. -/
def replacement : Char := Char.ofNat 0xFFFD

/-- The character of a byte, if it has one. -/
def charOfByte? (byte : UInt8) : Option Char :=
  if byte.toNat < 0x80 then some (Char.ofNat byte.toNat)
  else
    match upperHalf[byte.toNat - 0x80]? with
    | some 0 | none => none
    | some code => some (Char.ofNat code)

/-- The byte of a character, if it has one. -/
def byteOfChar? (c : Char) : Option UInt8 :=
  if c.toNat < 0x80 then some (UInt8.ofNat c.toNat)
  else (upperHalf.findIdx? (· == c.toNat)).map fun index => UInt8.ofNat (0x80 + index)

/-- A text read from bytes; a byte without a character becomes the replacement character. -/
def decode (bytes : List UInt8) : String :=
  String.ofList (bytes.map fun byte => (charOfByte? byte).getD replacement)

/-- The first run of characters without a byte: where it starts, and the run itself. -/
structure Unencodable where
  start : Nat
  first : Char
  others : List Char
deriving Repr, DecidableEq

/-- The first run of characters without a byte, given the number of characters before. -/
def firstUnencodable? : Nat → List Char → Option Unencodable
  | _, [] => none
  | start, c :: rest =>
      if (byteOfChar? c).isSome then firstUnencodable? (start + 1) rest
      else some ⟨start, c, rest.takeWhile fun d => (byteOfChar? d).isNone⟩

/-- The bytes of a text whose characters all have one. -/
def encode (text : String) : Except Unencodable (List UInt8) :=
  match firstUnencodable? 0 text.toList with
  | some run => .error run
  | none => .ok (text.toList.filterMap byteOfChar?)

/-- What is wrong with a text that cannot be encoded. -/
def Unencodable.message (run : Unencodable) : String :=
  match run.others with
  | [] =>
      let mark := String.ofList [singleMark]
      let code := String.ofList (codeEscape run.first.toNat)
      s!"'charmap' codec can't encode character {mark}{code}{mark} in position {run.start}" ++
        ": character maps to <undefined>"
  | others =>
      let last := run.start + others.length
      s!"'charmap' codec can't encode characters in position {run.start}-{last}" ++
        ": character maps to <undefined>"

end RouterMetrics.Text.CodePage
