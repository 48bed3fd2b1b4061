import RouterMetrics.Text.CharRange

/-! Blank characters and the trimming of texts. -/

namespace RouterMetrics.Text

/-- White space of any script, the four information separators included. -/
def blankRanges : List (Nat × Nat) :=
  [(0x9, 0xD), (0x1C, 0x20), (0x85, 0x85), (0xA0, 0xA0), (0x1680, 0x1680), (0x2000, 0x200A),
    (0x2028, 0x2029), (0x202F, 0x202F), (0x205F, 0x205F), (0x3000, 0x3000)]

/-- Whether a character is white space. -/
def isBlank (c : Char) : Bool :=
  inRanges blankRanges c.toNat

/-- White space among the first 128 characters: a space or one of the five layout controls. -/
def isPlainBlank (c : Char) : Bool :=
  c.toNat == 32 || (9 ≤ c.toNat && c.toNat ≤ 13)

/-- The text between the first and the last character that the class does not hold of. -/
def trimWhile (drop : Char → Bool) (text : List Char) : List Char :=
  ((text.dropWhile drop).reverse.dropWhile drop).reverse

/-- The text without the white space at its two ends. -/
def trimmed (text : String) : String :=
  String.ofList (trimWhile isBlank text.toList)

end RouterMetrics.Text
