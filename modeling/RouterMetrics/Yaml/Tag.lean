import RouterMetrics.Text.Split
import RouterMetrics.Yaml.Cursor

/-! Tags: what a node of a document stands for, as its tag says or as a plain scalar looks. -/

namespace RouterMetrics.Yaml

/-- What a node stands for. -/
inductive Tag where
  | null
  | bool
  | int
  | float
  | text
  | binary
  | timestamp
  | list
  | map
  | set
  | pairs
  /-- Entries of another mapping. -/
  | merge
  /-- The entry that stands for a whole mapping. -/
  | value
  | unknown
deriving Repr, DecidableEq

/-- What the names of the usual tags start with. -/
def usualTags : String := "tag:yaml.org,2002:"

/-- The tags that have names. -/
def namedTags : List (String × Tag) :=
  [("null", .null), ("bool", .bool), ("int", .int), ("float", .float), ("str", .text),
    ("binary", .binary), ("timestamp", .timestamp), ("seq", .list), ("map", .map), ("set", .set),
    ("omap", .pairs), ("pairs", .pairs), ("merge", .merge), ("value", .value)]

/-- The tag with a full name. -/
def Tag.ofName (name : String) : Tag :=
  ((namedTags.map fun named => (usualTags ++ named.1, named.2)).lookup name).getD .unknown

/-- One of ten plain digits. -/
def isPlainDigit (c : Char) : Bool := '0' ≤ c && c ≤ '9'

/-- A digit, or an underscore that parts digits. -/
def isSpacedDigit (c : Char) : Bool := isPlainDigit c || c == '_'

/-- The text after a sign, if it starts with one. -/
def dropSign : List Char → List Char
  | c :: rest => if c == '-' || c == '+' then rest else c :: rest
  | [] => []

/-- Whether a text is a class's characters only, and at least one. -/
def isRunOf (test : Char → Bool) (text : List Char) : Bool := !text.isEmpty && text.all test

/-- Whether a text is empty or an exponent with a sign. -/
def isExponentOrNone : List Char → Bool
  | [] => true
  | e :: sign :: digits =>
      (e == 'e' || e == 'E') && (sign == '-' || sign == '+') && isRunOf isPlainDigit digits
  | _ => false

/-- Whether a text is one or two digits below sixty. -/
def isSixtieth : List Char → Bool
  | [a] => isPlainDigit a
  | [a, b] => '0' ≤ a && a ≤ '5' && isPlainDigit b
  | _ => false

/-- Whether a text is a number and sixtieths after it, between colons. -/
def isSexagesimal (leading : Char → Bool) (text : List Char) : Bool :=
  match Text.partsAt ':' text with
  | (first :: digits) :: sixtieths =>
      leading first && digits.all isSpacedDigit && !sixtieths.isEmpty && sixtieths.all isSixtieth
  | _ => false

/-- Whether a text without its sign looks like a whole number. -/
def looksWhole (unsigned : List Char) : Bool :=
  match unsigned with
  | ['0'] => true
  | '0' :: 'b' :: digits => isRunOf (fun c => c == '0' || c == '1' || c == '_') digits
  | '0' :: 'x' :: digits => isRunOf (fun c => (Text.hexValue? c).isSome || c == '_') digits
  | '0' :: digits => isRunOf (fun c => ('0' ≤ c && c ≤ '7') || c == '_') digits
  | c :: digits =>
      let leads := fun c => '1' ≤ c && c ≤ '9'
      (leads c && digits.all isSpacedDigit) || isSexagesimal leads unsigned
  | [] => false

/-- Whether a text looks like a number with a point. -/
def looksPointed (text : List Char) : Bool :=
  let unsigned := dropSign text
  let whole := unsigned.takeWhile (· != '.')
  let fraction := (unsigned.drop (whole.length + 1)).takeWhile isSpacedDigit
  let rest := unsigned.drop (whole.length + 1 + fraction.length)
  let pointed := whole.length < unsigned.length
  match whole with
  | [] =>
      -- A number that starts with its point has no sign.
      pointed && text.head? == some '.' && fraction.head?.any isPlainDigit && isExponentOrNone rest
  | first :: digits =>
      pointed &&
        ((isPlainDigit first && digits.all isSpacedDigit && isExponentOrNone rest) ||
          (isSexagesimal isPlainDigit whole && rest.isEmpty))

/-- The words for an infinite number, which may have a sign, and those for no number. -/
def infiniteWords : List String := [".inf", ".Inf", ".INF"]
def undefinedWords : List String := [".nan", ".NaN", ".NAN"]

/-- Whether a text looks like a number that need not be whole. -/
def looksReal (text : List Char) : Bool :=
  looksPointed text || infiniteWords.contains (String.ofList (dropSign text)) ||
    undefinedWords.contains (String.ofList text)

/-- The words for truth values. -/
def flagWords : List String :=
  ["yes", "Yes", "YES", "no", "No", "NO", "true", "True", "TRUE", "false", "False", "FALSE",
    "on", "On", "ON", "off", "Off", "OFF"]

/-- The words for nothing. -/
def nullWords : List String := ["", "~", "null", "Null", "NULL"]

end RouterMetrics.Yaml
