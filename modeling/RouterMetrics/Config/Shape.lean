import RouterMetrics.Yaml.Value

/-! Shapes: values read as texts and numbers, and what keeps them from being read. -/

namespace RouterMetrics.Config

open RouterMetrics.Yaml (Value)

/-- Why a value cannot be read as what it should be. -/
inductive ShapeFault where
  /-- A number with too many digits to be written out. -/
  | longNumber
  /-- A value that has no items. -/
  | noItems
  /-- An item that should be a pair and has another length. -/
  | notPair (index length : Nat)
  /-- A collection as a key. -/
  | collectionKey
  /-- A value that should be a map and is none. -/
  | notMap
  /-- A key that is not a text. -/
  | notTextKey
  | badInteger (fault : Decimal.IntegerFault)
  | badBytes (bytes : List UInt8)
  /-- A float that stands for no number. -/
  | undefinedNumber
  | infiniteNumber
  /-- A value that is neither a number nor a text. -/
  | notNumber
deriving Repr, DecidableEq

/-- The wording of a fault. -/
def ShapeFault.message : ShapeFault → String
  | longNumber =>
      s!"Exceeds the limit ({Decimal.digitLimit} digits) for integer string conversion; " ++
        "use sys.set_int_max_str_digits() to increase the limit"
  | noItems => "a value without items where a list is expected"
  | notPair index length =>
      s!"dictionary update sequence element #{index} has length {length}; 2 is required"
  | collectionKey => "a collection as a key"
  | notMap => "a mapping is expected"
  | notTextKey => "a key that is not a text"
  | badInteger fault => fault.message
  | badBytes bytes => Decimal.notWholeMessage 10 (Text.quotedBytes bytes)
  | undefinedNumber => "cannot convert float NaN to integer"
  | infiniteNumber => "cannot convert float infinity to integer"
  | notNumber => "a value that is neither a number nor a text"

/-- Whether a fault is one that configurations are known to have. -/
def ShapeFault.isForeseen : ShapeFault → Bool
  | longNumber | notPair .. | badInteger _ | badBytes _ | undefinedNumber => true
  | noItems | collectionKey | notMap | notTextKey | infiniteNumber | notNumber => false

/-- A value read as something else. -/
abbrev Shaped := Except ShapeFault

/-- The text of a value. -/
def textOf (value : Value) : Shaped String :=
  match value.text? with
  | some text => .ok text
  | none => .error .longNumber

/-- The number in bytes, which are read as the text of their characters. -/
def integerOfBytes (bytes : List UInt8) : Shaped Int :=
  if bytes.all (· < 128) then
    match Decimal.readInteger (String.ofList (bytes.map fun byte => Char.ofNat byte.toNat)) with
    | .ok value => .ok value
    | .error (.malformed _ _) => .error (.badBytes bytes)
    | .error fault => .error (.badInteger fault)
  else .error (.badBytes bytes)

/-- The whole number of a double: its fraction is dropped. -/
def integerOfFloat (value : Float) : Shaped Int :=
  match Decimal.truncated? value with
  | some whole => .ok whole
  | none =>
      match Decimal.extentOfBits (Decimal.bitsOf value) with
      | .undefined => .error .undefinedNumber
      | _ => .error .infiniteNumber

/-- The whole number that a value stands for. -/
def integerOf : Value → Shaped Int
  | .scalar (.bool value) => .ok (if value then 1 else 0)
  | .scalar (.int value) => .ok value
  | .scalar (.float value _) => integerOfFloat value
  | .scalar (.text text) => (Decimal.readInteger text).mapError ShapeFault.badInteger
  | .scalar (.bytes bytes) => integerOfBytes bytes
  | _ => .error .notNumber

end RouterMetrics.Config
