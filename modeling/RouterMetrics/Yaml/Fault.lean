import RouterMetrics.Decimal.Numeral

/-! What can be wrong with a document. -/

namespace RouterMetrics.Yaml

/-- Why a text is not a document, or why a scalar in it has no value. -/
inductive Fault where
  /-- The text breaks a rule of the format, or a tag does not fit what it stands at. -/
  | malformed
  /-- An escape names a code beyond all characters. -/
  | badCode (code : Nat)
  /-- A whole number without digits. -/
  | emptyNumber
  | badInteger (fault : Decimal.IntegerFault)
  | notNumber (text : String)
  /-- A number beyond the range of doubles. -/
  | overflow
  /-- A text that is tagged as a truth value and is none. -/
  | notFlag
  /-- A text that is tagged as a time and is none. -/
  | notTime
  /-- A mapping that is tagged as a time. -/
  | notTimeText
  /-- A time that no calendar has. -/
  | impossibleTime (problem : String)
  /-- Collections stand too deep within others, or a mapping's text is sought without end. -/
  | tooDeep
  /-- The text cannot be read up to its end. -/
  | cutOff
deriving Repr, DecidableEq

/-- The wording of a fault. -/
def Fault.message : Fault → String
  | malformed => "not a document"
  | badCode _ => "chr() arg not in range(0x110000)"
  | emptyNumber => "a number without digits"
  | badInteger fault => fault.message
  | notNumber text => "could not convert string to float: " ++ Text.quoted text
  | overflow => "int too large to convert to float"
  | notFlag => "not a truth value"
  | notTime => "not a time"
  | notTimeText => "a mapping in place of a time"
  | impossibleTime problem => problem
  | tooDeep => "too deep"
  | cutOff => "not read to the end"

/-- Codes from here on are not even looked at as characters. -/
def codeLimit : Nat := 0x80000000

/-- Whether a fault is one that documents are known to have. -/
def Fault.isForeseen : Fault → Bool
  | malformed | badInteger _ | notNumber _ | impossibleTime _ => true
  | badCode code => code < codeLimit
  | cutOff => true
  | emptyNumber | overflow | notFlag | notTime | notTimeText | tooDeep => false

end RouterMetrics.Yaml
