import RouterMetrics.Text.Base64
import RouterMetrics.Text.Case
import RouterMetrics.Yaml.Tag
import RouterMetrics.Yaml.Value

/-! Texts of scalars: what they stand for under their tags. -/

namespace RouterMetrics.Yaml

open RouterMetrics.Decimal (splitSign)

/-- The whole number that a text denotes in a base. -/
def wholeIn (base : Nat) (text : List Char) : Except Fault Int :=
  (Decimal.readIntegerIn base (String.ofList text)).mapError Fault.badInteger

/-- A number of parts, each of them worth sixty of the next. -/
def sixties (parts : List Int) : Int := parts.foldl (fun total part => total * 60 + part) 0

/-- The whole number that a text stands for; underscores in it mean nothing. -/
def readWhole (text : String) : Except Fault Int := do
  let (negative, unsigned) := splitSign (text.toList.filter (· != '_'))
  let magnitude ←
    match unsigned with
    | [] => throw .emptyNumber
    | ['0'] => pure 0
    | '0' :: 'b' :: digits => wholeIn 2 digits
    | '0' :: 'x' :: digits => wholeIn 16 digits
    | '0' :: _ => wholeIn 8 unsigned
    | _ =>
        if unsigned.contains ':' then
          pure (sixties (← (Text.partsAt ':' unsigned).mapM (wholeIn 10)))
        else wholeIn 10 unsigned
  return if negative then -magnitude else magnitude

/-- The double that a text denotes. -/
def readReal (text : List Char) : Except Fault Float :=
  match Decimal.readDouble? (String.ofList text) with
  | some value => .ok value
  | none => .error (.notNumber (String.ofList text))

/-- The sum of parts, each of them worth sixty of the one before; the least part comes first. -/
def sixtiesOfReals (worth : Nat) (total : Float) : List Float → Except Fault Float
  | [] => .ok total
  | part :: parts =>
      match Decimal.doubleOfNat? worth with
      | some factor => sixtiesOfReals (worth * 60) (total + part * factor) parts
      | none => .error .overflow

/-- What is no number, where the format's own word for it is written: the same everywhere. -/
def undefinedNumber : Scalar := .float Decimal.undefinedDouble 0

/-- The number that a text stands for; underscores in it mean nothing. -/
def readNumber (origin : Nat) (text : String) : Except Fault Scalar := do
  let lower := Text.lowercase (String.ofList (text.toList.filter (· != '_')))
  let (negative, unsigned) := splitSign lower.toList
  if unsigned == ".nan".toList then return undefinedNumber
  let magnitude ←
    if lower.isEmpty then throw .emptyNumber
    else if unsigned == ".inf".toList then readReal "inf".toList
    else if unsigned.contains ':' then do
      let parts ← (Text.partsAt ':' unsigned).mapM readReal
      sixtiesOfReals 1 (Decimal.nearestDouble false 0 1) parts.reverse
    else readReal unsigned
  return .float (if negative then -magnitude else magnitude) (origin + 1)

/-- The truth values of their words. -/
def flagValues : List (String × Bool) :=
  [("yes", true), ("no", false), ("true", true), ("false", false), ("on", true), ("off", false)]

/-- The truth value that a word stands for. -/
def readFlag (text : String) : Except Fault Bool :=
  match flagValues.lookup (Text.lowercase text) with
  | some value => .ok value
  | none => .error .notFlag

/-- The day or the time that a text stands for; a break at its end changes nothing. -/
def readTime (text : String) : Except Fault Scalar :=
  match readTime? true (Text.withoutFinalBreak text.toList) with
  | none => .error .notTime
  | some (.day date) =>
      match date.problem? with
      | some problem => .error (.impossibleTime problem)
      | none => .ok (.date date)
  | some (.time moment) =>
      match moment.problem? with
      | some problem => .error (.impossibleTime problem)
      | none => .ok (.moment moment)

/-- The bytes that a text in base 64 stands for. -/
def readBinary (text : String) : Except Fault (List UInt8) :=
  if text.toList.all fun c => c.toNat < 128 then
    match Text.readBase64? text.toList with
    | some bytes => .ok bytes
    | none => .error .malformed
  else .error .malformed

/-- The scalar of a text under a tag, which stands at some place of its document. -/
def scalarOf (tag : Tag) (place : Nat) (text : String) : Except Fault Scalar :=
  match tag with
  | .null => .ok .null
  | .bool => (readFlag text).map .bool
  | .int => (readWhole text).map .int
  | .float => readNumber place text
  | .text => .ok (.text text)
  | .binary => (readBinary text).map .bytes
  | .timestamp => readTime text
  | .list | .map | .set | .pairs | .merge | .value | .unknown => .error .malformed

end RouterMetrics.Yaml
