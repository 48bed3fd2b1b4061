import RouterMetrics.Decimal.Numeral
import RouterMetrics.Metric.Duration

/-! Converters from the text of an attribute to the value of a metric. -/

namespace RouterMetrics.Metric

open RouterMetrics.Text

/-- Why a text gives no sample. -/
inductive ValueFault where
  | notNumber (text : String)
  | badInteger (fault : Decimal.IntegerFault)
  | badDuration (text : String)
  | emptyPair
  | emptySeparator
  | notPair (text : String)
  | badPair (text : String) (cause : ValueFault)
  /-- The value of an attribute that holds one number. -/
  | badProperty (text property : String) (cause : ValueFault)
  /-- The value of an attribute that holds two numbers. -/
  | badPairProperty (text property : String) (cause : ValueFault)
  /-- A sample whose label values do not match the label names. -/
  | labelCount (name : String) (got wanted : Nat)
  /-- A reason in a converter's own words. -/
  | reason (text : String)
deriving Repr, DecidableEq

/-- The wording of a fault. -/
def ValueFault.message : ValueFault → String
  | notNumber text => "could not convert string to float: " ++ quoted text
  | badInteger fault => fault.message
  | badDuration text => "invalid duration value: " ++ quoted text
  | emptyPair => "empty value"
  | emptySeparator => "empty separator"
  | notPair text => "can't split " ++ quoted text ++ " to floats"
  | badPair text cause => "parse " ++ quoted text ++ " error: " ++ cause.message
  | badProperty text property cause =>
      "parse " ++ quoted text ++ " for property " ++ property ++ " error: " ++ cause.message
  | badPairProperty text property cause =>
      "collect " ++ quoted text ++ " for property " ++ property ++ " error: " ++ cause.message
  | labelCount name got wanted => s!"{name}: got {got} label values for {wanted} labels"
  | reason text => text

/-- Why a converter gives no value. -/
inductive ConversionFault where
  | rejected (fault : ValueFault)
  /-- A number beyond the range of doubles. -/
  | overflow
deriving Repr, DecidableEq

/-- A function from the text of an attribute to a value. -/
abbrev Converter := String → Except ConversionFault Float

/-- A function from the text of an attribute to two values. -/
abbrev PairConverter := String → Except ConversionFault (Float × Float)

/-- The number that a text denotes. -/
def numberValue : Converter := fun text =>
  match Decimal.readDouble? text with
  | some value => .ok value
  | none => .error (.rejected (.notNumber text))

/-- One for a yes, zero for anything else. -/
def flagValue : Converter := fun text =>
  .ok (if text == "true" || text == "yes" then 1.0 else 0.0)

/-- One for every text. -/
def constantValue : Converter := fun _ => .ok 1.0

/-- One for a link that is up, zero for anything else. -/
def linkStatusValue : Converter := fun text =>
  .ok (if text == "link-ok" then 1.0 else 0.0)

/-- The rates of links in megabits a second. -/
def linkRates : List (String × Nat) :=
  [("10Mbps", 10), ("100Mbps", 100), ("1Gbps", 1000), ("2.5Gbps", 2500), ("5Gbps", 5000),
    ("10Gbps", 10000), ("25Gbps", 25000), ("40Gbps", 40000), ("50Gbps", 50000),
    ("100Gbps", 100000)]

/-- The rate of a link, zero for an unknown one. -/
def rateValue : Converter := fun text =>
  .ok (Decimal.nearestDouble false ((linkRates.lookup text).getD 0) 1)

/-- The double of a natural number within their range. -/
def checkedDouble (n : Nat) : Except ConversionFault Float :=
  match Decimal.doubleOfNat? n with
  | some value => .ok value
  | none => .error .overflow

/-- The number with these digits, if they are not too many. -/
def checkedInteger (digits : List Nat) : Except ConversionFault Nat :=
  if Decimal.digitLimit < digits.length then
    .error (.rejected (.badInteger (.tooManyDigits digits.length)))
  else .ok (Decimal.ofDigits 10 digits)

/-- How many seconds a unit has; a millisecond has less than one. -/
def TimeUnit.seconds? : TimeUnit → Option Nat
  | week => some 604800
  | day => some 86400
  | hour => some 3600
  | minute => some 60
  | second => some 1
  | millisecond => none

/-- The seconds of one group: whole units are exact until they become a double. -/
def TimeGroup.value (group : TimeGroup) : Except ConversionFault Float := do
  let count ← checkedInteger group.digits
  match group.unit.seconds? with
  | some seconds => checkedDouble (count * seconds)
  | none => return (← checkedDouble count) * Decimal.nearestDouble false 1 1000

/-- The seconds of a duration, added up from weeks to milliseconds. -/
def durationValue : Converter := fun text =>
  match durationGroups? text.toList with
  | none => .error (.rejected (.badDuration text))
  | some groups => groups.foldlM (fun total group => return total + (← group.value)) 0.0

/-- The text before the first separator and the text after it. -/
def splitAtSeparator (separator : List Char) : List Char → Option (List Char × List Char)
  | [] => none
  | c :: rest =>
      if separator.isPrefixOf (c :: rest) then some ([], (c :: rest).drop separator.length)
      else (splitAtSeparator separator rest).map fun parts => (c :: parts.1, parts.2)

/-- The first two parts of a text between separators. -/
def firstTwoParts? (separator text : List Char) : Option (String × String) :=
  (splitAtSeparator separator text).map fun (first, rest) =>
    let second := ((splitAtSeparator separator rest).map Prod.fst).getD rest
    (String.ofList first, String.ofList second)

/-- The number that one half of a pair denotes. -/
def pairHalf (text half : String) : Except ConversionFault Float :=
  match numberValue half with
  | .error (.rejected fault) => .error (.rejected (.badPair text fault))
  | other => other

/-- The two numbers before and after the first separator; what follows a second one is ignored. -/
def pairValue (separator : String) : PairConverter := fun text =>
  if text.isEmpty then .error (.rejected .emptyPair)
  else if separator.isEmpty then .error (.rejected .emptySeparator)
  else
    match firstTwoParts? separator.toList text.toList with
    | none => .error (.rejected (.notPair text))
    | some (first, second) => do
        return (← pairHalf text first, ← pairHalf text second)

/-- Two numbers between commas. -/
def commaPair : PairConverter := pairValue ","

/-- Two numbers between slashes. -/
def slashPair : PairConverter := pairValue "/"

/-- A host name without the quotation marks around it and with escapes for foreign characters. -/
def hostName (text : String) : String :=
  let chars := text.toList
  let bare :=
    if 1 < chars.length && chars.head? == some doubleMark && chars.getLast? == some doubleMark then
      (chars.drop 1).dropLast
    else chars
  String.ofList (escapedToPlain bare)

end RouterMetrics.Metric
