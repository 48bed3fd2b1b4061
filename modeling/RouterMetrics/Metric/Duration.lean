import RouterMetrics.Text.DecimalDigit

/-! Durations as devices write them: numbers with the marks of their units, from weeks down. -/

namespace RouterMetrics.Metric

open RouterMetrics.Text

/-- A unit of time with a mark of its own. -/
inductive TimeUnit where
  | week
  | day
  | hour
  | minute
  | second
  | millisecond
deriving Repr, DecidableEq

namespace TimeUnit

/-- The units in the order in which a duration may use them. -/
def all : List TimeUnit := [week, day, hour, minute, second, millisecond]

/-- What follows the number of a unit. -/
def mark : TimeUnit → List Char
  | week => ['w']
  | day => ['d']
  | hour => ['h']
  | minute => ['m']
  | second => ['s']
  | millisecond => ['m', 's']

end TimeUnit

/-- The digits of one unit of a duration. -/
structure TimeGroup where
  unit : TimeUnit
  digits : List Nat
deriving Repr, DecidableEq

/-- Whether the text after a number starts with the mark of a unit. -/
def startsWithMark (unit : TimeUnit) (text : List Char) : Bool :=
  unit.mark.isPrefixOf text &&
    -- The mark of minutes is also the first letter of that of milliseconds.
    !(unit == .minute && TimeUnit.millisecond.mark.isPrefixOf text)

/-- The group of a unit at the start of a text, if it is there, and the rest. -/
def splitGroup (unit : TimeUnit) (text : List Char) : Option TimeGroup × List Char :=
  let digits := text.takeWhile isDecimalDigit
  let rest := text.drop digits.length
  if !digits.isEmpty && startsWithMark unit rest then
    (some ⟨unit, digits.filterMap digitValue?⟩, rest.drop unit.mark.length)
  else (none, text)

/-- The groups of units at the start of a text, each at most once and in order, and the rest. -/
def splitGroups : List TimeUnit → List Char → List TimeGroup × List Char
  | [], text => ([], text)
  | unit :: units, text =>
      let (group, rest) := splitGroup unit text
      let (groups, rest) := splitGroups units rest
      (group.toList ++ groups, rest)

/-- The groups of a duration; a line break may stand at its end. -/
def durationGroups? (text : List Char) : Option (List TimeGroup) :=
  let (groups, rest) := splitGroups TimeUnit.all text
  if !text.isEmpty && (rest.isEmpty || rest == ['\n']) then some groups else none

end RouterMetrics.Metric
