import RouterMetrics.Decimal.Notation
import RouterMetrics.Yaml.Tag

/-! Moments: days of the calendar, and times on them with or without a zone. -/

namespace RouterMetrics.Yaml

/-- A day of the calendar. -/
structure Date where
  year : Nat
  month : Nat
  day : Nat
deriving Repr, DecidableEq

/-- A time on a day, and how many minutes its zone is ahead of the common time, if it has one. -/
structure Moment where
  date : Date
  hour : Nat
  minute : Nat
  second : Nat
  microsecond : Nat
  offset : Option Int
deriving Repr, DecidableEq

namespace Date

/-- Whether a year has a day more. -/
def isLeap (year : Nat) : Bool := year % 4 == 0 && (year % 100 != 0 || year % 400 == 0)

/-- The days of a month. -/
def daysIn (year month : Nat) : Nat :=
  match month with
  | 2 => if isLeap year then 29 else 28
  | 4 | 6 | 9 | 11 => 30
  | _ => 31

/-- What is wrong with a day that no calendar has. -/
def problem? (date : Date) : Option String :=
  if date.year = 0 then some "year 0 is out of range"
  else if date.month < 1 ∨ 12 < date.month then some "month must be in 1..12"
  else if date.day < 1 ∨ daysIn date.year date.month < date.day then
    some "day is out of range for month"
  else none

/-- The number of a day, counted from the first day of the first year. -/
def ordinal (date : Date) : Nat :=
  let years := date.year - 1
  let months := (List.range' 1 (date.month - 1)).map (daysIn date.year)
  365 * years + years / 4 - years / 100 + years / 400 + months.foldl (· + ·) date.day

/-- The text of a day: year, month and day with hyphens between them. -/
def text (date : Date) : String :=
  let part := fun width n => String.ofList (Decimal.paddedNatural width n)
  part 4 date.year ++ "-" ++ part 2 date.month ++ "-" ++ part 2 date.day

/-- The description of a day within a collection. -/
def description (date : Date) : String := s!"datetime.date({date.year}, {date.month}, {date.day})"

end Date

/-- The minutes of a day. -/
def dayMinutes : Int := 1440

/-- The description of a length of time in minutes: whole days, and the seconds above them. -/
def intervalDescription (minutes : Int) : String :=
  let days := minutes.fdiv dayMinutes
  let seconds := minutes.fmod dayMinutes * 60
  let parts :=
    (if days = 0 then [] else ["days=" ++ Decimal.integerText days]) ++
      (if seconds = 0 then [] else ["seconds=" ++ Decimal.integerText seconds])
  "datetime.timedelta(" ++ (if parts.isEmpty then "0" else ", ".intercalate parts) ++ ")"

namespace Moment

/-- What is wrong with a time that no clock shows. -/
def problem? (moment : Moment) : Option String :=
  let badZone :=
    moment.offset.bind fun minutes =>
      if minutes.natAbs < dayMinutes.natAbs then none
      else
        some ("offset must be a timedelta strictly between -timedelta(hours=24) and " ++
          "timedelta(hours=24), not " ++ intervalDescription minutes ++ ".")
  let badClock :=
    if 23 < moment.hour then some "hour must be in 0..23"
    else if 59 < moment.minute then some "minute must be in 0..59"
    else if 59 < moment.second then some "second must be in 0..59"
    else none
  badZone <|> moment.date.problem? <|> badClock

/-- The microseconds of a moment in its own zone. -/
def localTicks (moment : Moment) : Nat :=
  (((moment.date.ordinal * 24 + moment.hour) * 60 + moment.minute) * 60 + moment.second) * 1000000 +
    moment.microsecond

/-- The text of a zone. -/
def zoneText (minutes : Int) : String :=
  let part := fun n => String.ofList (Decimal.paddedNatural 2 n)
  (if minutes < 0 then "-" else "+") ++ part (minutes.natAbs / 60) ++ ":" ++
    part (minutes.natAbs % 60)

/-- The text of a moment; a fraction of a second is given only if there is one. -/
def text (moment : Moment) : String :=
  let part := fun width n => String.ofList (Decimal.paddedNatural width n)
  let fraction := if moment.microsecond = 0 then "" else "." ++ part 6 moment.microsecond
  moment.date.text ++ " " ++ part 2 moment.hour ++ ":" ++ part 2 moment.minute ++ ":" ++
    part 2 moment.second ++ fraction ++ (moment.offset.map zoneText).getD ""

/-- The description of a zone within a collection. -/
def zoneDescription (minutes : Int) : String :=
  if minutes = 0 then "datetime.timezone.utc"
  else "datetime.timezone(" ++ intervalDescription minutes ++ ")"

/-- The description of a moment within a collection; zeros at its end are left out. -/
def description (moment : Moment) : String :=
  let date := moment.date
  let small := if moment.microsecond = 0 then [] else [moment.microsecond]
  let smaller := if moment.second = 0 && small.isEmpty then [] else moment.second :: small
  let numbers := date.year :: date.month :: date.day :: moment.hour :: moment.minute :: smaller
  let zone := (moment.offset.map fun minutes => "tzinfo=" ++ zoneDescription minutes).toList
  "datetime.datetime(" ++
    ", ".intercalate (numbers.map (fun (n : Nat) => Decimal.integerText n) ++ zone) ++ ")"

end Moment

/-- A day or a time, as it is written. -/
inductive TimeText where
  | day (date : Date)
  | time (moment : Moment)

/-- Reads a number of a least and a most number of digits, and the text after it. -/
def readDigits (least most : Nat) (text : List Char) : Option (Nat × List Char) :=
  let digits := (text.take most).takeWhile isPlainDigit
  if digits.length < least then none
  else some (Decimal.ofDigits 10 (digits.map fun c => c.toNat - 48), text.drop digits.length)

/-- Reads a character that has to be there. -/
def readMark (mark : Char) : List Char → Option (List Char)
  | [] => none
  | c :: rest => if c == mark then some rest else none

/-- Reads the fraction of a second in microseconds. -/
def readFraction (text : List Char) : Nat × List Char :=
  match readMark '.' text with
  | none => (0, text)
  | some rest =>
      let digits := rest.takeWhile isPlainDigit
      let filled := (digits ++ List.replicate 6 '0').take 6
      (Decimal.ofDigits 10 (filled.map fun c => c.toNat - 48), rest.drop digits.length)

/-- Reads a zone up to the end of the text. -/
def readZone (text : List Char) : Option (Option Int) := do
  if text.isEmpty then return none
  match text.dropWhile isInline with
  | ['Z'] => return some 0
  | sign :: rest =>
      guard (sign == '+' || sign == '-')
      let (hours, rest) ← readDigits 1 2 rest
      let (minutes, rest) ←
        if rest.isEmpty then some (0, []) else readMark ':' rest >>= readDigits 2 2
      guard rest.isEmpty
      let offset : Int := hours * 60 + minutes
      return some (if sign == '-' then -offset else offset)
  | [] => none

/-- Reads what stands between a day and the time on it. -/
def readDayEnd : List Char → Option (List Char)
  | [] => none
  | c :: rest =>
      if c == 'T' || c == 't' then some rest
      else if isInline c then some (rest.dropWhile isInline)
      else none

/-- Reads a day or a time; numbers of less than two digits are accepted if this is asked for. -/
def readTime? (lenient : Bool) (text : List Char) : Option TimeText := do
  let (year, rest) ← readDigits 4 4 text
  let monthText ← readMark '-' rest
  let (month, rest) ← readDigits 1 2 monthText
  let dayText ← readMark '-' rest
  let (day, rest) ← readDigits 1 2 dayText
  let date : Date := ⟨year, month, day⟩
  if rest.isEmpty then
    -- A day alone is told from other texts by its ten characters.
    guard (lenient || text.length == 10)
    return .day date
  let rest ← readDayEnd rest
  let (hour, rest) ← readDigits 1 2 rest
  let (minute, rest) ← readMark ':' rest >>= readDigits 2 2
  let (second, rest) ← readMark ':' rest >>= readDigits 2 2
  let (microsecond, rest) := readFraction rest
  let offset ← readZone rest
  return .time ⟨date, hour, minute, second, microsecond, offset⟩

end RouterMetrics.Yaml
