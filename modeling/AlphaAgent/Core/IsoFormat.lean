import AlphaAgent.Core.Values

/-!
# Dates and times in ISO format

`date` and `time` of the standard library, as far as a calendar of days, the text
of a day and the reading of texts go. Texts are read as the interpreter of the
repository (Python 3.11) reads them: week dates, basic forms and UTC offsets are
accepted beside what `isoformat` writes. A text which raises `ValueError` reads
as nothing.
-/

namespace AlphaAgent

/-- The first and the last day of the calendar, 0001-01-01 and 9999-12-31. -/
def firstDay : Day := -719162

def lastDay : Day := 2932896

/-- `calendar.isleap`. -/
def isLeap (year : ℤ) : Bool := year % 4 = 0 && (year % 100 ≠ 0 || year % 400 = 0)

def daysInMonth (year month : ℤ) : ℤ :=
  if month = 2 then if isLeap year then 29 else 28
  else if month ∈ [4, 6, 9, 11] then 30
  else 31

/-- The months of a year. -/
def months : List ℤ := [1, 2, 3, 4, 5, 6, 7, 8, 9, 10, 11, 12]

namespace Day

/-- The day with a year, a month and a day of the month. -/
def ofCivil (year month day : ℤ) : Day :=
  let before := year - 1
  let daysBeforeYear := before * 365 + before / 4 - before / 100 + before / 400
  let daysBeforeMonth := ((months.filter (· < month)).map (daysInMonth year)).sum
  firstDay - 1 + daysBeforeYear + daysBeforeMonth + day

/-- `date(year, month, day)`. -/
def make (year month day : ℤ) : Option Day :=
  if 1 ≤ year ∧ year ≤ 9999 ∧ 1 ≤ month ∧ month ≤ 12 ∧ 1 ≤ day ∧ day ≤ daysInMonth year month then
    some (ofCivil year month day)
  else none

/-- `date.weekday()`, from 0 on a Monday. -/
def weekday (day : Day) : ℤ := (day + 3) % 7

/-- The month and the day of the month in which a day of the year falls. -/
def monthAndDay (year : ℤ) : List ℤ → ℤ → ℤ × ℤ
  | [], dayOfYear => (12, dayOfYear + 1)
  | month :: later, dayOfYear =>
    if dayOfYear < daysInMonth year month then (month, dayOfYear + 1)
    else monthAndDay year later (dayOfYear - daysInMonth year month)

/-- The year, the month and the day of the month: cycles of 400, 100, 4 years and
single years are counted off. -/
def civil (day : Day) : ℤ × ℤ × ℤ :=
  let sinceFirst := day - firstDay
  let ofCycle := sinceFirst % 146097
  let centuries := ofCycle / 36524
  let ofCentury := ofCycle % 36524
  let ofLeapCycle := ofCentury % 1461
  let years := ofLeapCycle / 365
  let year := sinceFirst / 146097 * 400 + centuries * 100 + ofCentury / 1461 * 4 + years + 1
  if years = 4 ∨ centuries = 4 then (year - 1, 12, 31)
  else (year, monthAndDay year months (ofLeapCycle % 365))

/-- `date.year`. -/
def year (day : Day) : ℤ := day.civil.1

/-- The last digits of a number. -/
def padded : ℕ → ℕ → List Char
  | 0, _ => []
  | width + 1, number => padded width (number / 10) ++ [Nat.digitChar (number % 10)]

/-- `date.isoformat()`. -/
def isoformat (day : Day) : String :=
  let (year, month, dayOfMonth) := day.civil
  String.ofList (padded 4 year.toNat ++ '-' :: padded 2 month.toNat ++
    '-' :: padded 2 dayOfMonth.toNat)

/-- The Monday of the first ISO week of a year. -/
def firstMonday (year : ℤ) : Day :=
  let newYear := ofCivil year 1 1
  let monday := newYear - weekday newYear
  if 3 < weekday newYear then monday + 7 else monday

/-- An ISO year has a week 53 if it begins on a Thursday, or on a Wednesday of a leap year. -/
def hasWeek53 (year : ℤ) : Bool :=
  weekday (ofCivil year 1 1) = 3 || (weekday (ofCivil year 1 1) = 2 && isLeap year)

/-- The day of an ISO year, week and weekday. -/
def ofIsoWeek (year week weekday : ℤ) : Option Day :=
  if (week ≤ 0 ∨ 53 ≤ week) ∧ ¬(week = 53 ∧ hasWeek53 year) then none
  else if weekday ≤ 0 ∨ 8 ≤ weekday then none
  else
    let day := firstMonday year + (week - 1) * 7 + weekday - 1
    if firstDay ≤ day ∧ day ≤ lastDay then some day else none

end Day

namespace IsoFormat

/-- The characters which a text has at the bytes of its encoding. Only ASCII is matched,
so for another character it only counts how many bytes it has. -/
def bytes (text : List Char) : List Char := text.flatMap fun c => List.replicate c.utf8Size c

/-- A number of so many digits, and what follows it. -/
def readDigits (value : ℕ) : ℕ → List Char → Option (ℕ × List Char)
  | 0, rest => some (value, rest)
  | count + 1, digit :: rest =>
    if digit.isDigit then readDigits (value * 10 + (digit.toNat - '0'.toNat)) count rest else none
  | _ + 1, [] => none

/-- What follows the dash, in a text which has dashes. -/
def afterDash (dashed : Bool) (text : List Char) : Option (List Char) :=
  if dashed then if text.head? = some '-' then some text.tail else none else some text

/-- A year and an ISO week, whose day is Monday when it is not given. -/
def readWeek (year : ℕ) (dashed : Bool) (text : List Char) : Option Day := do
  let (week, rest) ← readDigits 0 2 text
  if rest = [] then Day.ofIsoWeek year week 1
  else
    let (weekday, _) ← readDigits 0 1 (← afterDash dashed rest)
    Day.ofIsoWeek year week weekday

/-- `date.fromisoformat`, which does not look at what follows the day. -/
def readDate (text : List Char) : Option Day := do
  let encoded := bytes text
  if encoded.length ∈ [7, 8, 10] then
    let (year, rest) ← readDigits 0 4 encoded
    let dashed : Bool := rest.head? = some '-'
    let rest := if dashed then rest.tail else rest
    if rest.head? = some 'W' then readWeek year dashed rest.tail
    else
      let (month, rest) ← readDigits 0 2 rest
      let (day, _) ← readDigits 0 2 (← afterDash dashed rest)
      Day.make year month day
  else none

/-- What `fromisoformat` reads of a clock: its hours, minutes and seconds, as far as they
are there, its microseconds, and whether something is left over. -/
structure Clock where
  fields : List ℕ
  microsecond : ℕ := 0
  leftOver : Bool
deriving DecidableEq

/-- The end of a text, where the interpreter sees a NUL. -/
def terminator : Char := '\x00'

/-- Up to six digits of a fraction of a second; further digits are dropped. -/
def readFraction (next : Char) (fields : List ℕ) (text : List Char) : Option Clock := do
  let digits := min text.length 6
  let (value, rest) ← readDigits 0 digits text
  let dropped := rest.dropWhile Char.isDigit
  return ⟨fields, value * 10 ^ (6 - digits), (dropped.head?.getD next) ≠ terminator⟩

/-- A clock of so many more fields. `next` is the character after the text; the
character after the hours says whether colons are between the fields. -/
def readClock (next : Char) (colons : Option Bool) (fields : List ℕ) :
    ℕ → List Char → Option Clock
  | 0, text => readFraction next fields text
  | more + 1, text => do
    let (value, rest) ← readDigits 0 2 text
    let mark := rest.head?.getD next
    let separated := colons.getD (mark = ':')
    let fields := fields ++ [value]
    if rest.length ≤ 1 then return ⟨fields, 0, mark ≠ terminator⟩
    else if separated ∧ mark = ':' then readClock next (some separated) fields more rest.tail
    else if mark = '.' ∨ mark = ',' then readFraction next fields rest.tail
    else if ¬separated then readClock next (some separated) fields more rest
    else none

namespace Clock

variable (clock : Clock)

def hour : ℕ := clock.fields.getD 0 0
def minute : ℕ := clock.fields.getD 1 0
def second : ℕ := clock.fields.getD 2 0

/-- The seconds of a clock, without range checks. -/
def seconds : ℕ := clock.hour * 3600 + clock.minute * 60 + clock.second

end Clock
end IsoFormat

/-- A `time`: microseconds from midnight, and the UTC offset in microseconds when
the value is aware. -/
structure ClockTime where
  sinceMidnight : ℤ
  utcOffset : Option ℤ
deriving DecidableEq, Repr

namespace ClockTime

/-- A time without an offset. -/
def naive (sinceMidnight : ℤ) : ClockTime := ⟨sinceMidnight, none⟩

def isAware (time : ClockTime) : Bool := time.utcOffset.isSome

/-- `time(hour, minute, second, microsecond, tzinfo)`. -/
def make (clock : IsoFormat.Clock) (utcOffset : Option ℤ) : Option ClockTime :=
  if clock.hour ≤ 23 ∧ clock.minute ≤ 59 ∧ clock.second ≤ 59 then
    some ⟨clock.seconds * 1000000 + clock.microsecond, utcOffset⟩
  else none

end ClockTime

namespace IsoFormat

/-- A character with which the offset of a time begins. -/
def startsOffset (c : Char) : Bool := c = '+' || c = '-' || c = 'Z'

/-- The offset after its sign. An offset without seconds is UTC, whatever its fraction,
and one of a day or more is refused. -/
def readOffset (sign : ℤ) (text : List Char) : Option ℤ := do
  let clock ← readClock terminator none [] 3 text
  if clock.leftOver then none
  else
    let size : ℤ := clock.seconds * 1000000 + clock.microsecond
    if clock.seconds = 0 then some 0
    else if size < microsecondsPerDay then some (sign * size)
    else none

/-- `time.fromisoformat`. -/
def readTime (text : List Char) : Option ClockTime := do
  let encoded := bytes text
  let encoded := if encoded.head? = some 'T' then encoded.tail else encoded
  let offset := encoded.dropWhile (!startsOffset ·)
  let clock ← readClock (offset.head?.getD terminator) none [] 3
    (encoded.takeWhile (!startsOffset ·))
  match offset with
  | [] => if clock.leftOver then none else ClockTime.make clock none
  | 'Z' :: rest =>
    if rest.head?.getD terminator = terminator then ClockTime.make clock (some 0) else none
  | sign :: rest =>
    let size ← readOffset (if sign = '-' then -1 else 1) rest
    ClockTime.make clock (some size)

end IsoFormat
end AlphaAgent
