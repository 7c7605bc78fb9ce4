import Issuebook.Text.Basic
import Issuebook.Number.Binary64

/-!
# The calendar

Days of the Gregorian calendar, extended to all years from 1 to 9999. Day numbers count
from the first day of year 1; weeks begin on Monday, and the first week of a year is the one
with its first Thursday.
-/

namespace Issuebook

/-- A day of the calendar. -/
structure Date where
  /-- The year. -/
  year : Nat
  /-- The month, from one. -/
  month : Nat
  /-- The day of the month, from one. -/
  day : Nat
  deriving Repr, DecidableEq, Inhabited

namespace Date

/-- Whether a year has 366 days. -/
def isLeap (year : Nat) : Bool :=
  year % 4 == 0 && (year % 100 != 0 || year % 400 == 0)

/-- The number of days of a month; no such month has none. -/
def daysInMonth (year month : Nat) : Nat :=
  if month = 2 then if isLeap year then 29 else 28
  else if month ∈ [4, 6, 9, 11] then 30
  else if 1 ≤ month ∧ month ≤ 12 then 31
  else 0

/-- The number of days before a year. -/
def daysBeforeYear (year : Nat) : Nat :=
  let past := year - 1
  past * 365 + past / 4 - past / 100 + past / 400

/-- The number of days before a month in its year. -/
def daysBeforeMonth (year month : Nat) : Nat :=
  (List.range (month - 1)).foldl (fun days index => days + daysInMonth year (index + 1)) 0

/-- The day number of a date; the first day of year 1 has number 1. -/
def ordinal (date : Date) : Nat :=
  daysBeforeYear date.year + daysBeforeMonth date.year date.month + date.day

/-- The day of the week of a day number, Monday zero. -/
def weekday (ordinal : Nat) : Nat :=
  (ordinal + 6) % 7

/-- Whether the parts of a date name a day. -/
def isValid (date : Date) : Bool :=
  1 ≤ date.year && date.year ≤ 9999 && 1 ≤ date.day &&
    date.day ≤ daysInMonth date.year date.month

/-- The date of a day of a year, counted from zero; `month` is the first month to try. -/
def ofDayOfYear (year : Nat) : (months month index : Nat) → Date
  | 0, month, index => ⟨year, month, index + 1⟩
  | months + 1, month, index =>
    if index < daysInMonth year month then ⟨year, month, index + 1⟩
    else ofDayOfYear year months (month + 1) (index - daysInMonth year month)

/-- The date of a day number, by cycles of 400, 100, 4 and 1 years. -/
def ofOrdinal (ordinal : Nat) : Date :=
  let index := ordinal - 1
  let centuries := index % 146097 / 36524
  let rest := index % 146097 % 36524
  let years := rest % 1461 / 365
  let year := index / 146097 * 400 + centuries * 100 + rest / 1461 * 4 + years + 1
  if years = 4 ∨ centuries = 4 then ⟨year - 1, 12, 31⟩
  else ofDayOfYear year 11 1 (rest % 1461 % 365)

/-- The number of the Monday on which the first week of a year begins. -/
def firstMonday (year : Nat) : Nat :=
  let first := daysBeforeYear year + 1
  if weekday first ≤ 3 then first - weekday first else first + 7 - weekday first

/-- Whether a year has a fifty-third week. -/
def hasLongLastWeek (year : Nat) : Bool :=
  let first := weekday (daysBeforeYear year + 1)
  first == 3 || (first == 2 && isLeap year)

/-- The date of a day of a week of a year. -/
def ofWeek? (year week day : Nat) : Option Date :=
  if 1 ≤ year ∧ year ≤ 9999 ∧ 1 ≤ week ∧ (week ≤ 52 ∨ (week = 53 ∧ hasLongLastWeek year)) ∧
      1 ≤ day ∧ day ≤ 7 then
    some (ofOrdinal (firstMonday year + (week - 1) * 7 + (day - 1)))
  else none

/-- A date as year, month and day with dashes. -/
def toText (date : Date) : Text :=
  Text.padded 4 date.year ++ '-' :: Text.padded 2 date.month ++ '-' :: Text.padded 2 date.day

end Date

end Issuebook

/-!
## Time stamps

A day, a time of day and the distance from universal time. Stamps compare by the instant
they name.
-/

namespace Issuebook

/-- A time of day. -/
structure Clock where
  /-- The hour. -/
  hour : Nat
  /-- The minute. -/
  minute : Nat
  /-- The second. -/
  second : Nat
  /-- The millionths of a second. -/
  micro : Nat
  deriving Repr, DecidableEq, Inhabited

/-- Midnight. -/
def Clock.midnight : Clock := ⟨0, 0, 0, 0⟩

/-- Whether the parts of a clock name a time of day. -/
def Clock.isValid (clock : Clock) : Bool :=
  clock.hour < 24 && clock.minute < 60 && clock.second < 60 && clock.micro < 1000000

/-- A point in time as written. -/
structure Stamp where
  /-- The day. -/
  date : Date
  /-- The time of day. -/
  clock : Clock
  /-- Millionths of a second ahead of universal time. -/
  offset : Int
  deriving Repr, DecidableEq, Inhabited

namespace Stamp

/-- The millionths of a second in a day. -/
def dayMicros : Int := 86400000000

/-- The day number of the first of January 1970. -/
def epochDay : Int := 719163

/-- The instant of a stamp, in millionths of a second since 1970 in universal time. -/
def instant (stamp : Stamp) : Int :=
  ((stamp.date.ordinal : Int) - epochDay) * dayMicros +
    (((stamp.clock.hour * 60 + stamp.clock.minute) * 60 + stamp.clock.second) * 1000000 +
      stamp.clock.micro : Nat) - stamp.offset

/-- The stamp in universal time of an instant since 1970. -/
def ofInstant (micros : Nat) : Stamp :=
  let rest := micros % dayMicros.toNat
  let seconds := rest / 1000000
  { date := Date.ofOrdinal (epochDay.toNat + micros / dayMicros.toNat)
    clock := ⟨seconds / 3600, seconds / 60 % 60, seconds % 60, rest % 1000000⟩
    offset := 0 }

/-- The instant of a stamp in seconds, rounded to the nearest floating-point number. -/
def seconds (stamp : Stamp) : Binary64 :=
  Binary64.ofRatio (stamp.instant < 0) stamp.instant.natAbs 1000000

/-- Two digits behind a colon. -/
def colonPair (number : Nat) : Text :=
  ':' :: Text.padded 2 number

/-- Millionths of a second behind a point, none when there are none. -/
def microText (micro : Nat) : Text :=
  if micro = 0 then [] else '.' :: Text.padded 6 micro

/-- The distance from universal time: hours and minutes, and what is below them if any. -/
def offsetText (offset : Int) : Text :=
  let size := offset.natAbs
  let seconds := size / 1000000
  (if offset < 0 then '-' else '+') :: Text.padded 2 (seconds / 3600) ++
    colonPair (seconds / 60 % 60) ++
    (if seconds % 60 = 0 ∧ size % 1000000 = 0 then []
      else colonPair (seconds % 60) ++ microText (size % 1000000))

/-- A stamp with all its parts. -/
def toText (stamp : Stamp) : Text :=
  stamp.date.toText ++ 'T' :: Text.padded 2 stamp.clock.hour ++ colonPair stamp.clock.minute ++
    colonPair stamp.clock.second ++ microText stamp.clock.micro ++ offsetText stamp.offset

/-- A stamp in universal time to the second, with the letter of universal time. -/
def toZuluText (date : Date) (clock : Clock) : Text :=
  date.toText ++ 'T' :: Text.padded 2 clock.hour ++ colonPair clock.minute ++
    colonPair clock.second ++ ['Z']

end Stamp

end Issuebook
