/-
Points of time in the universal time zone, and their written form of RFC 3339.

* `Date`, `Date.ofDays`, `Date.days`: dates of the Gregorian calendar and their numbers of days;
* `Timestamp`: a second with a fraction, which reaches beyond one second in a leap second;
* `Timestamp.text`, `Timestamp.secondsText`: the written form, with and without a fraction.
-/
import SchemaDesigner.Decimal.Digits

namespace SchemaDesigner

/-- A date of the Gregorian calendar, extended to all years. -/
structure Date where
  year : Int
  month : Nat
  day : Nat
  deriving DecidableEq, Repr

namespace Date

/-- Whether a year has a 29th of February. -/
def isLeapYear (year : Int) : Bool :=
  year % 4 == 0 && (year % 100 != 0 || year % 400 == 0)

/-- The number of days of a month. -/
def daysInMonth (year : Int) (month : Nat) : Nat :=
  match month with
  | 2 => if isLeapYear year then 29 else 28
  | 4 | 6 | 9 | 11 => 30
  | _ => 31

/-- The years that a date may have. -/
def yearInRange (year : Int) : Bool :=
  -262143 ≤ year && year ≤ 262142

/-- Whether there is such a day, in a year that a date may have. -/
def isValid (d : Date) : Bool :=
  yearInRange d.year && 1 ≤ d.month && d.month ≤ 12 && 1 ≤ d.day
    && d.day ≤ daysInMonth d.year d.month

/-- The number of days from 1970-01-01, counted in eras of 400 years that begin in March. -/
def days (d : Date) : Int :=
  let year := if d.month ≤ 2 then d.year - 1 else d.year
  let era := year / 400
  let yearOfEra := year % 400
  let monthFromMarch : Int := (d.month + 9) % 12
  let dayOfYear := (153 * monthFromMarch + 2) / 5 + d.day - 1
  era * 146097 + yearOfEra * 365 + yearOfEra / 4 - yearOfEra / 100 + dayOfYear - 719468

/-- The date of a number of days from 1970-01-01. -/
def ofDays (n : Int) : Date :=
  let shifted := n + 719468
  let era := shifted / 146097
  let dayOfEra := shifted % 146097
  let yearOfEra := (dayOfEra - dayOfEra / 1460 + dayOfEra / 36524 - dayOfEra / 146096) / 365
  let dayOfYear := dayOfEra - (365 * yearOfEra + yearOfEra / 4 - yearOfEra / 100)
  let monthFromMarch := (5 * dayOfYear + 2) / 153
  let day := dayOfYear - (153 * monthFromMarch + 2) / 5 + 1
  let month := if monthFromMarch < 10 then monthFromMarch + 3 else monthFromMarch - 9
  let year := era * 400 + yearOfEra + (if month ≤ 2 then 1 else 0)
  ⟨year, month.toNat, day.toNat⟩

/-- A year in four digits, with a sign outside of those. -/
def yearText (year : Int) : String :=
  if year < 0 then "-" ++ Decimal.padded 4 year.natAbs
  else if year ≤ 9999 then Decimal.padded 4 year.natAbs
  else "+" ++ Decimal.padded 4 year.natAbs

/-- The written form of a date. -/
def text (d : Date) : String :=
  yearText d.year ++ "-" ++ Decimal.padded 2 d.month ++ "-" ++ Decimal.padded 2 d.day

end Date

/-- A point of time: seconds since the beginning of 1970 and nanoseconds, which from one thousand
million on belong to a leap second that follows the second. -/
structure Timestamp where
  seconds : Int
  nanos : Nat := 0
  deriving DecidableEq, Repr

namespace Timestamp

/-- The beginning of 1970. -/
def epoch : Timestamp := ⟨0, 0⟩

/-- The nanoseconds of a second. -/
def nanosPerSecond : Nat := 1000000000

/-- The date and the time of day up to the seconds. -/
def dateTimeText (t : Timestamp) : String :=
  let ofDay := (t.seconds % 86400).toNat
  let second := ofDay % 60 + (if nanosPerSecond ≤ t.nanos then 1 else 0)
  (Date.ofDays (t.seconds / 86400)).text ++ "T" ++ Decimal.padded 2 (ofDay / 3600) ++ ":"
    ++ Decimal.padded 2 (ofDay / 60 % 60) ++ ":" ++ Decimal.padded 2 second

/-- The fraction of the second in none, three, six or nine digits. -/
def fractionText (t : Timestamp) : String :=
  let nanos := t.nanos % nanosPerSecond
  if nanos = 0 then ""
  else if nanos % 1000000 = 0 then "." ++ Decimal.padded 3 (nanos / 1000000)
  else if nanos % 1000 = 0 then "." ++ Decimal.padded 6 (nanos / 1000)
  else "." ++ Decimal.padded 9 nanos

/-- The written form with the fraction of the second. -/
def text (t : Timestamp) : String :=
  t.dateTimeText ++ t.fractionText ++ "Z"

/-- The written form without the fraction of the second. -/
def secondsText (t : Timestamp) : String :=
  t.dateTimeText ++ "Z"

end Timestamp

end SchemaDesigner
