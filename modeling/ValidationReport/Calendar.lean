import ValidationReport.Text.Basic

/-!
# The calendar

Civil times of the proleptic Gregorian calendar in the years 0 to 9999, to the microsecond and
without a time zone, counted from the first midnight of year 0.

## Main definitions

* `Civil` — a civil time, valid by construction.
* `Civil.micros` — the microseconds passed before it.
* `Civil.ofMicros?` — the civil time at a count of microseconds.
-/

namespace ValidationReport

/-- A year with a 29th of February. -/
def isLeapYear (year : Nat) : Bool := year % 4 == 0 && (year % 100 != 0 || year % 400 == 0)

/-- The number of days of a month, numbered from one. -/
def monthLength (year month : Nat) : Nat :=
  match month with
  | 2 => if isLeapYear year then 29 else 28
  | 4 | 6 | 9 | 11 => 30
  | _ => 31

/-- The days of all years from 0 up to a year.  Among them the leap years are those divisible by
four, less the centuries, and again the centuries divisible by four hundred. -/
def daysBeforeYear (year : Nat) : Nat :=
  365 * year + (year + 3) / 4 - (year + 99) / 100 + (year + 399) / 400

/-- The days of a year before a month. -/
def daysBeforeMonth (year : Nat) : Nat → Nat
  | 0 => 0
  | 1 => 0
  | month + 2 => daysBeforeMonth year (month + 1) + monthLength year (month + 1)

/-- A date of the calendar. -/
def isDate (year month day : Nat) : Bool :=
  year ≤ 9999 && 1 ≤ month && month ≤ 12 && 1 ≤ day && day ≤ monthLength year month

/-- A time of day, without leap seconds. -/
def isClock (hour minute second micro : Nat) : Bool :=
  hour < 24 && minute < 60 && second < 60 && micro < 1000000

/-- A civil time. -/
structure Civil where
  year : Nat
  month : Nat
  day : Nat
  hour : Nat
  minute : Nat
  second : Nat
  micro : Nat
  /-- The date exists. -/
  dateExists : isDate year month day = true
  /-- The time of day exists. -/
  clockExists : isClock hour minute second micro = true
  deriving DecidableEq, Repr

def microsPerDay : Nat := 86400000000

namespace Civil

/-- The civil time with given parts, when there is one. -/
def ofParts? (year month day hour minute second micro : Nat) : Option Civil :=
  if date : isDate year month day = true then
    if clock : isClock hour minute second micro = true then
      some ⟨year, month, day, hour, minute, second, micro, date, clock⟩
    else none
  else none

/-- The days passed before the day of a civil time. -/
def days (c : Civil) : Nat :=
  daysBeforeYear c.year + daysBeforeMonth c.year c.month + (c.day - 1)

/-- The microseconds passed before a civil time. -/
def micros (c : Civil) : Nat :=
  c.days * microsPerDay + ((c.hour * 60 + c.minute) * 60 + c.second) * 1000000 + c.micro

/-- The year in which a day lies.  Four hundred years have 146097 days, which places the day
within a year of the right one. -/
def yearOfDay (day : Nat) : Nat :=
  let year := day * 400 / 146097
  if day < daysBeforeYear year then year - 1
  else if daysBeforeYear (year + 1) ≤ day then year + 1
  else year

/-- The month and the day in it, for a day of the year counted from zero.  The first argument is
the number of months that remain after the month given next. -/
def monthAndDay (year : Nat) : Nat → Nat → Nat → Nat × Nat
  | 0, month, day => (month, day + 1)
  | remaining + 1, month, day =>
    if day < monthLength year month then (month, day + 1)
    else monthAndDay year remaining (month + 1) (day - monthLength year month)

/-- The civil time at a count of microseconds, up to the end of year 9999. -/
def ofMicros? (micros : Nat) : Option Civil :=
  let day := micros / microsPerDay
  let year := yearOfDay day
  let (month, dayOfMonth) := monthAndDay year 11 1 (day - daysBeforeYear year)
  let second := micros % microsPerDay / 1000000
  ofParts? year month dayOfMonth (second / 3600) (second / 60 % 60) (second % 60)
    (micros % 1000000)

end Civil

end ValidationReport
