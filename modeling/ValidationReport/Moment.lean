import ValidationReport.Calendar
import ValidationReport.Failure

/-!
# Moments

A moment is a civil time with or without an offset from UTC; without one it is read as UTC.  In a
report a moment is named by its whole second in UTC.

## Main definitions

* `Moment` — a civil time in the years 1 to 9999 with its offset.
* `Moment.instant` — the microseconds passed before it in UTC.
* `Moment.utc` — the civil time in UTC, which may leave the range of years.
* `Moment.utcText` — the form used in reports.
* `Moment.isoText` — the form used for facts, which keeps everything.
-/

namespace ValidationReport

/-- An offset from UTC is shorter than a day. -/
def isOffset (micros : Int) : Bool := micros.natAbs < microsPerDay

/-- A civil time with an offset from UTC in microseconds, positive to the east. -/
structure Moment where
  civil : Civil
  offset : Option Int
  /-- There is no year 0. -/
  hasYear : 1 ≤ civil.year
  /-- The offset is shorter than a day. -/
  offsetExists : offset.all isOffset = true
  deriving DecidableEq, Repr

namespace Moment

/-- The moment of a civil time at an offset of whole seconds, when there is one. -/
def of? (civil : Civil) (seconds : Option Int) : Option Moment :=
  let offset := seconds.map (· * 1000000)
  if year : 1 ≤ civil.year then
    if short : offset.all isOffset = true then some ⟨civil, offset, year, short⟩ else none
  else none

/-- The microseconds that pass from the first midnight of year 0 in UTC to a moment. -/
def instant (m : Moment) : Int := (m.civil.micros : Int) - m.offset.getD 0

/-- The civil time at an instant, in the years 1 to 9999. -/
def civilAt? (instant : Int) : Option Civil :=
  if 0 ≤ instant then (Civil.ofMicros? instant.toNat).filter (1 ≤ ·.year) else none

/-- The civil time of a moment in UTC. -/
def utc (m : Moment) : Except Failure Civil :=
  match civilAt? m.instant with
  | some civil => .ok civil
  | none => .error .timeOutOfRange

/-- The moment in UTC at an instant. -/
def ofInstant? (instant : Int) : Option Moment :=
  (civilAt? instant).bind fun civil => of? civil (some 0)

end Moment

namespace Civil

/-- Month, day and time of day to the second, in two digits each. -/
def textAfterYear (c : Civil) : Text :=
  ("-" : Text) ++ Text.padded 2 c.month ++ ("-" : Text) ++ Text.padded 2 c.day ++ ("T" : Text) ++
    Text.padded 2 c.hour ++ (":" : Text) ++ Text.padded 2 c.minute ++ (":" : Text) ++
    Text.padded 2 c.second

/-- The form of a civil time in UTC used in reports.  The year has as many digits as it needs. -/
def utcText (c : Civil) : Text := Text.natural c.year ++ c.textAfterYear ++ ("Z" : Text)

end Civil

/-- Microseconds as a fraction of a second, when there are any. -/
def fractionText (micro : Nat) : Text :=
  if micro = 0 then [] else ("." : Text) ++ Text.padded 6 micro

/-- The form of a civil time used for facts: a year of four digits, and a fraction of six when
there is one. -/
def Civil.isoText (c : Civil) : Text :=
  Text.padded 4 c.year ++ c.textAfterYear ++ fractionText c.micro

/-- An offset as hours and minutes, and seconds with their fraction when there are any. -/
def offsetText (micros : Int) : Text :=
  let n := micros.natAbs
  (if micros < 0 then ("-" : Text) else ("+" : Text)) ++ Text.padded 2 (n / 3600000000) ++
    (":" : Text) ++ Text.padded 2 (n / 60000000 % 60) ++
    (if n % 60000000 = 0 then []
      else (":" : Text) ++ Text.padded 2 (n / 1000000 % 60) ++ fractionText (n % 1000000))

namespace Moment

/-- The form of a moment used in reports. -/
def utcText (m : Moment) : Except Failure Text := m.utc.map Civil.utcText

/-- The form of a moment used for facts. -/
def isoText (m : Moment) : Text := m.civil.isoText ++ m.offset.elim [] offsetText

/-- The form used in reports of a moment that may be absent. -/
def utcText? : Option Moment → Except Failure (Option Text)
  | none => .ok none
  | some m => m.utcText.map some

end Moment

end ValidationReport
