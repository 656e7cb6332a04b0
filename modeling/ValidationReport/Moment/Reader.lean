import ValidationReport.Moment
import ValidationReport.Json.Token

/-!
# Reading moments

A moment is given as text or as a number.  Text holds a date, or a date and a time with an optional
offset, or a decimal number.  Numbers count seconds from the start of 1970 in UTC, and
milliseconds when they are far from zero.

Numbers with a fraction follow the documented conversion: they stand for that many seconds or
milliseconds, to the nearest microsecond.  A validator that splits off the fraction of a negative or
a very large number in another way reads another instant there.

## Main definitions

* `Moment.ofText?` — the moment that a text denotes.
* `Moment.ofInteger?`, `Moment.ofFloat?` — the moment at a count of seconds or milliseconds.
* `Moment.ofJson?` — the moment that a JSON value denotes.
-/

namespace ValidationReport.Moment

/-! ### Numbers -/

/-- The instant at which 1970 begins in UTC. -/
def epoch : Int := (daysBeforeYear 1970 * microsPerDay : Nat)

/-- The greatest distance from zero that counts seconds. -/
def secondsLimit : Nat := 20000000000

/-- The moment at a count of seconds, or of milliseconds far from zero. -/
def ofInteger? (n : Int) : Option Moment :=
  ofInstant? (epoch + (if secondsLimit < n.natAbs then n * 1000 else n * 1000000))

/-- The same for a floating point number, by the documented conversion.  Seconds are split at the
whole number below, also if they are negative, and what is left is rounded to microseconds;
milliseconds are taken exactly and rounded once. -/
def ofFloat? : Binary64 → Option Moment
  | .finite negative significand exponent =>
    if Binary64.exceeds secondsLimit significand exponent then
      ofInstant? (epoch + Binary64.roundedMultiple 1000 negative significand exponent)
    else
      let (floor, micros) := Binary64.floorAndMicros negative significand exponent
      ofInstant? (epoch + floor * 1000000 + micros)
  | _ => none

/-- The power of ten after the places of a decimal number: one that is written out, or none. -/
def tens? : Text → Option Int
  | [] => some 0
  | t =>
    match Json.Token.exponent? t with
    | some (exponent, []) => some exponent
    | _ => none

/-- The moment at a decimal number: digits with an optional sign, or digits around a point, on one
side of which they may be missing, with an optional power of ten.  With a point it is converted like
a floating point number. -/
def ofNumber? (t : Text) : Option Moment :=
  let (sign, t) := t.splitSign
  let negative := sign == some .minus
  let whole := t.takeWhile Code.isDigit
  match t.dropWhile Code.isDigit with
  | [] =>
    if whole.isEmpty then none
    else ofInteger? (Binary64.signed negative (Json.Token.decimal whole))
  | point :: rest =>
    let places := rest.takeWhile Code.isDigit
    if point = '.' ∧ (whole.isEmpty && places.isEmpty) = false then
      (tens? (rest.dropWhile Code.isDigit)).bind fun exponent =>
        ofFloat? (Binary64.ofDecimal negative (Json.Token.decimal (whole ++ places))
          (exponent - (places.length : Int)))
    else none

/-! ### Dates and times -/

/-- A reader that takes code points from the front of a text. -/
abbrev Scanner := StateT Text Option

/-- Takes one code point of a class. -/
def one (p : Code → Bool) : Scanner Code
  | [] => none
  | c :: rest => if p c then some (c, rest) else none

/-- Takes a number of digits, and gives the number they denote. -/
def number : Nat → Nat → Scanner Nat
  | 0, n => pure n
  | count + 1, n => do
    let c ← one Code.isDigit
    number count (10 * n + (c.val - 0x30))

/-- Takes one code point of a class if it comes next. -/
def maybe (p : Code → Bool) : Scanner Bool
  | [] => some (false, [])
  | c :: rest => if p c then some (true, rest) else some (false, c :: rest)

/-- Takes one code point. -/
def exactly (c : Char) : Scanner Unit := do
  let _ ← one (· == (c : Code))

/-- Takes a date: year, month and day. -/
def date : Scanner (Nat × Nat × Nat) := do
  let year ← number 4 0
  exactly '-'
  let month ← number 2 0
  exactly '-'
  let day ← number 2 0
  return (year, month, day)

/-- The microseconds in the digits of a fraction, of which the first six count. -/
def microsOf (digits : Text) : Nat :=
  let kept := digits.take 6
  Json.Token.decimal kept * Nat.pow 10 (6 - kept.length)

/-- Takes a fraction: at least one digit. -/
def fraction : Scanner Nat := fun t =>
  let digits := t.takeWhile Code.isDigit
  if digits.isEmpty then none else some (microsOf digits, t.dropWhile Code.isDigit)

/-- Takes a time of day: hour and minute, perhaps a second, and with it perhaps a fraction. -/
def clock : Scanner (Nat × Nat × Nat × Nat) := do
  let hour ← number 2 0
  exactly ':'
  let minute ← number 2 0
  if ← maybe (· == (':' : Code)) then
    let second ← number 2 0
    if ← maybe (fun c => c == ('.' : Code) || c == (',' : Code)) then
      let micro ← fraction
      return (hour, minute, second, micro)
    else return (hour, minute, second, 0)
  else return (hour, minute, 0, 0)

/-- The sign of an offset.  The minus sign proper counts beside the hyphen. -/
def sign : Scanner Bool := do
  let c ← one fun c => c == ('+' : Code) || c == ('-' : Code) || c.val == 0x2212
  return c != ('+' : Code)

/-- Takes an offset if anything is left: the letter of UTC, or a sign with hours and minutes. -/
def zone : Scanner (Option Int) := fun t =>
  if t.isEmpty then some (none, [])
  else
    (do
      if ← maybe (fun c => c == ('Z' : Code) || c == ('z' : Code)) then return some 0
      else
        let west ← sign
        let hours ← number 2 0
        let _ ← maybe (· == (':' : Code))
        let minutes ← number 2 0
        if 60 ≤ minutes then fun _ => none
        else return some (Binary64.signed west (hours * 3600 + minutes * 60))
      : Scanner (Option Int)) t

/-- Takes a date, a time and perhaps an offset. -/
def dateAndTime : Scanner (Option Moment) := do
  let (year, month, day) ← date
  let _ ← one fun c =>
    c == ('T' : Code) || c == ('t' : Code) || c == (' ' : Code) || c == ('_' : Code)
  let (hour, minute, second, micro) ← clock
  let offset ← zone
  return (Civil.ofParts? year month day hour minute second micro).bind fun civil =>
    of? civil offset

/-- Takes a date, which stands for its midnight. -/
def dateAlone : Scanner (Option Moment) := do
  let (year, month, day) ← date
  return (Civil.ofParts? year month day 0 0 0 0).bind fun civil => of? civil none

/-- The result of a reader on a text, if it takes all of it. -/
def whole? (scanner : Scanner (Option Moment)) (t : Text) : Option Moment :=
  match scanner t with
  | some (m, []) => m
  | _ => none

/-- The moment that a text denotes. -/
def ofText? (t : Text) : Option Moment :=
  match whole? dateAndTime t with
  | some m => some m
  | none =>
    match ofNumber? t with
    | some m => some m
    | none => whole? dateAlone t

/-- The moment that a JSON value denotes. -/
def ofJson? : Json → Option Moment
  | .str t => ofText? t
  | .int n => ofInteger? n
  | .float x => ofFloat? x
  | _ => none

end ValidationReport.Moment
