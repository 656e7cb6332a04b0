import ValidationReport.Text.Basic

/-!
# Binary floating point numbers

Numbers with fifty-three significant bits, held by sign, significand and exponent, so that each
result is the exact one rounded once to the nearest number, ties going to an even significand.

## Main definitions

* `Binary64` — a number, an infinity, or no number.
* `Binary64.ofFraction`, `Binary64.ofDecimal` — the number nearest to a fraction and to a decimal.
* `Binary64.integer?` — the integer that a number is.
* `Binary64.roundedMultiple` — the whole number nearest to a multiple of a number.
* `Binary64.floorAndMicros` — the whole part below a number and the rest in millionths.
-/

namespace ValidationReport

/-- A floating point number. -/
inductive Binary64 where
  /-- No number. -/
  | nan
  /-- Beyond every number. -/
  | infinity (negative : Bool)
  /-- The significand times two to the exponent. -/
  | finite (negative : Bool) (significand : Nat) (exponent : Int)
  deriving DecidableEq, Repr

namespace Binary64

def leastExponent : Int := -1074

/-- The greatest exponent of a full significand. -/
def greatestExponent : Int := 971

/-- Two to an exponent, as a fraction. -/
def power (e : Int) : Nat × Nat := (Nat.pow 2 e.toNat, Nat.pow 2 (-e).toNat)

/-- The whole number nearest to a fraction, the even one of two equally near. -/
def nearestEven (num den : Nat) : Nat :=
  let quotient := num / den
  let rest := num % den
  if den < 2 * rest ∨ (den = 2 * rest ∧ quotient % 2 = 1) then quotient + 1 else quotient

/-- The exponent at which the significand of a positive fraction fills its bits, or the least
exponent if that is greater. -/
def exponentFor (num den : Nat) : Int :=
  let e : Int := (num.log2 : Int) - den.log2 - 52
  let (above, below) := power e
  max leastExponent (if num * below < Nat.pow 2 52 * (den * above) then e - 1 else e)

/-- The number nearest to a fraction with a given sign. -/
def ofFraction (negative : Bool) (num den : Nat) : Binary64 :=
  if num = 0 then .finite negative 0 leastExponent
  else
    let e := exponentFor num den
    let (above, below) := power e
    let significand := nearestEven (num * below) (den * above)
    let (significand, e) :=
      if significand = Nat.pow 2 53 then (Nat.pow 2 52, e + 1) else (significand, e)
    if greatestExponent < e then .infinity negative else .finite negative significand e

/-- The number nearest to decimal digits times a power of ten.  Powers that leave the range in
either direction whatever the digits are not computed. -/
def ofDecimal (negative : Bool) (digits : Nat) (exponent : Int) : Binary64 :=
  let places : Int := (Text.natural digits).length
  if digits = 0 ∨ places + exponent < -400 then .finite negative 0 leastExponent
  else if 400 < places + exponent then .infinity negative
  else ofFraction negative (digits * Nat.pow 10 exponent.toNat) (Nat.pow 10 (-exponent).toNat)

/-- The absolute value of a finite number as a fraction. -/
def fraction (significand : Nat) (exponent : Int) : Nat × Nat :=
  let (above, below) := power exponent
  (significand * above, below)

/-- A sign before a natural number. -/
def signed (negative : Bool) (n : Nat) : Int := if negative then -(n : Int) else n

/-- The integer that a number is, if it is one. -/
def integer? : Binary64 → Option Int
  | .finite negative significand exponent =>
    let (num, den) := fraction significand exponent
    if num % den = 0 then some (signed negative (num / den)) else none
  | _ => none

/-- A number is a number and no infinity. -/
def isFinite : Binary64 → Bool
  | .finite _ _ _ => true
  | _ => false

/-- Whether the absolute value of a finite number is above a bound. -/
def exceeds (bound significand : Nat) (exponent : Int) : Bool :=
  let (num, den) := fraction significand exponent
  bound * den < num

/-- The whole number nearest to a multiple of a finite number, the greater of two equally near. -/
def roundedMultiple (factor : Nat) (negative : Bool) (significand : Nat) (exponent : Int) : Int :=
  let (num, den) := fraction significand exponent
  (2 * factor * signed negative num + den).fdiv (2 * den)

/-- The number nearest to a multiple of a fraction, as a fraction. -/
def roundedFraction (factor num den : Nat) : Nat × Nat :=
  match ofFraction false (factor * num) den with
  | .finite _ significand exponent => fraction significand exponent
  | _ => (0, 1)

/-- The greatest whole number not above a finite number, and what is left of the number in
millionths.  What is left is rounded as a number, its millionths once more, and those to the
nearest whole number with halves going up. -/
def floorAndMicros (negative : Bool) (significand : Nat) (exponent : Int) : Int × Nat :=
  let (num, den) := fraction significand exponent
  let value := signed negative num
  let floor := value.fdiv den
  let (num, den) := roundedFraction 1 (value - floor * den).toNat den
  let (num, den) := roundedFraction 1000000 num den
  (floor, (2 * num + den) / (2 * den))

end Binary64

end ValidationReport
