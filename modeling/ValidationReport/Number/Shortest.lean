import ValidationReport.Number.Binary64

/-!
# Shortest decimals

A floating point number is written with the fewest digits that read back as the same number, and
of those the ones nearest to it.

## Main definitions

* `Binary64.shortest` — the digits and their power of ten.
* `Binary64.text` — the written form.
-/

namespace ValidationReport.Binary64

/-- The decimals that read back as a number, in quarters of the place of its last bit: the least
and the greatest, and whether these two belong to them. -/
def readingRange (significand : Nat) (exponent : Int) : Nat × Nat × Bool :=
  let closer := significand == Nat.pow 2 52 && leastExponent < exponent
  (4 * significand - (if closer then 1 else 2), 4 * significand + 2, significand % 2 == 0)

/-- The multiple of a power of ten that reads back as a number, the nearest if there are two, and
the even one if these are equally near. -/
def multiple? (significand : Nat) (exponent : Int) (ten : Int) : Option Nat :=
  let (least, greatest, closed) := readingRange significand exponent
  let (above, below) := power (exponent - 2)
  let up := Nat.pow 10 ten.toNat
  let down := Nat.pow 10 (-ten).toNat
  -- a quarter of the last place and the power of ten, over a common denominator
  let quarter := above * down
  let grid := up * below
  let value := 4 * significand * quarter
  let inside (c : Nat) : Bool :=
    if closed then least * quarter ≤ c * grid && c * grid ≤ greatest * quarter
    else least * quarter < c * grid && c * grid < greatest * quarter
  let low := value / grid
  let high := low + 1
  let toLow := value - low * grid
  let toHigh := high * grid - value
  match inside low, inside high with
  | false, false => none
  | true, false => some low
  | false, true => some high
  | true, true =>
    some (if toLow < toHigh ∨ (toLow = toHigh ∧ low % 2 = 0) then low else high)

/-- The first multiple found when powers of ten are tried downwards, a given number of them. -/
def shortestBelow (significand : Nat) (exponent : Int) : Nat → Int → Nat × Int
  | 0, ten => (0, ten)
  | tries + 1, ten =>
    match multiple? significand exponent ten with
    | some digits => (digits, ten)
    | none => shortestBelow significand exponent tries (ten - 1)

/-- The shortest decimal of a positive number: digits times a power of ten.  Twenty decimal places
below the first are always enough. -/
def shortest (significand : Nat) (exponent : Int) : Nat × Int :=
  let bits := (significand.log2 : Int) + exponent
  shortestBelow significand exponent 24 (Int.fdiv (bits * 30103) 100000 + 2)

def zeros (n : Nat) : Text := List.replicate n ('0' : Code)

/-- Digits with a decimal point after a number of them, which is the whole part of the number.
There is a digit on either side of the point. -/
def positional (digits : Text) (point : Int) : Text :=
  if point ≤ 0 then ("0." : Text) ++ zeros (-point).toNat ++ digits
  else if (digits.length : Int) ≤ point then
    digits ++ zeros (point - digits.length).toNat ++ (".0" : Text)
  else digits.take point.toNat ++ ("." : Text) ++ digits.drop point.toNat

/-- Digits with a point after the first, and the power of ten with its sign and two digits. -/
def scientific (digits : Text) (point : Int) : Text :=
  let e := point - 1
  let mantissa :=
    match digits with
    | d :: rest@(_ :: _) => d :: ("." : Text) ++ rest
    | digits => digits
  mantissa ++ (if e < 0 then ("e-" : Text) else ("e+" : Text)) ++ Text.padded 2 e.natAbs

/-- The written form.  Numbers from a ten-thousandth up to ten to the sixteenth are positional. -/
def text : Binary64 → Text
  | .nan => "nan"
  | .infinity negative => if negative then "-inf" else "inf"
  | .finite negative significand exponent =>
    let unsigned : Text :=
      if significand = 0 then "0.0"
      else
        let (digits, ten) := shortest significand exponent
        let digits := Text.natural digits
        let point := (digits.length : Int) + ten
        if -4 < point ∧ point ≤ 16 then positional digits point else scientific digits point
    if negative then ("-" : Text) ++ unsigned else unsigned

end ValidationReport.Binary64
