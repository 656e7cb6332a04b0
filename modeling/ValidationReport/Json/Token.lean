import ValidationReport.Json.Basic

/-!
# Tokens of JSON text

Text is cut into tokens from left to right.  Where no token begins, a last token marks the fault,
so that a reader of the tokens meets the faults of a text in the order of the text.

Beside the numbers of the grammar, `NaN`, `Infinity` and `-Infinity` are numbers.  An integer of
more than 4300 digits is a token of its own kind, since it is refused by a different rule.

## Main definitions

* `Token` — a token.
* `Token.scan` — the tokens of a text.
-/

namespace ValidationReport.Json

/-- A token. -/
inductive Token where
  | openObject
  | closeObject
  | openArray
  | closeArray
  | colon
  | comma
  /-- A string. -/
  | text (t : Text)
  /-- A value of one word or number. -/
  | atom (j : Json)
  /-- An integer with too many digits. -/
  | longInteger
  /-- What begins here is no token. -/
  | fault
  deriving Inhabited

/-- The greatest number of digits of an integer. -/
def digitLimit : Nat := 4300

namespace Token

/-- White space between tokens. -/
def isSpace (c : Code) : Bool :=
  c.val == 0x20 || c.val == 0x09 || c.val == 0x0A || c.val == 0x0D

/-! ### Strings -/

/-- The number of four hexadecimal digits. -/
def hexQuad? : Text → Option (Nat × Text)
  | a :: b :: c :: d :: rest => do
    let a ← a.hexDigit?
    let b ← b.hexDigit?
    let c ← c.hexDigit?
    let d ← d.hexDigit?
    return (((a * 16 + b) * 16 + c) * 16 + d, rest)
  | _ => none

/-- The code point that a letter after a backslash stands for. -/
def escape? (c : Code) : Option Code :=
  if c.val = 0x22 ∨ c.val = 0x5C ∨ c.val = 0x2F then some c
  else if c = 'b' then some (.ofNat 0x08)
  else if c = 'f' then some (.ofNat 0x0C)
  else if c = 'n' then some (.ofNat 0x0A)
  else if c = 'r' then some (.ofNat 0x0D)
  else if c = 't' then some (.ofNat 0x09)
  else none

/-- A low surrogate escaped at the start of a text, with the text after it. -/
def lowEscape? : Text → Option (Code × Text)
  | a :: b :: rest =>
    if a.val = 0x5C ∧ b = 'u' then
      match hexQuad? rest with
      | some (n, rest) => if (Code.ofNat n).isLowSurrogate then some (.ofNat n, rest) else none
      | none => none
    else none
  | _ => none

/-- The rest of a string after its opening quote, with the text after its closing quote.  A string
holds no control character, and two escaped halves of a surrogate pair in a row are one code
point.  The first argument bounds the number of steps. -/
def string? : Nat → Text → Option (Text × Text)
  | 0, _ => none
  | _ + 1, [] => none
  | fuel + 1, c :: rest =>
    if c.val = 0x22 then some ([], rest)
    else if c.val < 0x20 then none
    else if c.val = 0x5C then
      match rest with
      | [] => none
      | e :: rest =>
        if e = 'u' then
          match hexQuad? rest with
          | none => none
          | some (n, rest) =>
            let high := Code.ofNat n
            match (if high.isHighSurrogate then lowEscape? rest else none) with
            | some (low, rest) =>
              (string? fuel rest).map fun (t, rest) => (.ofSurrogates high low :: t, rest)
            | none => (string? fuel rest).map fun (t, rest) => (high :: t, rest)
        else
          match escape? e with
          | none => none
          | some code => (string? fuel rest).map fun (t, rest) => (code :: t, rest)
    else (string? fuel rest).map fun (t, rest) => (c :: t, rest)

/-! ### Numbers and words -/

/-- The number of decimal digits, without a bound on their count. -/
def decimal (digits : Text) : Nat := digits.foldl (fun n c => 10 * n + (c.val - 0x30)) 0

/-- The digits at the start of a text, if there are any. -/
def digits? (t : Text) : Option (Text × Text) :=
  let digits := t.takeWhile Code.isDigit
  if digits.isEmpty then none else some (digits, t.dropWhile Code.isDigit)

/-- The digits after a point at the start of a text. -/
def places? : Text → Option (Text × Text)
  | c :: rest => if c = '.' then digits? rest else none
  | [] => none

/-- The exponent at the start of a text. -/
def exponent? : Text → Option (Int × Text)
  | c :: rest =>
    if c = 'e' ∨ c = 'E' then
      match rest with
      | s :: after =>
        if s = '-' then (digits? after).map fun (d, rest) => (-(decimal d : Int), rest)
        else if s = '+' then (digits? after).map fun (d, rest) => ((decimal d : Int), rest)
        else (digits? rest).map fun (d, rest) => ((decimal d : Int), rest)
      | [] => none
    else none
  | [] => none

/-- The whole part of a number: a zero, or digits that do not begin with one. -/
def whole? : Text → Option (Text × Text)
  | c :: rest => if c = '0' then some ([c], rest) else digits? (c :: rest)
  | [] => none

/-- The number that begins a text, after its sign.  What could be a fraction or an exponent but is
none is left for the next token. -/
def number? (negative : Bool) (t : Text) : Option (Token × Text) :=
  match whole? t with
  | none => none
  | some (whole, rest) =>
    match places? rest, exponent? ((places? rest).elim rest Prod.snd) with
    | none, none =>
      if digitLimit < whole.length then some (.longInteger, rest)
      else some (.atom (.int (Binary64.signed negative (decimal whole))), rest)
    | places, exponent =>
      let places' := places.elim [] Prod.fst
      let value := Binary64.ofDecimal negative (decimal (whole ++ places'))
        (exponent.elim 0 Prod.fst - places'.length)
      let rest := exponent.elim (places.elim rest Prod.snd) Prod.snd
      some (.atom (.float value), rest)

/-- The words that are values. -/
def words : List (Text × Json) := [
  ("null", .null), ("true", .bool true), ("false", .bool false), ("NaN", .float .nan),
  ("Infinity", .float (.infinity false)), ("-Infinity", .float (.infinity true))]

/-- The word that begins a text. -/
def word? (t : Text) : Option (Token × Text) :=
  (words.find? fun w => Text.beginsWith t w.1).map fun w => (.atom w.2, t.drop w.1.length)

/-! ### Scanning -/

/-- The token of a punctuation character. -/
def punctuation? (c : Code) : Option Token :=
  if c.val = 0x7B then some .openObject
  else if c.val = 0x7D then some .closeObject
  else if c.val = 0x5B then some .openArray
  else if c.val = 0x5D then some .closeArray
  else if c.val = 0x3A then some .colon
  else if c.val = 0x2C then some .comma
  else none

/-- The token that begins a text which does not begin with white space. -/
def first? (c : Code) (rest : Text) : Option (Token × Text) :=
  match punctuation? c with
  | some token => some (token, rest)
  | none =>
    if c.val = 0x22 then (string? (rest.length + 1) rest).map fun (t, rest) => (.text t, rest)
    else
      match word? (c :: rest) with
      | some r => some r
      | none => if c = '-' then number? true rest else number? false (c :: rest)

/-- The tokens of a text, up to a number of steps. -/
def scanUpTo : Nat → Text → List Token
  | 0, _ => []
  | _ + 1, [] => []
  | fuel + 1, c :: rest =>
    if isSpace c then scanUpTo fuel rest
    else
      match first? c rest with
      | some (token, rest) => token :: scanUpTo fuel rest
      | none => [.fault]

/-- The tokens of a text.  Every step takes at least one code point. -/
def scan (t : Text) : List Token := scanUpTo (t.length + 1) t

end Token

end ValidationReport.Json
