/-!
# Text as a sequence of code points

Facts arrive as JSON, and a JSON string may hold half of a surrogate pair on its own.  A text is
therefore a list of code points rather than of scalar values: every character is a code point, and
so is every surrogate.

## Main definitions

* `Code` — a code point, a number below `0x110000`.
* `Text` — a list of code points; character and string literals coerce into these types.
* `Text.natural`, `Text.padded` — the decimal digits of a number, with and without leading zeros.
* `Sign`, `Text.splitSign` — the sign in front of a number.
-/

namespace ValidationReport

/-- A code point, surrogates included. -/
structure Code where
  /-- The number of the code point. -/
  val : Nat
  /-- There are seventeen planes of `0x10000` code points. -/
  isLt : val < 0x110000
  deriving DecidableEq, Repr

namespace Code

theorem ext_val {a b : Code} (h : a.val = b.val) : a = b := by
  cases a; cases b; simp_all

def ofChar (c : Char) : Code :=
  ⟨c.toNat, by
    have h : c.val.toNat < 0xD800 ∨ (0xDFFF < c.val.toNat ∧ c.val.toNat < 0x110000) := c.valid
    show c.val.toNat < 0x110000
    omega⟩

instance : Coe Char Code := ⟨ofChar⟩

@[simp] theorem val_ofChar (c : Char) : (ofChar c).val = c.toNat := rfl

/-- The code point with a given number, and `U+FFFD` when there is none. -/
def ofNat (n : Nat) : Code :=
  if h : n < 0x110000 then ⟨n, h⟩ else ⟨0xFFFD, by decide⟩

@[simp] theorem val_ofNat {n : Nat} (h : n < 0x110000) : (ofNat n).val = n := by
  simp [ofNat, h]

@[simp] theorem ofNat_val (c : Code) : ofNat c.val = c := by
  simp [ofNat, c.isLt]

/-- Half of a surrogate pair, which no encoding form represents. -/
def isSurrogate (c : Code) : Bool := 0xD800 ≤ c.val && c.val < 0xE000

/-- A scalar value: any code point but a surrogate. -/
def isScalar (c : Code) : Bool := !c.isSurrogate

/-- The first half of a surrogate pair. -/
def isHighSurrogate (c : Code) : Bool := 0xD800 ≤ c.val && c.val < 0xDC00

/-- The second half of a surrogate pair. -/
def isLowSurrogate (c : Code) : Bool := 0xDC00 ≤ c.val && c.val < 0xE000

/-- The code point above `U+FFFF` that two halves of a surrogate pair name together. -/
def ofSurrogates (high low : Code) : Code :=
  ofNat (0x10000 + (high.val - 0xD800) * 0x400 + (low.val - 0xDC00))

/-- One of the ten ASCII digits. -/
def isDigit (c : Code) : Bool := 0x30 ≤ c.val && c.val ≤ 0x39

/-- The value of an ASCII digit. -/
def digit? (c : Code) : Option Nat :=
  if c.isDigit then some (c.val - 0x30) else none

/-- The value of a hexadecimal digit in either case. -/
def hexDigit? (c : Code) : Option Nat :=
  if 0x30 ≤ c.val ∧ c.val ≤ 0x39 then some (c.val - 0x30)
  else if 0x41 ≤ c.val ∧ c.val ≤ 0x46 then some (c.val - 0x37)
  else if 0x61 ≤ c.val ∧ c.val ≤ 0x66 then some (c.val - 0x57)
  else none

/-- The lower-case form of an ASCII capital; any other code point is its own. -/
def asciiLower (c : Code) : Code :=
  if 0x41 ≤ c.val ∧ c.val ≤ 0x5A then ofNat (c.val + 0x20) else c

/-- The capital form of an ASCII letter; any other code point is its own. -/
def asciiUpper (c : Code) : Code :=
  if 0x61 ≤ c.val ∧ c.val ≤ 0x7A then ofNat (c.val - 0x20) else c

end Code

/-- A text: code points in reading order. -/
abbrev Text := List Code

/-- Octets in order. -/
abbrev Bytes := List UInt8

/-- A sign in front of a number. -/
inductive Sign where
  | plus
  | minus
  deriving DecidableEq, Repr

namespace Text

def ofString (s : String) : Text := s.toList.map Code.ofChar

instance : Coe String Text := ⟨ofString⟩

/-- No code point is a surrogate. -/
def isWellFormed (t : Text) : Bool := t.all Code.isScalar

/-- The text without ASCII capitals. -/
def asciiLower (t : Text) : Text := t.map Code.asciiLower

/-- The decimal digits of a number, most significant first, prepended to what is given.  The first
argument bounds the number of digits. -/
def naturalOnto : Nat → Nat → Text → Text
  | 0, _, rest => rest
  | fuel + 1, n, rest =>
    let rest := Code.ofNat (0x30 + n % 10) :: rest
    if n < 10 then rest else naturalOnto fuel (n / 10) rest

/-- The decimal digits of a number, most significant first. -/
def natural (n : Nat) : Text := naturalOnto (n + 1) n []

/-- The decimal form of an integer, with a minus sign before a negative one. -/
def integer (i : Int) : Text :=
  if i < 0 then ('-' : Code) :: natural i.natAbs else natural i.natAbs

/-- The decimal digits of a number, filled up with zeros to a width. -/
def padded (width n : Nat) : Text :=
  let digits := natural n
  List.replicate (width - digits.length) ('0' : Code) ++ digits

/-- The number that decimal digits denote, and nothing when there is no digit or something else
among them. -/
def natural? (t : Text) : Option Nat :=
  if t.isEmpty then none
  else t.foldlM (fun n c => c.digit?.map (10 * n + ·)) 0

/-- The sign that a text begins with, if it does, and what follows. -/
def splitSign : Text → Option Sign × Text
  | c :: rest =>
    if c = '-' then (some .minus, rest)
    else if c = '+' then (some .plus, rest)
    else (none, c :: rest)
  | [] => (none, [])

/-- The texts with a separator between every two of them. -/
def joined (separator : Text) : List Text → Text
  | [] => []
  | [t] => t
  | t :: u :: rest => t ++ separator ++ joined separator (u :: rest)

def beginsWith (t start : Text) : Bool := start.isPrefixOf t

def endsWith (t finish : Text) : Bool := finish.isSuffixOf t

def contains (part : Text) : Text → Bool
  | [] => part.isEmpty
  | c :: rest => part.isPrefixOf (c :: rest) || contains part rest

/-- The text unless it is empty. -/
def nonempty? (t : Text) : Option Text := if t.isEmpty then none else some t

end Text

end ValidationReport
