import ValidationReport.Calendar
import ValidationReport.Der.Element

/-!
# Contents of DER elements

What the content of an element may be, by its type, and a reader for structures whose fields are
elements in a fixed order, some of them optional.

## Main definitions

* `isInteger`, `isOid`, `isBitString`, `boolean?`, `natural?` — contents of the basic types.
* `utcTime?`, `generalizedTime?` — the two forms of a time.
* `Fields` — a reader that takes elements from the front of a list; `Fields.of?` runs it on a
  content and wants every element taken.
-/

namespace ValidationReport.Der

/-! ### Basic types -/

/-- The content of an integer: at least one octet, and a first octet that is needed. -/
def isInteger : Bytes → Bool
  | [] => false
  | [_] => true
  | a :: b :: _ => !(a == 0 && b.toNat < 0x80) && !(a == 0xFF && 0x80 ≤ b.toNat)

/-- The number of a content that is an integer and not negative. -/
def natural? (content : Bytes) : Option Nat :=
  if isInteger content ∧ content.head?.any (·.toNat < 0x80) then
    some (content.foldl (fun n b => n * 0x100 + b.toNat) 0)
  else none

/-- Chains of seven-bit groups, of which the first has a number so far and is zero if it begins
here.  Every chain is ended, none begins with an empty group, and none has more than 128 bits. -/
def areArcs (high : Nat) : Bytes → Bool
  | [] => high == 0
  | b :: rest =>
    let n := high * 0x80 + b.toNat % 0x80
    if (high == 0 && b == 0x80) || Nat.pow 2 128 ≤ n then false
    else areArcs (if b.toNat < 0x80 then 0 else n) rest

/-- The content of an object identifier: at least one chain, and at most sixty-three octets. -/
def isOid (content : Bytes) : Bool :=
  !content.isEmpty && content.length ≤ 63 && areArcs 0 content

/-- The content of a string of bits: the number of unused bits, at most seven and none without an
octet to hold them, then the octets, whose unused bits are zero. -/
def isBitString : Bytes → Bool
  | [] => false
  | unused :: bits =>
    match bits.getLast? with
    | none => unused == 0
    | some last => unused.toNat < 8 && last.toNat % Nat.pow 2 unused.toNat == 0

/-- The truth value of a content. -/
def boolean? : Bytes → Option Bool
  | [b] => if b = 0 then some false else if b = 0xFF then some true else none
  | _ => none

/-! ### Times -/

/-- The number that two decimal digits denote. -/
def twoDigits? (a b : UInt8) : Option Nat :=
  if 0x30 ≤ a.toNat ∧ a.toNat ≤ 0x39 ∧ 0x30 ≤ b.toNat ∧ b.toNat ≤ 0x39 then
    some ((a.toNat - 0x30) * 10 + (b.toNat - 0x30))
  else none

/-- The month, day, hour, minute and second of ten digits with a closing `Z`, in a given year. -/
def timeInYear? (year : Nat) : Bytes → Option Civil
  | [a, b, c, d, e, f, g, h, i, j, z] => do
    let month ← twoDigits? a b
    let day ← twoDigits? c d
    let hour ← twoDigits? e f
    let minute ← twoDigits? g h
    let second ← twoDigits? i j
    if z = 0x5A then Civil.ofParts? year month day hour minute second 0 else none
  | _ => none

/-- The time of a content with a year of two digits, which lies in 1950 to 2049. -/
def utcTime? : Bytes → Option Civil
  | a :: b :: rest => do
    let year ← twoDigits? a b
    timeInYear? (if year < 50 then 2000 + year else 1900 + year) rest
  | _ => none

/-- The time of a content with a year of four digits. -/
def generalizedTime? : Bytes → Option Civil
  | a :: b :: c :: d :: rest => do
    let century ← twoDigits? a b
    let year ← twoDigits? c d
    timeInYear? (century * 100 + year) rest
  | _ => none

/-! ### Fields -/

/-- A reader that takes elements from the front of a list. -/
abbrev Fields := StateT (List Element) Option

namespace Fields

def refuse {α : Type} : Fields α := fun _ => none

/-- Goes on only if a condition holds. -/
def require (b : Bool) : Fields Unit := fun es => if b then some ((), es) else none

/-- The value of an optional result, which must be there. -/
def some? {α : Type} (a : Option α) : Fields α := fun es => a.map fun a => (a, es)

/-- The next element, whatever its tag. -/
def next : Fields Element
  | [] => none
  | e :: es => some (e, es)

/-- The content of the next element, which must have a tag. -/
def take (tag : Tag) : Fields Bytes
  | [] => none
  | e :: es => if e.tag = tag then some (e.content, es) else none

/-- The content of the next element if it has a tag; otherwise nothing is taken. -/
def optional (tag : Tag) : Fields (Option Bytes)
  | [] => some (none, [])
  | e :: es => if e.tag = tag then some (some e.content, es) else some (none, e :: es)

/-- The one element inside an explicit context tag if that tag comes next. -/
def explicit (number : Nat) : Fields (Option Element) := do
  match ← optional (Tag.explicit number) with
  | none => pure none
  | some content => some <$> some? (single? content)

/-- The result of a reader on the elements of a content, if it takes them all. -/
def of? {α : Type} (fields : Fields α) (content : Bytes) : Option α :=
  match elements? content with
  | none => none
  | some es =>
    match fields es with
    | some (a, []) => some a
    | _ => none

end Fields

end ValidationReport.Der
