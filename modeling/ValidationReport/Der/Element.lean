import ValidationReport.Text.Basic

/-!
# Elements of DER

An element is a tag, the length of its content, and the content.  The distinguished encoding leaves
no choice: tags and lengths take the fewest octets and every length is definite, so an element has
one encoding.

## Main definitions

* `Tag`, `Element` — what an encoding says.
* `Element.encode`, `encodeAll` — the encoding of an element and of several in a row.
* `element?`, `elements?` — the first element of octets with the octets after it, and the elements
  that octets are made of.
-/

namespace ValidationReport.Der

/-- The tag of an element: one of four classes, whether the content is made of elements, and a
number. -/
structure Tag where
  cls : Nat
  constructed : Bool
  number : Nat
  deriving DecidableEq, Repr

/-- A tagged content. -/
structure Element where
  tag : Tag
  content : Bytes
  deriving DecidableEq, Repr

/-! ### Tags -/

namespace Tag

/-- A tag of the universal class whose content is not made of elements. -/
def universal (number : Nat) : Tag := ⟨0, false, number⟩

def boolean : Tag := universal 1

def integer : Tag := universal 2

def bitString : Tag := universal 3

def octetString : Tag := universal 4

def null : Tag := universal 5

def oid : Tag := universal 6

def enumerated : Tag := universal 10

def utcTime : Tag := universal 23

def generalizedTime : Tag := universal 24

def sequence : Tag := ⟨0, true, 16⟩

def set : Tag := ⟨0, true, 17⟩

/-- The context tag around one whole element. -/
def explicit (number : Nat) : Tag := ⟨2, true, number⟩

/-- The context tag in place of the tag of a content that is not made of elements. -/
def implicit (number : Nat) : Tag := ⟨2, false, number⟩

/-- The context tag in place of the tag of a content made of elements. -/
def implicitConstructed (number : Nat) : Tag := ⟨2, true, number⟩

end Tag

/-! ### Writing -/

/-- The digits of a number to a base, the most significant first and at least one of them,
prepended to what is given.  The first argument bounds the number of digits. -/
def digitsOnto (base : Nat) : Nat → Nat → List Nat → List Nat
  | 0, _, rest => rest
  | fuel + 1, n, rest =>
    if n < base then n :: rest else digitsOnto base fuel (n / base) (n % base :: rest)

/-- The digits of a number to a base, the most significant first and at least one of them. -/
def digits (base n : Nat) : List Nat := digitsOnto base (n + 1) n []

/-- Seven bits an octet, with the high bit set in all but the last. -/
def encodeChain : List Nat → Bytes
  | [] => []
  | [d] => [.ofNat d]
  | d :: rest => .ofNat (0x80 + d) :: encodeChain rest

/-- The octets of a tag.  Numbers from 31 on are written after the first octet. -/
def Tag.encode (t : Tag) : Bytes :=
  let first := t.cls * 0x40 + (if t.constructed then 0x20 else 0)
  if t.number < 31 then [.ofNat (first + t.number)]
  else .ofNat (first + 31) :: encodeChain (digits 0x80 t.number)

/-- The octets of a length.  Lengths from 128 on are written after an octet that counts them. -/
def encodeLength (n : Nat) : Bytes :=
  if n < 0x80 then [.ofNat n]
  else .ofNat (0x80 + (digits 0x100 n).length) :: (digits 0x100 n).map .ofNat

def Element.encode (e : Element) : Bytes :=
  e.tag.encode ++ (encodeLength e.content.length ++ e.content)

/-- The octets of several elements in a row. -/
def encodeAll (es : List Element) : Bytes := es.flatMap Element.encode

@[simp] theorem encodeAll_nil : encodeAll [] = [] := rfl

@[simp] theorem encodeAll_cons (e : Element) (es : List Element) :
    encodeAll (e :: es) = e.encode ++ encodeAll es := rfl

/-! ### Reading -/

/-- The number of a chain of seven-bit groups whose first groups are already read. -/
def chain? (high : Nat) : Bytes → Option (Nat × Bytes)
  | [] => none
  | b :: rest =>
    if b.toNat < 0x80 then some (high * 0x80 + b.toNat, rest)
    else chain? (high * 0x80 + (b.toNat - 0x80)) rest

/-- The first tag of octets.  Its number has at most thirty-two bits. -/
def tag? : Bytes → Option (Tag × Bytes)
  | [] => none
  | b :: rest =>
    let cls := b.toNat / 0x40
    let constructed := b.toNat / 0x20 % 2 == 1
    let low := b.toNat % 0x20
    if low ≠ 31 then some (⟨cls, constructed, low⟩, rest)
    else if rest.head? = some 0x80 then none
    else
      match chain? 0 rest with
      | some (number, rest) =>
        if 31 ≤ number ∧ number < Nat.pow 2 32 then some (⟨cls, constructed, number⟩, rest) else none
      | none => none

/-- The first length of octets. -/
def length? : Bytes → Option (Nat × Bytes)
  | [] => none
  | b :: rest =>
    if b.toNat < 0x80 then some (b.toNat, rest)
    else
      let count := b.toNat - 0x80
      let value := (rest.take count).foldl (fun n b => n * 0x100 + b.toNat) 0
      if count = 0 ∨ rest.length < count ∨ rest.head? = some 0 ∨ value < 0x80 then none
      else some (value, rest.drop count)

/-- The first element of octets. -/
def element? (bytes : Bytes) : Option (Element × Bytes) :=
  match tag? bytes with
  | none => none
  | some (tag, rest) =>
    match length? rest with
    | none => none
    | some (length, rest) =>
      if rest.length < length then none
      else some (⟨tag, rest.take length⟩, rest.drop length)

/-- The elements that octets are made of, up to a number of them. -/
def elementsUpTo : Nat → Bytes → Option (List Element)
  | _, [] => some []
  | 0, _ :: _ => none
  | n + 1, b :: bytes =>
    match element? (b :: bytes) with
    | none => none
    | some (e, rest) => (elementsUpTo n rest).map (e :: ·)

/-- The elements that octets are made of.  An element takes at least one octet. -/
def elements? (bytes : Bytes) : Option (List Element) := elementsUpTo bytes.length bytes

/-- The one element that octets are made of. -/
def single? (bytes : Bytes) : Option Element :=
  match element? bytes with
  | some (e, []) => some e
  | _ => none

/-! ### The order of a set -/

/-- The lexicographic order of octets. -/
def octetsLe : Bytes → Bytes → Bool
  | [], _ => true
  | _ :: _, [] => false
  | a :: as, b :: bs => a.toNat < b.toNat || (a.toNat == b.toNat && octetsLe as bs)

/-- The members of a set stand in the order of their encodings. -/
def isOrdered : List Element → Bool
  | [] => true
  | [_] => true
  | a :: b :: rest => octetsLe a.encode b.encode && isOrdered (b :: rest)

end ValidationReport.Der
