import ValidationReport.Text.Basic

/-!
# Encoding forms

Reading is strict: UTF-8 admits neither overlong forms nor surrogates, UTF-16 only paired
surrogates, UTF-32 only scalar values.  Octets that are no encoding of any text are refused as a
whole.

## Main definitions

* `Code.utf8`, `Text.utf8` — the UTF-8 form of a code point and of a text.
* `Text.ofUtf8?` — the text that octets encode.
* `Text.ofUtf16?`, `Text.ofUtf32?` — the same for the big-endian wide forms.
-/

namespace ValidationReport

def Code.utf8 (c : Code) : Bytes :=
  if c.val < 0x80 then [.ofNat c.val]
  else if c.val < 0x800 then [.ofNat (0xC0 + c.val / 0x40), .ofNat (0x80 + c.val % 0x40)]
  else if c.val < 0x10000 then
    [.ofNat (0xE0 + c.val / 0x1000), .ofNat (0x80 + c.val / 0x40 % 0x40),
      .ofNat (0x80 + c.val % 0x40)]
  else
    [.ofNat (0xF0 + c.val / 0x40000), .ofNat (0x80 + c.val / 0x1000 % 0x40),
      .ofNat (0x80 + c.val / 0x40 % 0x40), .ofNat (0x80 + c.val % 0x40)]

namespace Text

def utf8 (t : Text) : Bytes := t.flatMap Code.utf8

@[simp] theorem utf8_nil : utf8 [] = [] := rfl

@[simp] theorem utf8_cons (c : Code) (t : Text) : utf8 (c :: t) = c.utf8 ++ utf8 t := rfl

/-- An octet that continues a UTF-8 sequence. -/
def isContinuation (b : UInt8) : Bool := 0x80 ≤ b.toNat && b.toNat < 0xC0

/-- The octets that may follow the first octet of a UTF-8 sequence.  The narrower ranges keep out
overlong forms, surrogates and numbers above `0x10FFFF`. -/
def isSecond (first second : UInt8) : Bool :=
  if first.toNat = 0xE0 then 0xA0 ≤ second.toNat && second.toNat < 0xC0
  else if first.toNat = 0xED then 0x80 ≤ second.toNat && second.toNat < 0xA0
  else if first.toNat = 0xF0 then 0x90 ≤ second.toNat && second.toNat < 0xC0
  else if first.toNat = 0xF4 then 0x80 ≤ second.toNat && second.toNat < 0x90
  else isContinuation second

/-- The text that octets encode in UTF-8. -/
def ofUtf8? (bytes : Bytes) : Option Text :=
  match bytes with
  | [] => some []
  | a :: bytes =>
    if a.toNat < 0x80 then (ofUtf8? bytes).map (Code.ofNat a.toNat :: ·)
    else if 0xC2 ≤ a.toNat ∧ a.toNat < 0xE0 then
      match bytes with
      | b :: bytes =>
        if isSecond a b then
          (ofUtf8? bytes).map (Code.ofNat ((a.toNat - 0xC0) * 0x40 + (b.toNat - 0x80)) :: ·)
        else none
      | [] => none
    else if 0xE0 ≤ a.toNat ∧ a.toNat < 0xF0 then
      match bytes with
      | b :: c :: bytes =>
        if isSecond a b && isContinuation c then
          (ofUtf8? bytes).map
            (Code.ofNat ((a.toNat - 0xE0) * 0x1000 + (b.toNat - 0x80) * 0x40 + (c.toNat - 0x80))
              :: ·)
        else none
      | _ => none
    else if 0xF0 ≤ a.toNat ∧ a.toNat < 0xF5 then
      match bytes with
      | b :: c :: d :: bytes =>
        if isSecond a b && isContinuation c && isContinuation d then
          (ofUtf8? bytes).map
            (Code.ofNat ((a.toNat - 0xF0) * 0x40000 + (b.toNat - 0x80) * 0x1000 +
              (c.toNat - 0x80) * 0x40 + (d.toNat - 0x80)) :: ·)
        else none
      | _ => none
    else none

/-- The sixteen-bit units of big-endian octets. -/
def units16? : Bytes → Option (List Code)
  | [] => some []
  | [_] => none
  | a :: b :: rest => (units16? rest).map (Code.ofNat (a.toNat * 0x100 + b.toNat) :: ·)

/-- Sixteen-bit units with every surrogate pair joined into the code point it names, and nothing
when a surrogate stands alone. -/
def paired? (units : List Code) : Option Text :=
  match units with
  | [] => some []
  | u :: units =>
    if u.isHighSurrogate then
      match units with
      | v :: units =>
        if v.isLowSurrogate then (paired? units).map (Code.ofSurrogates u v :: ·) else none
      | [] => none
    else if u.isLowSurrogate then none
    else (paired? units).map (u :: ·)

/-- The text that octets encode in big-endian UTF-16. -/
def ofUtf16? (bytes : Bytes) : Option Text := (units16? bytes).bind paired?

/-- The text that octets encode in big-endian UTF-32. -/
def ofUtf32? : Bytes → Option Text
  | [] => some []
  | a :: b :: c :: d :: rest =>
    let n := a.toNat * 0x1000000 + b.toNat * 0x10000 + c.toNat * 0x100 + d.toNat
    if n < 0x110000 ∧ (Code.ofNat n).isScalar then (ofUtf32? rest).map (Code.ofNat n :: ·)
    else none
  | _ => none

end Text

end ValidationReport
