import ValidationReport.Text.Utf8

/-!
# Percent encoding

A percent sign and two hexadecimal digits stand for an octet, and octets in a row for text in
UTF-8.  An ASCII character is the octet of its number, so it may stand among escapes, while any
other character ends the octets before it.  Decoding is all or nothing: a text with a broken escape
or with octets that are no text is left as it is.

## Main definitions

* `Text.PercentUnit`, `Text.percentUnits?` — the octets and the other characters of a text.
* `Text.decodePercent?` — the decoded text, if all of it can be decoded.
* `Text.decodePercent` — the decoded text, or the text as it is.
-/

namespace ValidationReport.Text

/-- What a percent-encoded text is made of. -/
inductive PercentUnit where
  /-- An escape or an ASCII character. -/
  | octet (b : UInt8)
  /-- Any other character. -/
  | literal (c : Code)
  deriving DecidableEq, Repr

/-- The units of a text, in which every percent sign begins an escape. -/
def percentUnits? (t : Text) : Option (List PercentUnit) :=
  match t with
  | [] => some []
  | c :: rest =>
    if c = '%' then
      match rest with
      | a :: b :: rest =>
        match a.hexDigit?, b.hexDigit? with
        | some a, some b => (percentUnits? rest).map (.octet (.ofNat (a * 16 + b)) :: ·)
        | _, _ => none
      | _ => none
    else if c.val < 0x80 then (percentUnits? rest).map (.octet (.ofNat c.val) :: ·)
    else (percentUnits? rest).map (.literal c :: ·)

/-- The text of units after octets already seen, the latest first.  Octets in a row are decoded
together. -/
def ofPercentUnits? (seen : Bytes) : List PercentUnit → Option Text
  | [] => ofUtf8? seen.reverse
  | .octet b :: rest => ofPercentUnits? (b :: seen) rest
  | .literal c :: rest =>
    match ofUtf8? seen.reverse, ofPercentUnits? [] rest with
    | some before, some after => some (before ++ c :: after)
    | _, _ => none

/-- The decoded text, if all of it can be decoded. -/
def decodePercent? (t : Text) : Option Text := (percentUnits? t).bind (ofPercentUnits? [])

/-- The decoded text, or the text as it is if it cannot be decoded. -/
def decodePercent (t : Text) : Text := (decodePercent? t).getD t

end ValidationReport.Text
