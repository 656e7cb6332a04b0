import ValidationReport.Text.Basic

/-!
# Base64

Three octets are four sextets, and a sextet is written as one of sixty-four letters.  Two readers
exist.  The strict one takes letters and then padding, and nothing else; the bits that padding
leaves over are not looked at, and padding after a complete group is of no account.  The lenient
one, for armoured text, passes over foreign ASCII characters and stops where padding completes a
group.

## Main definitions

* `Base64.encode` — the letters of octets, with padding.
* `Base64.decode?` — the strict reader.
* `Base64.decodeLenient?` — the lenient reader.
-/

namespace ValidationReport.Base64

/-- The letter of a sextet. -/
def letter (n : Nat) : Code :=
  if n < 26 then Code.ofNat (0x41 + n)
  else if n < 52 then Code.ofNat (0x61 + (n - 26))
  else if n < 62 then Code.ofNat (0x30 + (n - 52))
  else if n = 62 then '+'
  else '/'

/-- The sextet that a letter stands for. -/
def sextet? (c : Code) : Option Nat :=
  if 0x41 ≤ c.val ∧ c.val ≤ 0x5A then some (c.val - 0x41)
  else if 0x61 ≤ c.val ∧ c.val ≤ 0x7A then some (c.val - 0x61 + 26)
  else if 0x30 ≤ c.val ∧ c.val ≤ 0x39 then some (c.val - 0x30 + 52)
  else if c.val = 0x2B then some 62
  else if c.val = 0x2F then some 63
  else none

def pad : Code := '='

/-- The letters of octets: four for every three, and padding up to a multiple of four. -/
def encode : Bytes → Text
  | [] => []
  | [a] => [letter (a.toNat / 4), letter (a.toNat % 4 * 16), pad, pad]
  | [a, b] =>
    [letter (a.toNat / 4), letter (a.toNat % 4 * 16 + b.toNat / 16), letter (b.toNat % 16 * 4), pad]
  | a :: b :: c :: rest =>
    letter (a.toNat / 4) :: letter (a.toNat % 4 * 16 + b.toNat / 16) ::
      letter (b.toNat % 16 * 4 + c.toNat / 64) :: letter (c.toNat % 64) :: encode rest

/-- The octets in sextets.  Two sextets left over hold one octet and three hold two; the rest of
their bits is dropped. -/
def octets : List Nat → Bytes
  | a :: b :: c :: d :: rest =>
    .ofNat (a * 4 + b / 16) :: .ofNat (b % 16 * 16 + c / 4) :: .ofNat (c % 4 * 64 + d) ::
      octets rest
  | [a, b, c] => [.ofNat (a * 4 + b / 16), .ofNat (b % 16 * 16 + c / 4)]
  | [a, b] => [.ofNat (a * 4 + b / 16)]
  | _ => []

/-- The number of padding characters that may follow a number of letters: exactly what completes a
group, and any number after complete groups unless there are none. -/
def isPadding (letters padding : Nat) : Bool :=
  match letters % 4 with
  | 0 => letters != 0 || padding == 0
  | 2 => padding == 2
  | 3 => padding == 1
  | _ => false

/-- The strict reader: letters, then padding. -/
def decode? (t : Text) : Option Bytes :=
  let body := t.takeWhile fun c => (sextet? c).isSome
  let rest := t.dropWhile fun c => (sextet? c).isSome
  if rest.all (· = pad) && isPadding body.length rest.length then
    some (octets (body.filterMap sextet?))
  else none

/-- The sextets up to the end, or up to the padding that completes a group.  Counted are the
sextets of the group begun and the padding seen since its last letter; padding before the third
place of a group is passed over. -/
def lenientSextets? (place padding : Nat) : Text → Option (List Nat)
  | [] => if place = 0 then some [] else none
  | c :: rest =>
    if c = pad then
      if place < 2 then lenientSextets? place padding rest
      else if 4 ≤ place + padding + 1 then some []
      else lenientSextets? place (padding + 1) rest
    else
      match sextet? c with
      | some s => (lenientSextets? ((place + 1) % 4) 0 rest).map (s :: ·)
      | none => lenientSextets? place padding rest

/-- The lenient reader: foreign characters are passed over if they are ASCII. -/
def decodeLenient? (t : Text) : Option Bytes :=
  if t.all (·.val < 0x80) then (lenientSextets? 0 0 t).map octets else none

end ValidationReport.Base64
