import ValidationReport.Json.Basic
import ValidationReport.Number.Shortest

/-!
# Writing JSON

Values are written on one line in ASCII: other code points are escaped, those above `U+FFFF` as
surrogate pairs.

## Main definitions

* `Json.render` — the written form of a value.
-/

namespace ValidationReport.Json

/-- The hexadecimal digit of a number below sixteen. -/
def hexDigit (n : Nat) : Code :=
  if n < 10 then .ofNat (0x30 + n) else .ofNat (0x61 + (n - 10))

/-- The escape of a number below `0x10000`. -/
def escapeUnit (n : Nat) : Text :=
  [.ofNat 0x5C, 'u', hexDigit (n / 0x1000 % 16), hexDigit (n / 0x100 % 16), hexDigit (n / 16 % 16),
    hexDigit (n % 16)]

/-- A code point inside a string. -/
def renderCode (c : Code) : Text :=
  if c.val = 0x22 ∨ c.val = 0x5C then [.ofNat 0x5C, c]
  else if 0x20 ≤ c.val ∧ c.val < 0x7F then [c]
  else if c.val < 0x10000 then escapeUnit c.val
  else
    escapeUnit (0xD800 + (c.val - 0x10000) / 0x400) ++
      escapeUnit (0xDC00 + (c.val - 0x10000) % 0x400)

/-- A string with its quotes. -/
def renderText (t : Text) : Text := (.ofNat 0x22 : Code) :: t.flatMap renderCode ++ [.ofNat 0x22]

def renderFloat : Binary64 → Text
  | .nan => "NaN"
  | .infinity negative => if negative then "-Infinity" else "Infinity"
  | x => x.text

mutual

def render : Json → Text
  | .null => "null"
  | .bool b => if b then "true" else "false"
  | .int i => Text.integer i
  | .float x => renderFloat x
  | .str t => renderText t
  | .arr items => (.ofNat 0x5B : Code) :: (renderItems items ++ [.ofNat 0x5D])
  | .obj members => (.ofNat 0x7B : Code) :: (renderMembers members ++ [.ofNat 0x7D])

/-- The written forms of items, with commas between them. -/
def renderItems : List Json → Text
  | [] => []
  | [j] => j.render
  | j :: k :: rest => j.render ++ (("," : Text) ++ renderItems (k :: rest))

/-- The written forms of members, with commas between them. -/
def renderMembers : List (Text × Json) → Text
  | [] => []
  | [(k, v)] => renderText k ++ ((":" : Text) ++ v.render)
  | (k, v) :: m :: rest =>
    renderText k ++ ((":" : Text) ++ (v.render ++ (("," : Text) ++ renderMembers (m :: rest))))

end

end ValidationReport.Json
