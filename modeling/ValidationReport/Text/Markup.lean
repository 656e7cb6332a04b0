import ValidationReport.Text.Basic

/-!
# Markup

Text in markup is escaped, so that none of it is taken for a tag or an entity.  Long words without
spaces are given places where a line may break.

## Main definitions

* `Text.escaped`, `Text.unescaped` — text in markup, and back.
* `Text.breakable` — a text with invisible breaks at equal distances.
-/

namespace ValidationReport

def Code.escaped (c : Code) : Text :=
  if c = '&' then "&amp;" else if c = '<' then "&lt;" else if c = '>' then "&gt;" else [c]

namespace Text

def escaped (t : Text) : Text := t.flatMap Code.escaped

@[simp] theorem escaped_nil : escaped [] = [] := rfl

@[simp] theorem escaped_cons (c : Code) (t : Text) :
    escaped (c :: t) = c.escaped ++ escaped t := rfl

@[simp] theorem escaped_append (s t : Text) : escaped (s ++ t) = escaped s ++ escaped t := by
  simp [escaped]

/-- The text that markup without tags shows after a number of code points, which belong to an
entity that is shown already.  An ampersand that begins no entity shows itself. -/
def unescapedAfter : Nat → Text → Text
  | _, [] => []
  | skipped + 1, _ :: rest => unescapedAfter skipped rest
  | 0, c :: rest =>
    if beginsWith (c :: rest) "&amp;" then ('&' : Code) :: unescapedAfter 4 rest
    else if beginsWith (c :: rest) "&lt;" then ('<' : Code) :: unescapedAfter 3 rest
    else if beginsWith (c :: rest) "&gt;" then ('>' : Code) :: unescapedAfter 3 rest
    else c :: unescapedAfter 0 rest

/-- The text that markup without tags shows. -/
def unescaped (t : Text) : Text := unescapedAfter 0 t

/-- A zero-width space, at which a line may break. -/
def breakMark : Code := .ofNat 0x200B

/-- Marks inside a text with a number of code points left before the next mark.  None stands at
the end. -/
def breakAfter (step : Nat) : Nat → Text → Text
  | _, [] => []
  | 0, c :: rest => breakMark :: c :: breakAfter step (step - 1) rest
  | left + 1, c :: rest => c :: breakAfter step left rest

/-- A text with a mark after every thirty-two code points. -/
def breakable (t : Text) : Text := breakAfter 32 32 t

end Text

end ValidationReport
