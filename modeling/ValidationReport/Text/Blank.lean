import ValidationReport.Text.Basic

/-!
# White space and line boundaries

Two classes of code points separate words.  The property White_Space of Unicode has twenty-five
members; text is trimmed and split at these and at the four information separators
`U+001C` to `U+001F`.  Zero-width characters belong to neither class.

## Main definitions

* `Code.isWhite`, `Code.isBlank` — the two classes.
* `Text.trim`, `Text.squeeze` — a text without blanks at its ends, and without any blank.
* `Text.lines` — a text cut at its line boundaries.
-/

namespace ValidationReport

namespace Code

/-- The property White_Space. -/
def isWhite (c : Code) : Bool :=
  (0x09 ≤ c.val && c.val ≤ 0x0D) || c.val == 0x20 || c.val == 0x85 || c.val == 0xA0 ||
    c.val == 0x1680 || (0x2000 ≤ c.val && c.val ≤ 0x200A) || c.val == 0x2028 || c.val == 0x2029 ||
    c.val == 0x202F || c.val == 0x205F || c.val == 0x3000

/-- White space, or one of the four information separators. -/
def isBlank (c : Code) : Bool := c.isWhite || (0x1C ≤ c.val && c.val ≤ 0x1F)

theorem isBlank_of_isWhite {c : Code} (h : c.isWhite = true) : c.isBlank = true := by
  simp [isBlank, h]

/-- A code point that ends a line: line feed to carriage return, the first three information
separators, next line, and the line and paragraph separators. -/
def isLineEnd (c : Code) : Bool :=
  (0x0A ≤ c.val && c.val ≤ 0x0D) || (0x1C ≤ c.val && c.val ≤ 0x1E) || c.val == 0x85 ||
    c.val == 0x2028 || c.val == 0x2029

theorem isBlank_of_isLineEnd {c : Code} (h : c.isLineEnd = true) : c.isBlank = true := by
  simp only [isLineEnd, isBlank, isWhite, Bool.or_eq_true, Bool.and_eq_true, decide_eq_true_eq,
    beq_iff_eq] at h ⊢
  omega

end Code

namespace Text

/-- The text without the code points of a class at its end. -/
def dropEndWhile (p : Code → Bool) (t : Text) : Text :=
  (t.reverse.dropWhile p).reverse

/-- The text without the code points of a class at either end. -/
def trimWhile (p : Code → Bool) (t : Text) : Text := dropEndWhile p (t.dropWhile p)

/-- The text without blanks at either end. -/
def trim (t : Text) : Text := t.trimWhile Code.isBlank

/-- The text with every blank left out. -/
def squeeze (t : Text) : Text := t.filter fun c => !c.isBlank

@[simp] theorem trim_nil : trim [] = [] := rfl

@[simp] theorem squeeze_nil : squeeze [] = [] := rfl

@[simp] theorem squeeze_append (s t : Text) : squeeze (s ++ t) = squeeze s ++ squeeze t := by
  simp [squeeze]

/-- The lines of a text whose first line begins with the code points read so far, the latest
first.  A line end closes its line, a line feed right after a carriage return belongs to the same
line end, and nothing after the last line end is no line. -/
def linesFrom (line : Text) (afterReturn : Bool) : Text → List Text
  | [] => if line.isEmpty then [] else [line.reverse]
  | c :: rest =>
    if afterReturn && c.val == 0x0A then linesFrom line false rest
    else if c.isLineEnd then line.reverse :: linesFrom [] (c.val == 0x0D) rest
    else linesFrom (c :: line) false rest

/-- The lines of a text without their line ends. -/
def lines (t : Text) : List Text := linesFrom [] false t

end Text

end ValidationReport
