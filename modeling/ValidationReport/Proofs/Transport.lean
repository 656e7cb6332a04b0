import ValidationReport.Proofs.Base64
import ValidationReport.Proofs.Damage
import ValidationReport.Proofs.Lines

/-!
# The transport of certificates

Engines hand a certificate over in base64 with blanks anywhere among the letters,
or in an armoured block with the letters cut into lines.  What a report says about
the certificate depends on its octets alone, so the form does not matter: reading
any of them gives back the octets, and the report shows these on one line.

Of an armoured block the lines of armour are left out, and what is left of the
other lines without the blanks around them are the letters.

## Main definitions

* `Spaced` — a text with blanks put in anywhere.
* `LineEnding`, `BodyLine`, `ArmouredBlock` — armoured blocks and their texts.
* `Carries` — the two forms in which octets are handed over.

## Main results

* `lettersOf_cut_ending` — a line gives its letters, whatever ends it.
* `certificateOctets?_of_carries` — **the octets are read in every form.**
* `certificate_of_carried` — **a report says the same in every form.**
-/

namespace ValidationReport

/-! ### Written letters -/

namespace Base64

theorem isBlank_eq_false_of_isWritten {c : Code} (h : isWritten c = true) :
    c.isBlank = false := by
  have hrange := isWritten_iff.mp h
  rw [Bool.eq_false_iff]
  intro hblank
  simp only [Code.isBlank, Code.isWhite, Bool.or_eq_true, Bool.and_eq_true, decide_eq_true_eq,
    beq_iff_eq] at hblank
  omega

theorem isLineEnd_eq_false_of_isWritten {c : Code} (h : isWritten c = true) :
    c.isLineEnd = false := by
  rw [Bool.eq_false_iff]
  intro hend
  have hblank := Code.isBlank_of_isLineEnd hend
  rw [isBlank_eq_false_of_isWritten h] at hblank
  cases hblank

/-- No dash is written, so armour is told from letters. -/
theorem ne_dash_of_isWritten {c : Code} (h : isWritten c = true) : c ≠ '-' := by
  rintro rfl
  revert h
  decide

end Base64

/-! ### Letters among blanks -/

/-- A text with blanks put in anywhere. -/
inductive Spaced : Text → Text → Prop
  | nil : Spaced [] []
  | letter (c : Code) {t u : Text} (h : Spaced t u) : Spaced (c :: t) (c :: u)
  | blank (c : Code) (hc : c.isBlank = true) {t u : Text} (h : Spaced t u) : Spaced t (c :: u)

theorem Spaced.squeeze_eq {t u : Text} (h : Spaced t u) : u.squeeze = t.squeeze := by
  induction h with
  | nil => rfl
  | letter c h ih =>
    unfold Text.squeeze at ih ⊢
    rw [List.filter_cons, List.filter_cons, ih]
  | blank c hc h ih =>
    unfold Text.squeeze at ih ⊢
    rw [List.filter_cons_of_neg (by simp [hc]), ih]

theorem Spaced.mem_or_isBlank {t u : Text} (h : Spaced t u) :
    ∀ c ∈ u, c ∈ t ∨ c.isBlank = true := by
  induction h with
  | nil =>
    intro c hc
    cases hc
  | letter a h ih =>
    intro c hc
    rcases List.mem_cons.mp hc with rfl | hc
    · exact Or.inl List.mem_cons_self
    · exact (ih c hc).imp_left (List.mem_cons_of_mem a)
  | blank a ha h ih =>
    intro c hc
    rcases List.mem_cons.mp hc with rfl | hc
    · exact Or.inr ha
    · exact ih c hc

/-- Letters among blanks are read by the strict reader. -/
theorem certificateOctets?_of_spaced {d : Bytes} {c : Text} (h : Spaced (Base64.encode d) c) :
    certificateOctets? c = some d := by
  have hwritten : ∀ a ∈ Base64.encode d, Base64.isWritten a = true := fun a ha =>
    Base64.isWritten_of_mem_encode ha
  have hdash : ('-' : Code) ∉ c.trim := by
    intro hmem
    rcases h.mem_or_isBlank _ (Text.trim_subset c hmem) with hletter | hblank
    · exact Base64.ne_dash_of_isWritten (hwritten _ hletter) rfl
    · revert hblank
      decide
  have hplain : ¬ c.trim.beginsWith armourStart = true := by
    intro hbegins
    have hstart : armourStart <+: c.trim := List.isPrefixOf_iff_prefix.mp hbegins
    exact hdash (hstart.subset (by decide))
  have hsqueeze : c.trim.squeeze = Base64.encode d := by
    rw [Text.squeeze_trim, h.squeeze_eq]
    exact Text.squeeze_of_no_blank fun a ha =>
      Base64.isBlank_eq_false_of_isWritten (hwritten a ha)
  unfold certificateOctets?
  rw [if_neg hplain, hsqueeze, Base64.decode?_encode]

/-! ### Lines -/

/-- What ends a line. -/
inductive LineEnding
  | lineFeed
  | returnAndFeed
  | carriageReturn
  deriving DecidableEq, Repr

def LineEnding.text : LineEnding → Text
  | .lineFeed => [Code.ofNat 0x0A]
  | .returnAndFeed => [Code.ofNat 0x0D, Code.ofNat 0x0A]
  | .carriageReturn => [Code.ofNat 0x0D]

/-- **A line ending ends a line, and whatever it is made of, no letters are lost.** -/
theorem lettersOf_cut_ending (s : Text) (e : LineEnding) (t : Text) :
    lettersOf (Text.cut (s ++ (e.text ++ t))) = lettersOf s.cut ++ lettersOf t.cut := by
  have hend : ∀ (c : Code) (s t : Text), c.isLineEnd = true →
      lettersOf (Text.cut (s ++ c :: t)) = lettersOf s.cut ++ lettersOf t.cut := by
    intro c s t hc
    rw [Text.cut_append_cons hc, lettersOf_append]
  cases e with
  | lineFeed => exact hend _ s t (by decide)
  | carriageReturn => exact hend _ s t (by decide)
  | returnAndFeed =>
    -- Between the two there is an empty piece.
    have hfeed := hend (Code.ofNat 0x0A) [] t (by decide)
    exact (hend _ s _ (by decide)).trans (congrArg (lettersOf s.cut ++ ·) hfeed)

/-! ### Armoured blocks -/

/-- A space or a tab. -/
def Code.isPadding (c : Code) : Bool := c.val == 0x20 || c.val == 0x09

/-- A line of letters with spaces and tabs around them. -/
structure BodyLine where
  before : Text
  letters : Text
  after : Text
  ending : LineEnding
  isPadding_before : ∀ c ∈ before, c.isPadding = true
  isPadding_after : ∀ c ∈ after, c.isPadding = true

/-- A line without its end. -/
def BodyLine.line (l : BodyLine) : Text := l.before ++ (l.letters ++ l.after)

def BodyLine.text (l : BodyLine) : Text := l.line ++ l.ending.text

/-- The end of an armoured block. -/
def armourEnd : Text := "-----END"

/-- An armoured block with blanks around it. -/
structure ArmouredBlock where
  lead : Text
  /-- What follows the beginning of the first line. -/
  label : Text
  ending : LineEnding
  body : List BodyLine
  /-- What stands before and after the mark in the last line. -/
  front : Text
  back : Text
  trail : Text
  allBlank_lead : lead.AllBlank
  oneLine_label : label.OneLine
  oneLine_front : front.OneLine
  oneLine_back : back.OneLine
  allBlank_trail : trail.AllBlank

namespace ArmouredBlock

/-- The lines of a block, of which the last one ends with a text. -/
def lines (b : ArmouredBlock) (back : Text) : Text :=
  (armourStart ++ b.label) ++ (b.ending.text ++
    (b.body.flatMap BodyLine.text ++ (b.front ++ (armourEnd ++ back))))

def text (b : ArmouredBlock) : Text := b.lead ++ (b.lines b.back ++ b.trail)

def letters (b : ArmouredBlock) : Text := b.body.flatMap BodyLine.letters

end ArmouredBlock

theorem Code.isBlank_of_isPadding {c : Code} (h : c.isPadding = true) : c.isBlank = true := by
  simp only [isPadding, isBlank, isWhite, Bool.or_eq_true, Bool.and_eq_true, decide_eq_true_eq,
    beq_iff_eq] at h ⊢
  omega

theorem Code.isLineEnd_eq_false_of_isPadding {c : Code} (h : c.isPadding = true) :
    c.isLineEnd = false := by
  rw [Bool.eq_false_iff]
  intro hend
  simp only [isPadding, isLineEnd, Bool.or_eq_true, Bool.and_eq_true, decide_eq_true_eq,
    beq_iff_eq] at h hend
  omega

namespace BodyLine

variable {l : BodyLine}

theorem mem_line {c : Code} (h : c ∈ l.line) : c ∈ l.letters ∨ c.isPadding = true := by
  unfold line at h
  rw [List.mem_append, List.mem_append] at h
  rcases h with h | h | h
  · exact Or.inr (l.isPadding_before c h)
  · exact Or.inl h
  · exact Or.inr (l.isPadding_after c h)

theorem oneLine_line (h : ∀ c ∈ l.letters, Base64.isWritten c = true) : l.line.OneLine := by
  intro c hc
  rcases mem_line hc with hletter | hpadding
  · exact Base64.isLineEnd_eq_false_of_isWritten (h c hletter)
  · exact Code.isLineEnd_eq_false_of_isPadding hpadding

theorem trim_line (h : ∀ c ∈ l.letters, Base64.isWritten c = true) : l.line.trim = l.letters := by
  have hbefore : l.before.AllBlank := fun c hc =>
    Code.isBlank_of_isPadding (l.isPadding_before c hc)
  have hafter : l.after.AllBlank := fun c hc =>
    Code.isBlank_of_isPadding (l.isPadding_after c hc)
  unfold line
  rw [Text.trim_append_left hbefore, Text.trim_append_right _ hafter]
  exact Text.trim_of_no_blank fun c hc => Base64.isBlank_eq_false_of_isWritten (h c hc)

/-- A line of letters is no armour, and gives its letters. -/
theorem lettersOf_line (h : ∀ c ∈ l.letters, Base64.isWritten c = true) :
    lettersOf [l.line] = l.letters := by
  have hplain : Text.contains armourMark l.line = false := by
    rw [Bool.eq_false_iff, ne_eq, Text.contains_iff]
    intro hmark
    have hdash : ('-' : Code) ∈ l.line := hmark.subset (by decide)
    rcases mem_line hdash with hletter | hpadding
    · exact Base64.ne_dash_of_isWritten (h _ hletter) rfl
    · revert hpadding
      decide
  simp [lettersOf, hplain, trim_line h]

end BodyLine

/-- The lines of letters give their letters one after the other. -/
theorem lettersOf_cut_body (last : Text) {body : List BodyLine}
    (h : ∀ l ∈ body, ∀ c ∈ l.letters, Base64.isWritten c = true) :
    lettersOf (Text.cut (body.flatMap BodyLine.text ++ last)) =
      body.flatMap BodyLine.letters ++ lettersOf last.cut := by
  induction body with
  | nil => rfl
  | cons l body ih =>
    have hl : ∀ c ∈ l.letters, Base64.isWritten c = true := h l List.mem_cons_self
    have hbody : ∀ l' ∈ body, ∀ c ∈ l'.letters, Base64.isWritten c = true := fun l' hl' =>
      h l' (List.mem_cons_of_mem l hl')
    rw [List.flatMap_cons, List.flatMap_cons, BodyLine.text, List.append_assoc, List.append_assoc,
      List.append_assoc, lettersOf_cut_ending, (BodyLine.oneLine_line hl).cut_eq,
      BodyLine.lettersOf_line hl, ih hbody]

namespace ArmouredBlock

variable (b : ArmouredBlock)

/-- Trimming takes the blanks around a block, and those at the end of its last line. -/
theorem trim_text : b.text.trim = b.lines (Text.dropEndWhile Code.isBlank b.back) := by
  have hblank : Code.isBlank 'D' = false := by decide
  have hstart : ∀ t : Text, (armourStart ++ t).dropWhile Code.isBlank = armourStart ++ t :=
    fun t => List.dropWhile_cons_of_neg (by decide)
  -- The mark of the last line stays, so nothing before its last letter is dropped.
  have hmark : armourEnd = ("-----EN" : Text) ++ [('D' : Code)] := by decide
  have hsplit : ∀ t : Text, b.lines t = armourStart ++ (b.label ++ (b.ending.text ++
      (b.body.flatMap BodyLine.text ++ (b.front ++ ("-----EN" : Text))))) ++ ('D' : Code) :: t := by
    intro t
    simp only [lines, hmark, List.append_assoc, List.singleton_append]
  unfold text
  rw [Text.trim_append_left b.allBlank_lead, Text.trim_append_right _ b.allBlank_trail, hsplit,
    hsplit]
  unfold Text.trim Text.trimWhile
  rw [List.append_assoc, hstart, ← List.append_assoc, Text.dropEndWhile_append_cons hblank]

/-- The letters of a block are those of its lines. -/
theorem armourBody_lines {back : Text} (hback : back.OneLine)
    (h : ∀ c ∈ b.letters, Base64.isWritten c = true) : armourBody (b.lines back) = b.letters := by
  have hfirst : (armourStart ++ b.label).OneLine :=
    Text.OneLine.append (by decide) b.oneLine_label
  have hlast : (b.front ++ (armourEnd ++ back)).OneLine :=
    b.oneLine_front.append (Text.OneLine.append (by decide) hback)
  have hmarkFirst : armourMark <:+: armourStart ++ b.label :=
    ⟨[], ("BEGIN" : Text) ++ b.label, by rfl⟩
  have hmarkLast : armourMark <:+: b.front ++ (armourEnd ++ back) :=
    ⟨b.front, ("END" : Text) ++ back, by rw [List.append_assoc]; rfl⟩
  have hbody : ∀ l ∈ b.body, ∀ c ∈ l.letters, Base64.isWritten c = true := fun l hl c hc =>
    h c (List.mem_flatMap.mpr ⟨l, hl, hc⟩)
  rw [armourBody_eq, lettersOf_lines, lines, lettersOf_cut_ending, lettersOf_cut_body _ hbody,
    hfirst.cut_eq, hlast.cut_eq, lettersOf_armour hmarkFirst, lettersOf_armour hmarkLast]
  exact List.append_nil _

end ArmouredBlock

/-- Letters in an armoured block are read by the lenient reader. -/
theorem certificateOctets?_of_armoured {d : Bytes} {b : ArmouredBlock}
    (h : b.letters = Base64.encode d) : certificateOctets? b.text = some d := by
  have hwritten : ∀ c ∈ b.letters, Base64.isWritten c = true := fun c hc =>
    Base64.isWritten_of_mem_encode (h ▸ hc)
  have hback : Text.OneLine (Text.dropEndWhile Code.isBlank b.back) := fun c hc =>
    b.oneLine_back c (Text.dropEndWhile_subset _ _ hc)
  have hbegins : b.text.trim.beginsWith armourStart = true := by
    rw [b.trim_text]
    apply List.isPrefixOf_iff_prefix.mpr
    exact ⟨_, (List.append_assoc _ _ _).symm⟩
  unfold certificateOctets?
  rw [if_pos hbegins, b.trim_text, b.armourBody_lines hback hwritten, h,
    Base64.decodeLenient?_encode]

/-! ### Either form -/

/-- A text hands octets over: their base64 among blanks, or in an armoured block. -/
inductive Carries (d : Bytes) (c : Text) : Prop
  | spaced (h : Spaced (Base64.encode d) c)
  | armoured (b : ArmouredBlock) (hc : c = b.text) (h : b.letters = Base64.encode d)

/-- **The octets are read in every form.** -/
theorem certificateOctets?_of_carries {d : Bytes} {c : Text} (h : Carries d c) :
    certificateOctets? c = some d := by
  cases h with
  | spaced h => exact certificateOctets?_of_spaced h
  | armoured b hc h =>
    subst hc
    exact certificateOctets?_of_armoured h

/-- The base64 on one line is a form as well. -/
theorem carries_encode (d : Bytes) : Carries d (Base64.encode d) := by
  have hrefl : ∀ t : Text, Spaced t t := by
    intro t
    induction t with
    | nil => exact .nil
    | cons c t ih => exact .letter c ih
  exact .spaced (hrefl _)

/-- **A report says the same in every form.**  It shows the base64 on one line, and what it says
about the subject, or that the processing stops, is said about this base64 as well. -/
theorem certificate_of_carried {d : Bytes} {c : Text} (h : Carries d c) :
    normalizeCertificate c = Base64.encode d ∧
      commonName c = commonName (Base64.encode d) ∧
      subjectName (some c) = subjectName (some (Base64.encode d)) ∧
      ∀ role, certificateEntry role c = certificateEntry role (Base64.encode d) := by
  have hread : certificateOctets? c = some d := certificateOctets?_of_carries h
  have hline : certificateOctets? (Base64.encode d) = some d :=
    certificateOctets?_of_carries (carries_encode d)
  have hsubject : subjectOf c = subjectOf (Base64.encode d) := by
    unfold subjectOf
    rw [hread, hline]
  have hnormal : ∀ t, certificateOctets? t = some d → normalizeCertificate t = Base64.encode d := by
    intro t ht
    unfold normalizeCertificate
    rw [ht]
  have hname : commonName c = commonName (Base64.encode d) := by
    unfold commonName
    rw [hsubject]
  refine ⟨hnormal c hread, hname, ?_, ?_⟩
  · rw [subjectName_some, subjectName_some, hsubject]
  · intro role
    unfold certificateEntry
    rw [hname, hnormal c hread, hnormal _ hline]

/-- A block whose lines end in three ways, with padding and an empty line. -/
def sampleBlock : ArmouredBlock where
  lead := " "
  label := " CERTIFICATE-----"
  ending := .carriageReturn
  body := [
    ⟨[], [], [], .lineFeed, by decide, by decide⟩,
    ⟨"\t", "AQI", " ", .returnAndFeed, by decide, by decide⟩,
    ⟨[], "DBA=", [], .carriageReturn, by decide, by decide⟩,
    ⟨[], "=", [], .lineFeed, by decide, by decide⟩]
  front := []
  back := " CERTIFICATE-----"
  trail := "\r\n"
  allBlank_lead := by decide
  oneLine_label := by decide
  oneLine_front := by decide
  oneLine_back := by decide
  allBlank_trail := by decide

/-- What is said about a block, read off the base64 on one line. -/
theorem certificate_of_carried_block : Carries [1, 2, 3, 4] sampleBlock.text ∧
    normalizeCertificate sampleBlock.text = "AQIDBA==" ∧
      commonName sampleBlock.text = commonName "AQIDBA==" := by
  have hcarries : Carries [1, 2, 3, 4] sampleBlock.text := .armoured sampleBlock rfl (by decide)
  have hencode : Base64.encode [1, 2, 3, 4] = "AQIDBA==" := by decide
  obtain ⟨hnormal, hname, -, -⟩ := certificate_of_carried hcarries
  rw [hencode] at hnormal hname
  exact ⟨hcarries, hnormal, hname⟩

end ValidationReport
