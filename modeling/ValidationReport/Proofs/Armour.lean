import Mathlib.Data.List.Flatten
import ValidationReport.Proofs.Reread

/-!
# Certificates in armour

Armour is recognised by the beginning of a text, but it is left out line by line, and
a line with a mark goes as a whole.  So the letters of a certificate are read where
they stand on lines of their own, and those that share a line with a marker are lost.
If the markers and all letters are on one line, nothing is left, and the report shows
an empty text; if only the first or the last letters share a line, the report may show
other octets than the certificate's.

The lines that are left need not be read: a blank beyond ASCII among the letters, or
letters that do not fill their last group, and the text is reported as it is.  Then
nothing is lost.

## Main definitions

* `ArmouredText` — base64 between two markers, with blanks of any kind or none.
* `ArmouredText.kept` — what is left of it when lines with a mark are left out.
* `ArmouredText.Preserved` — the report shows the octets, or the text as it is.
* `ArmouredText.OnOwnLines` — the letters share no line with a marker.

## Main results

* `ArmouredText.certificateOctets?_text` — **what is read is what is left.**
* `ArmouredText.eq_octets_iff` — the octets that are read are those in the armour if
  no letter is lost.
* `normalizeCertificate_of_armoured` — **when a certificate in armour is preserved,
  and when nothing is left of it.**
-/

namespace ValidationReport

/-! ### Letters among blanks -/

namespace Base64

/-- A blank is no letter and no padding. -/
theorem not_written_of_isBlank {c : Code} (h : c.isBlank = true) : sextet? c = none ∧ c ≠ pad := by
  have hwritten : isWritten c = false := by
    rw [Bool.eq_false_iff]
    intro hwritten
    rw [isBlank_eq_false_of_isWritten hwritten] at h
    cases h
  unfold isWritten at hwritten
  rw [Bool.or_eq_false_iff, beq_eq_false_iff_ne, Option.isSome_eq_false_iff,
    Option.isNone_iff_eq_none] at hwritten
  exact hwritten

theorem allLetters_letters (t : Text) : AllLetters (letters t) := fun _ hc =>
  (List.mem_filter.mp hc).2

theorem letters_squeeze (t : Text) : letters t.squeeze = letters t := by
  unfold letters Text.squeeze
  rw [List.filter_filter]
  apply List.filter_congr
  intro c _
  cases hblank : c.isBlank with
  | true => simp [(not_written_of_isBlank hblank).1]
  | false => simp

/-- The lenient reader passes over blanks. -/
theorem lenientSextets?_squeeze (t : Text) : ∀ place padding : ℕ,
    lenientSextets? place padding t.squeeze = lenientSextets? place padding t := by
  induction t with
  | nil =>
    intro place padding
    rfl
  | cons c t ih =>
    intro place padding
    unfold Text.squeeze at ih ⊢
    cases hblank : c.isBlank with
    | true =>
      obtain ⟨hletter, hpad⟩ := not_written_of_isBlank hblank
      rw [List.filter_cons_of_neg (by simp [hblank]), ih, lenientSextets?, if_neg hpad, hletter]
    | false =>
      rw [List.filter_cons_of_pos (by simp [hblank]), lenientSextets?, lenientSextets?]
      simp only [ih]

/-- The letters among blanks are those before the padding. -/
theorem letters_of_squeeze {t s : Text} {k : ℕ} (h : t.squeeze = s ++ List.replicate k pad)
    (hs : AllLetters s) : letters t = s := by
  rw [← letters_squeeze, h, letters_append, hs.letters_eq, letters_replicate_pad, List.append_nil]

/-- What is left of letters and padding, blanks aside, is letters and padding. -/
theorem exists_squeeze_eq {t s : Text} {k : ℕ} (hs : AllLetters s)
    (h : t.squeeze.Sublist (s ++ List.replicate k pad)) :
    ∃ k', t.squeeze = letters t ++ List.replicate k' pad := by
  obtain ⟨s', pads, hsplit, hletters, hpads⟩ := List.sublist_append_iff.mp h
  obtain ⟨k', -, rfl⟩ := List.sublist_replicate_iff.mp hpads
  have hs' : AllLetters s' := fun c hc => hs c (hletters.subset hc)
  exact ⟨k', (letters_of_squeeze hsplit hs').symm ▸ hsplit⟩

/-- **What the lenient reader reads among blanks are the octets in the letters.** -/
theorem eq_octets_of_decodeLenient? {t : Text} {k : ℕ} {d : Bytes}
    (ht : t.squeeze = letters t ++ List.replicate k pad) (h : decodeLenient? t = some d) :
    d = octets ((letters t).filterMap sextet?) ∧ (letters t).length % 4 ≠ 1 := by
  unfold decodeLenient? at h
  split at h
  · rw [← lenientSextets?_squeeze, ht,
      lenientSextets?_append _ (allLetters_letters t) 0 (by decide), Nat.zero_add, Option.map_map,
      Option.map_eq_some_iff] at h
    obtain ⟨l, hl, rfl⟩ := h
    obtain ⟨rfl, hplace⟩ := lenientSextets?_replicate_pad hl
    exact ⟨by simp, hplace⟩
  · cases h

/-- The octets that the strict reader reads are those in the letters as well. -/
theorem eq_octets_of_decode? {t : Text} {d : Bytes} (h : decode? t.squeeze = some d) :
    d = octets ((letters t).filterMap sextet?) ∧ (letters t).length % 4 ≠ 1 := by
  obtain ⟨s, k, ht, hs, hpadding, rfl⟩ := decode?_eq_some_iff.mp h
  rw [letters_of_squeeze ht hs]
  refine ⟨rfl, fun hone => ?_⟩
  unfold isPadding at hpadding
  rw [hone] at hpadding
  cases hpadding

/-- Among blanks that are ASCII the lenient reader reads what the strict one does without them. -/
theorem decodeLenient?_of_decode?_squeeze {t : Text} {d : Bytes}
    (hascii : t.all (fun c => c.val < 0x80) = true) (h : decode? t.squeeze = some d) :
    decodeLenient? t = some d := by
  obtain ⟨s, k, ht, hs, hpadding, rfl⟩ := decode?_eq_some_iff.mp h
  unfold decodeLenient?
  rw [if_pos hascii, ← lenientSextets?_squeeze, ht, lenientSextets?_append _ hs 0 (by decide),
    Nat.zero_add, lenientSextets?_of_isPadding hpadding]
  simp

theorem encode_eq_nil_iff {d : Bytes} : encode d = [] ↔ d = [] := by
  constructor
  · intro h
    have hread := decode?_encode d
    rw [h] at hread
    exact (Option.some.inj hread).symm
  · rintro rfl
    rfl

end Base64

/-! ### Armoured texts -/

/-- Base64 between two markers, with blanks around it all. -/
structure ArmouredText where
  lead : Text
  /-- What the first marker says. -/
  label : Text
  /-- What stands between the first marker and the base64. -/
  before : Text
  body : Text
  /-- What stands between the base64 and the last marker. -/
  after : Text
  /-- What the last marker says. -/
  endLabel : Text
  trail : Text
  octets : Bytes
  allBlank_lead : lead.AllBlank
  oneLine_label : label.OneLine
  allBlank_before : before.AllBlank
  allBlank_after : after.AllBlank
  oneLine_endLabel : endLabel.OneLine
  allBlank_trail : trail.AllBlank
  squeeze_body_ne_nil : body.squeeze ≠ []
  decode?_body : Base64.decode? body.squeeze = some octets

namespace ArmouredText

variable (a : ArmouredText)

def firstMarker : Text := armourStart ++ (a.label ++ armourMark)

def lastMarker : Text := armourEnd ++ (a.endLabel ++ armourMark)

/-- All that stands between the markers. -/
def between : Text := a.before ++ (a.body ++ a.after)

/-- The text without the blanks around it. -/
def core : Text := a.firstMarker ++ (a.between ++ a.lastMarker)

def text : Text := a.lead ++ (a.core ++ a.trail)

/-- The lines between the markers that share none with them: all but the first and the last. -/
def ownLines : List Text := a.between.cut.tail.dropLast

/-- What is left of the base64 on lines of its own. -/
def kept : Text := (a.ownLines.map Text.trim).flatten

/-- Nothing is lost: a report shows the octets in the armour, or the text as it is without the
blanks around it. -/
def Preserved : Prop :=
  Base64.decode? (normalizeCertificate a.text) = some a.octets ∨
    normalizeCertificate a.text = a.text.trim

/-- A line ends between the first marker and the base64, and one between the base64 and the last
marker. -/
def OnOwnLines : Prop :=
  (∃ c ∈ a.before, c.isLineEnd = true) ∧ ∃ c ∈ a.after, c.isLineEnd = true

/-! ### What is left -/

theorem core_eq_cons : ∃ rest, a.core = ('-' : Code) :: rest := ⟨_, rfl⟩

theorem trim_text : a.text.trim = a.core := by
  have hlast : a.core = a.firstMarker ++ (a.between ++ (armourEnd ++ (a.endLabel ++
      ("----" : Text)))) ++ [('-' : Code)] := by
    have hmark : armourMark = ("----" : Text) ++ [('-' : Code)] := by decide
    simp only [core, lastMarker, hmark, List.append_assoc]
  have htrimmed : a.core.IsTrimmed := by
    constructor
    · intro c hc
      obtain ⟨rest, hcore⟩ := a.core_eq_cons
      rw [hcore, List.head?_cons, Option.mem_some_iff] at hc
      subst hc
      decide
    · intro c hc
      rw [hlast, List.getLast?_concat, Option.mem_some_iff] at hc
      subst hc
      decide
  unfold text
  rw [Text.trim_append_left a.allBlank_lead, Text.trim_append_right _ a.allBlank_trail,
    htrimmed.trim_eq]

theorem squeeze_between : a.between.squeeze = a.body.squeeze := by
  unfold between
  rw [Text.squeeze_append, Text.squeeze_append, Text.squeeze_of_allBlank a.allBlank_before,
    Text.squeeze_of_allBlank a.allBlank_after, List.nil_append, List.append_nil]

/-- There is no dash between the markers. -/
theorem dash_not_mem_between : ('-' : Code) ∉ a.between := by
  intro hmem
  have hsqueeze : ('-' : Code) ∈ a.body.squeeze := by
    rw [← a.squeeze_between]
    exact List.mem_filter.mpr ⟨hmem, by decide⟩
  obtain ⟨s, k, hbody, hs, -, -⟩ := Base64.decode?_eq_some_iff.mp a.decode?_body
  rw [hbody, List.mem_append] at hsqueeze
  rcases hsqueeze with hletter | hpad
  · have hdash := hs _ hletter
    revert hdash
    decide
  · have hdash := List.eq_of_mem_replicate hpad
    revert hdash
    decide

theorem ownLines_sublist : a.ownLines.Sublist a.between.cut :=
  (List.dropLast_sublist _).trans (List.tail_sublist _)

theorem squeeze_flatten_map_trim (lines : List Text) :
    Text.squeeze (lines.map Text.trim).flatten = Text.squeeze lines.flatten := by
  induction lines with
  | nil => rfl
  | cons line lines ih =>
    rw [List.map_cons, List.flatten_cons, List.flatten_cons, Text.squeeze_append,
      Text.squeeze_append, Text.squeeze_trim, ih]

/-- Blanks aside, what is left is a part of the base64. -/
theorem squeeze_kept_sublist : a.kept.squeeze.Sublist a.body.squeeze := by
  unfold kept
  rw [squeeze_flatten_map_trim, ← a.squeeze_between, ← Text.squeeze_flatten_cut a.between]
  exact a.ownLines_sublist.flatten.filter _

/-- **The letters of the text are what is left of the base64.** -/
theorem armourBody_core : armourBody a.core = a.kept := by
  have hfirst : a.firstMarker.OneLine :=
    Text.OneLine.append (by decide) (a.oneLine_label.append (by decide))
  have hlast : a.lastMarker.OneLine :=
    Text.OneLine.append (by decide) (a.oneLine_endLabel.append (by decide))
  have hmarkFirst : ∀ t : Text, armourMark <:+: a.firstMarker ++ t := fun t =>
    ⟨[], ("BEGIN" : Text) ++ (a.label ++ armourMark) ++ t, by
      simp only [firstMarker, List.append_assoc]
      rfl⟩
  have hmarkLast : ∀ t : Text, armourMark <:+: t ++ a.lastMarker := fun t =>
    ⟨t ++ armourEnd ++ a.endLabel, [], by
      simp only [lastMarker, List.append_assoc, List.append_nil]⟩
  have hown : ∀ line ∈ a.ownLines, ¬ armourMark <:+: line := by
    intro line hline hmark
    have hdash : ('-' : Code) ∈ a.between.cut.flatten :=
      List.mem_flatten.mpr ⟨line, a.ownLines_sublist.subset hline, hmark.subset (by decide)⟩
    have hkept : ('-' : Code) ∈ Text.squeeze a.between.cut.flatten :=
      List.mem_filter.mpr ⟨hdash, by decide⟩
    rw [Text.squeeze_flatten_cut] at hkept
    exact a.dash_not_mem_between (List.mem_filter.mp hkept).1
  rw [armourBody_eq, lettersOf_lines, core]
  unfold kept
  rw [← lettersOf_of_no_mark hown]
  rcases Text.cut_framed hfirst hlast a.between with ⟨hcut, hframed⟩ | ⟨s, lines, s', hcut, hframed⟩
  · -- All is on one line, which has marks.
    rw [hframed, ownLines, hcut, lettersOf_armour (hmarkFirst _)]
    rfl
  · have hlines : a.ownLines = lines := by
      rw [ownLines, hcut, List.tail_cons, List.dropLast_concat]
    rw [hframed, hlines, lettersOf_cons, lettersOf_append, lettersOf_armour (hmarkFirst _),
      lettersOf_armour (hmarkLast _), List.nil_append, List.append_nil]

/-- **What is read is what is left, leniently.** -/
theorem certificateOctets?_text : certificateOctets? a.text = Base64.decodeLenient? a.kept := by
  have hbegins : a.core.beginsWith armourStart = true :=
    List.isPrefixOf_iff_prefix.mpr ⟨_, (List.append_assoc _ _ _).symm⟩
  unfold certificateOctets?
  rw [a.trim_text, if_pos hbegins, a.armourBody_core]

/-! ### Letters that are lost -/

/-- **The octets that are read are those in the armour if no letter is lost, and others if one
is.** -/
theorem eq_octets_iff {d : Bytes} (h : Base64.decodeLenient? a.kept = some d) :
    d = a.octets ↔ Base64.letters a.kept = Base64.letters a.body := by
  obtain ⟨hoctets, hbody⟩ := Base64.eq_octets_of_decode? a.decode?_body
  obtain ⟨s, k, hform, hs, -, -⟩ := Base64.decode?_eq_some_iff.mp a.decode?_body
  obtain ⟨k', hsqueeze⟩ := Base64.exists_squeeze_eq hs (hform ▸ a.squeeze_kept_sublist)
  obtain ⟨hd, hkept⟩ := Base64.eq_octets_of_decodeLenient? hsqueeze h
  constructor
  · intro hsame
    have hpart : (Base64.letters a.kept).Sublist (Base64.letters a.body) := by
      rw [← Base64.letters_squeeze a.kept, ← Base64.letters_squeeze a.body]
      exact a.squeeze_kept_sublist.filter _
    -- As many octets have as many letters, since no group is left with a single letter.
    have hlength := congrArg List.length hsame
    rw [hd, hoctets, Base64.length_octets, Base64.length_octets,
      Base64.length_filterMap_sextet? (Base64.allLetters_letters _),
      Base64.length_filterMap_sextet? (Base64.allLetters_letters _)] at hlength
    have hgroup : ∀ n : ℕ, n % 4 ≠ 1 → n % 4 = 0 ∨ n % 4 = 2 ∨ n % 4 = 3 := fun n hn => by omega
    apply hpart.eq_of_length
    rcases hgroup _ hkept with hkept | hkept | hkept <;>
      rcases hgroup _ hbody with hbody | hbody | hbody <;> omega
  · intro hsame
    rw [hd, hoctets, hsame]

/-- There is a letter in the armour, for padding alone is no base64. -/
theorem letters_body_ne_nil : Base64.letters a.body ≠ [] := by
  intro hnil
  obtain ⟨s, k, hform, hs, hpadding, -⟩ := Base64.decode?_eq_some_iff.mp a.decode?_body
  obtain rfl : s = [] := (Base64.letters_of_squeeze hform hs).symm.trans hnil
  have hk : k = 0 := by simpa [Base64.isPadding] using hpadding
  subst hk
  exact a.squeeze_body_ne_nil hform

theorem trim_text_ne_nil : a.text.trim ≠ [] := by
  obtain ⟨rest, hcore⟩ := a.core_eq_cons
  rw [a.trim_text, hcore]
  exact List.cons_ne_nil _ _

/-- What is written in base64 is no text in armour. -/
theorem encode_ne_trim_text (d : Bytes) : Base64.encode d ≠ a.text.trim := by
  intro h
  obtain ⟨rest, hcore⟩ := a.core_eq_cons
  rw [a.trim_text, hcore] at h
  have hdash : ('-' : Code) ∈ Base64.encode d := h ▸ List.mem_cons_self
  exact Base64.ne_dash_of_isWritten (Base64.isWritten_of_mem_encode hdash) rfl

theorem preserved_iff : a.Preserved ↔
    Base64.letters a.kept = Base64.letters a.body ∨ Base64.decodeLenient? a.kept = none := by
  unfold Preserved
  cases hread : Base64.decodeLenient? a.kept with
  | none =>
    have hnone : certificateOctets? a.text = none := a.certificateOctets?_text.trans hread
    exact iff_of_true (Or.inr (normalizeCertificate_of_none hnone)) (Or.inr rfl)
  | some d =>
    have hsome : certificateOctets? a.text = some d := a.certificateOctets?_text.trans hread
    rw [normalizeCertificate_of_octets hsome, Base64.decode?_encode, Option.some.injEq,
      a.eq_octets_iff hread, or_iff_left (a.encode_ne_trim_text d), or_iff_left (by simp)]

/-- Nothing is left of a certificate if no letter is left of it and there is no blank beyond ASCII
among its padding. -/
theorem normalizeCertificate_eq_nil_iff : normalizeCertificate a.text = [] ↔
    a.kept.all (fun c => c.val < 0x80) = true ∧ Base64.letters a.kept = [] := by
  obtain ⟨s, k, hform, hs, -, -⟩ := Base64.decode?_eq_some_iff.mp a.decode?_body
  obtain ⟨k', hsqueeze⟩ := Base64.exists_squeeze_eq hs (hform ▸ a.squeeze_kept_sublist)
  cases hread : Base64.decodeLenient? a.kept with
  | none =>
    have hnone : certificateOctets? a.text = none := a.certificateOctets?_text.trans hread
    rw [normalizeCertificate_of_none hnone]
    refine iff_of_false a.trim_text_ne_nil ?_
    rintro ⟨hascii, hletters⟩
    rw [hletters, List.nil_append] at hsqueeze
    unfold Base64.decodeLenient? at hread
    rw [if_pos hascii, ← Base64.lenientSextets?_squeeze, hsqueeze,
      Base64.lenientSextets?_zero_replicate_pad] at hread
    cases hread
  | some d =>
    have hsome : certificateOctets? a.text = some d := a.certificateOctets?_text.trans hread
    obtain ⟨rfl, hplace⟩ := Base64.eq_octets_of_decodeLenient? hsqueeze hread
    have hascii : a.kept.all (fun c => c.val < 0x80) = true := by
      by_contra hforeign
      unfold Base64.decodeLenient? at hread
      rw [if_neg hforeign] at hread
      cases hread
    rw [normalizeCertificate_of_octets hsome, Base64.encode_eq_nil_iff, ← List.length_eq_zero_iff,
      Base64.length_octets, Base64.length_filterMap_sextet? (Base64.allLetters_letters _),
      ← List.length_eq_zero_iff]
    constructor
    · intro hzero
      exact ⟨hascii, by omega⟩
    · rintro ⟨-, hzero⟩
      omega

/-- On lines of its own all of the base64 is left. -/
theorem squeeze_kept_of_onOwnLines (h : a.OnOwnLines) : a.kept.squeeze = a.body.squeeze := by
  obtain ⟨hbefore, hafter⟩ := h
  obtain ⟨s, c, rest, hfirst, hs, hc⟩ := Text.exists_first_lineEnd hbefore
  obtain ⟨front, c', s', hlast, hs', hc'⟩ := Text.exists_last_lineEnd hafter
  have hrest : rest.AllBlank := fun d hd => a.allBlank_before d (by simp [hfirst, hd])
  have hfront : front.AllBlank := fun d hd => a.allBlank_after d (by simp [hlast, hd])
  have hbetween : a.between = s ++ c :: ((rest ++ (a.body ++ front)) ++ c' :: s') := by
    unfold between
    rw [hfirst, hlast]
    simp only [List.append_assoc, List.cons_append]
  have hown : a.ownLines = Text.cut (rest ++ (a.body ++ front)) := by
    rw [ownLines, hbetween, Text.cut_append_cons hc, Text.cut_append_cons hc', hs.cut_eq,
      hs'.cut_eq]
    exact List.dropLast_concat
  unfold kept
  rw [squeeze_flatten_map_trim, hown, Text.squeeze_flatten_cut, Text.squeeze_append,
    Text.squeeze_append, Text.squeeze_of_allBlank hrest, Text.squeeze_of_allBlank hfront,
    List.nil_append, List.append_nil]

/-- On lines of its own a certificate is shown in base64, unless a blank beyond ASCII stands within
one of the lines. -/
theorem normalizeCertificate_of_onOwnLines (h : a.OnOwnLines) : normalizeCertificate a.text =
    if a.kept.all (fun c => c.val < 0x80) then Base64.encode a.octets else a.text.trim := by
  split
  · next hascii =>
    apply normalizeCertificate_of_octets
    rw [a.certificateOctets?_text]
    apply Base64.decodeLenient?_of_decode?_squeeze hascii
    rw [a.squeeze_kept_of_onOwnLines h, a.decode?_body]
  · next hforeign =>
    apply normalizeCertificate_of_none
    rw [a.certificateOctets?_text]
    unfold Base64.decodeLenient?
    exact if_neg hforeign

instance : Decidable a.Preserved := inferInstanceAs (Decidable (_ ∨ _))

instance : Decidable a.OnOwnLines := inferInstanceAs (Decidable (_ ∧ _))

end ArmouredText

/-! ### Samples -/

/-- A certificate and its armour on one line. -/
def unbrokenCertificate : ArmouredText where
  lead := []
  label := " CERTIFICATE"
  before := []
  body := namedCertificate
  after := []
  endLabel := " CERTIFICATE"
  trail := []
  octets := (Base64.decode? namedCertificate).getD []
  allBlank_lead := by decide
  oneLine_label := by decide
  allBlank_before := by decide
  allBlank_after := by decide
  oneLine_endLabel := by decide
  allBlank_trail := by decide
  squeeze_body_ne_nil := by decide +kernel
  decode?_body := by decide +kernel

/-- A certificate on two lines, of which the first one is that of the first marker. -/
def halfBrokenCertificate : ArmouredText :=
  { unbrokenCertificate with
    body := namedCertificate.take 64 ++ ("\n" : Text) ++ namedCertificate.drop 64
    after := "\n"
    allBlank_after := by decide
    squeeze_body_ne_nil := by decide +kernel
    decode?_body := by decide +kernel }

/-- A certificate between two lines of armour, with a tab among its letters. -/
def brokenCertificate : ArmouredText :=
  { unbrokenCertificate with
    before := " \r\n"
    body := namedCertificate.take 64 ++ ("\t" : Text) ++ namedCertificate.drop 64
    after := "\n"
    allBlank_before := by decide
    allBlank_after := by decide
    squeeze_body_ne_nil := by decide +kernel
    decode?_body := by decide +kernel }

/-- Two certificates that are not preserved, and of one of them nothing is left. -/
theorem not_preserved_samples :
    ¬ unbrokenCertificate.Preserved ∧ normalizeCertificate unbrokenCertificate.text = [] ∧
      ¬ halfBrokenCertificate.Preserved := by
  refine ⟨?_, ?_, ?_⟩
  · decide +kernel
  · decide +kernel
  · decide +kernel

/-! ### Reports -/

/-- **When a certificate in armour is preserved, and when nothing is left of it.**  On lines of its
own it is preserved.  In general it is preserved exactly if no letter shares a line with a marker,
or if what is left cannot be read; and the text in the report is empty exactly if all letters share
a line with a marker, and what is left of the padding can be read. -/
theorem normalizeCertificate_of_armoured (a : ArmouredText) :
    (a.OnOwnLines → a.Preserved ∧ normalizeCertificate a.text ≠ [] ∧
      normalizeCertificate a.text =
        if a.kept.all (fun c => c.val < 0x80) then Base64.encode a.octets else a.text.trim) ∧
    (a.Preserved ↔
      Base64.letters a.kept = Base64.letters a.body ∨ Base64.decodeLenient? a.kept = none) ∧
    (normalizeCertificate a.text = [] ↔
      a.kept.all (fun c => c.val < 0x80) = true ∧ Base64.letters a.kept = []) := by
  refine ⟨fun hown => ?_, a.preserved_iff, a.normalizeCertificate_eq_nil_iff⟩
  have hletters : Base64.letters a.kept = Base64.letters a.body := by
    rw [← Base64.letters_squeeze, a.squeeze_kept_of_onOwnLines hown, Base64.letters_squeeze]
  refine ⟨a.preserved_iff.mpr (Or.inl hletters), ?_, a.normalizeCertificate_of_onOwnLines hown⟩
  rw [ne_eq, a.normalizeCertificate_eq_nil_iff, hletters]
  rintro ⟨-, hnil⟩
  exact a.letters_body_ne_nil hnil

/-- A certificate on lines of its own is shown on one. -/
theorem normalizeCertificate_of_armoured_broken :
    brokenCertificate.OnOwnLines ∧
      normalizeCertificate brokenCertificate.text = namedCertificate := by
  have hown : brokenCertificate.OnOwnLines := by decide
  obtain ⟨hlines, -, -⟩ := normalizeCertificate_of_armoured brokenCertificate
  obtain ⟨-, -, hshown⟩ := hlines hown
  have hascii : brokenCertificate.kept.all (fun c => c.val < 0x80) = true := by decide +kernel
  rw [if_pos hascii] at hshown
  refine ⟨hown, hshown.trans ?_⟩
  decide +kernel

end ValidationReport
