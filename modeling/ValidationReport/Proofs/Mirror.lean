import ValidationReport.Proofs.Verdict

/-!
# Formats that agree

With time marks the verdict is put together from two sources, the engine and its simple report, and
a word that neither of them passes or leaves open is replaced.  Where the simple report only repeats
what the engine says, nothing comes of it: the signature is judged as in any other container,
however the words are written.  The two families of formats differ in what they take for
evidence of time, and in nothing else that a reader of verdicts looks at.

A signature apart from its data files is reported as one in a container with files of these names.

## Main definitions

* `SignatureFacts.mirror`, `Facts.Mirrored` — a simple report that repeats the engine.
* `SignatureEntry.SameButEvidence` — two entries that differ at most in evidence of time and in the
  format of the signature.

## Main results

* `verdict_of_mirrored`, `classify_timemark` — **a word that is replaced comes to the same
  verdict.**
* `Assembly.sameButEvidence_entry` — entries with time marks and without.
* `Assembly.entry_detached` — entries of signatures apart from their files.
* `reports_of_mirrored` — **reports on the same facts read in two formats agree.**
-/

namespace ValidationReport

/-! ### Mirrored facts -/

/-- The entry of a simple report that repeats what the engine says of a signature. -/
def SignatureFacts.mirror (s : SignatureFacts) : SimpleEntry :=
  ⟨s.indication, s.subIndication, s.qualification⟩

/-- The simple report repeats what the engine says of every signature. -/
def Facts.Mirrored (f : Facts) : Prop :=
  ∀ s ∈ f.signatures, f.simpleReports.lookup s.id = some s.mirror

instance (f : Facts) : Decidable f.Mirrored :=
  inferInstanceAs (Decidable (∀ s ∈ f.signatures, _))

/-! ### What is judged -/

/-- A word that is no verdict fails a signature, whatever the word. -/
theorem classify_of_no_verdict {word : Text} (hpassed : isPassed word = false)
    (hopen : isIndeterminate word = false) (reason : Option Text) (faulty : Bool) :
    classify word reason faulty = (.failed, reason.getD []) := by
  rcases classify_cases word reason faulty with ⟨-, hword, -⟩ | ⟨-, hword, -⟩ | ⟨-, h⟩
  · rw [hpassed] at hword
    cases hword
  · rw [hopen] at hword
    cases hword
  · exact h

section

variable {f : Facts} {s : SignatureFacts}

/-- The word is the engine's, unless it is no verdict and the word for a failed signature stands in
for it. -/
theorem verdict_of_mirrored (h : f.simpleReports.lookup s.id = some s.mirror) :
    Format.timemark.verdict f s = s.indication ∨
      Format.timemark.verdict f s = failedWord ∧ isPassed s.indication = false ∧
        isIndeterminate s.indication = false := by
  simp only [Format.verdict, Facts.simpleEntry?, h]
  cases hpassed : isPassed s.indication with
  | true => exact Or.inl (if_pos rfl)
  | false =>
    rw [if_neg Bool.false_ne_true]
    cases hopen : isIndeterminate s.indication with
    | true => exact Or.inl (if_pos hopen)
    | false => exact Or.inr ⟨if_neg (by rw [SignatureFacts.mirror, hopen]; decide), rfl, rfl⟩

/-- **A word that is replaced comes to the same verdict.** -/
theorem classify_timemark (h : f.simpleReports.lookup s.id = some s.mirror)
    (reason : Option Text) (faulty : Bool) :
    classify (Format.timemark.verdict f s) reason faulty = classify s.indication reason faulty := by
  rcases verdict_of_mirrored h with hword | ⟨hword, hpassed, hopen⟩
  · rw [hword]
  · rw [hword, classify_of_no_verdict hpassed hopen,
      classify_of_no_verdict isPassed_failedWord isIndeterminate_failedWord]

/-- An empty reason in the simple report gives way to the engine's, which is empty as well. -/
theorem reason_timemark (h : f.simpleReports.lookup s.id = some s.mirror) :
    Format.timemark.reason f s = s.subIndication := by
  simp only [Format.reason, Facts.simpleEntry?, h, Option.bind_some, SignatureFacts.mirror]
  cases hreason : s.subIndication.bind Text.nonempty? with
  | none => rfl
  | some reason =>
    obtain ⟨t, ht, hnonempty⟩ := Option.bind_eq_some_iff.mp hreason
    rw [ht, ← (Text.nonempty?_eq_some_iff.mp hnonempty).1]

theorem level_timemark (h : f.simpleReports.lookup s.id = some s.mirror) :
    Format.timemark.level f s = s.qualification.getD [] := by
  simp only [Format.level, Facts.simpleEntry?, h, Option.bind_some, SignatureFacts.mirror]

end

/-! ### Entries -/

/-- Two entries that differ at most in evidence of time and in the format of the signature. -/
structure SignatureEntry.SameButEvidence (e e' : SignatureEntry) : Prop where
  id : e.id = e'.id
  indication : e.indication = e'.indication
  subIndication : e.subIndication = e'.subIndication
  signatureLevel : e.signatureLevel = e'.signatureLevel
  signedBy : e.signedBy = e'.signedBy
  subject : e.subject = e'.subject
  errors : e.errors = e'.errors
  warnings : e.warnings = e'.warnings
  claimedSigningTime : e.claimedSigningTime = e'.claimedSigningTime
  scopes : e.scopes = e'.scopes

namespace Assembly

variable (facts : Facts) (document : Document) (policy : Policy) (hashed : Bool)
  (faults : List Text) {s : SignatureFacts}

/-- A signature is judged alike with time marks and without. -/
theorem outcome_timemark (h : facts.simpleReports.lookup s.id = some s.mirror) :
    (ofParts .timemark facts document policy hashed faults).outcome s =
      (ofParts .generic facts document policy hashed faults).outcome s := by
  show resolveOutcome (Format.timemark.level facts s) (Format.timemark.verdict facts s)
      (Format.timemark.reason facts s) _ policy true =
    resolveOutcome (s.qualification.getD []) s.indication s.subIndication _ policy true
  unfold resolveOutcome
  rw [level_timemark h, reason_timemark h, classify_timemark h]
  rfl

/-- Entries with time marks and without differ in evidence of time, if they can be made. -/
theorem sameButEvidence_entry (h : facts.simpleReports.lookup s.id = some s.mirror)
    {e e' : SignatureEntry}
    (he : (ofParts .timemark facts document policy hashed faults).entry s = .ok e)
    (he' : (ofParts .generic facts document policy hashed faults).entry s = .ok e') :
    e.SameButEvidence e' := by
  have houtcome := outcome_timemark facts document policy hashed faults h
  have herrors : (ofParts .timemark facts document policy hashed faults).errors s =
      (ofParts .generic facts document policy hashed faults).errors s := by
    unfold errors
    rw [houtcome]
    rfl
  have hindication : (ofParts .timemark facts document policy hashed faults).indication s =
      (ofParts .generic facts document policy hashed faults).indication s := by
    unfold indication
    rw [houtcome, herrors]
  have hsubject : Except.ok e.subject = Except.ok e'.subject :=
    (attests_of_entry he).subject.symm.trans (attests_of_entry he').subject
  have hclaimed : Except.ok e.claimedSigningTime = Except.ok e'.claimedSigningTime :=
    (attests_of_entry he).claimedSigningTime.symm.trans (attests_of_entry he').claimedSigningTime
  exact {
    id := (describes_of_entry he).id.trans (describes_of_entry he').id.symm
    indication := by
      rw [(describes_of_entry he).indication, (describes_of_entry he').indication, hindication]
    subIndication := by
      rw [(describes_of_entry he).subIndication, (describes_of_entry he').subIndication,
        hindication, houtcome]
    signatureLevel := by
      rw [(describes_of_entry he).signatureLevel, (describes_of_entry he').signatureLevel]
      exact level_timemark h
    signedBy := by
      rw [(attests_of_entry he).signedBy, (attests_of_entry he').signedBy,
        Except.ok.inj hsubject]
    subject := Except.ok.inj hsubject
    errors := by rw [(describes_of_entry he).errors, (describes_of_entry he').errors, herrors]
    warnings := by
      rw [(describes_of_entry he).warnings, (describes_of_entry he').warnings]
      unfold warnings
      rw [houtcome]
      rfl
    claimedSigningTime := Except.ok.inj hclaimed
    scopes := (describes_of_entry he).scopes.trans (describes_of_entry he').scopes.symm }

/-- A signature apart from its data files has the entry that it has in a container with files of
the same names. -/
theorem entry_detached (h : document.dataFiles = facts.dataFiles.map DataFile.name)
    (s : SignatureFacts) : (ofParts .detached facts document policy hashed faults).entry s =
      (ofParts .generic facts document policy hashed faults).entry s := by
  have hnames : (ofParts .detached facts document policy hashed faults).format.dataFileNames
      (ofParts .detached facts document policy hashed faults).facts
      (ofParts .detached facts document policy hashed faults).document =
    facts.dataFiles.map DataFile.name := h
  unfold entry
  rw [hnames]
  rfl

theorem entryOrFailure_detached (h : document.dataFiles = facts.dataFiles.map DataFile.name)
    (s : SignatureFacts) :
    (ofParts .detached facts document policy hashed faults).entryOrFailure s =
      (ofParts .generic facts document policy hashed faults).entryOrFailure s := by
  unfold entryOrFailure
  rw [entry_detached facts document policy hashed faults h]
  rfl

/-- Where an entry can be made with time marks and without, or neither way, the two entries differ
in evidence of time. -/
theorem sameButEvidence_entryOrFailure (h : facts.simpleReports.lookup s.id = some s.mirror)
    (hfails : Fails ((ofParts .timemark facts document policy hashed faults).entry s) ↔
      Fails ((ofParts .generic facts document policy hashed faults).entry s)) :
    ((ofParts .timemark facts document policy hashed faults).entryOrFailure s).SameButEvidence
      ((ofParts .generic facts document policy hashed faults).entryOrFailure s) := by
  rcases (ofParts .timemark facts document policy hashed faults).entryOrFailure_cases s with
    ⟨e, hok, he, -⟩ | ⟨hstopped, he⟩
  · have hmade : ¬ Fails ((ofParts .generic facts document policy hashed faults).entry s) := by
      rw [← hfails, hok]
      exact not_fails_ok e
    obtain ⟨e', hok'⟩ := not_fails_iff.mp hmade
    have he' : (ofParts .generic facts document policy hashed faults).entryOrFailure s = e' := by
      unfold entryOrFailure
      rw [hok']
    rw [he, he']
    exact sameButEvidence_entry facts document policy hashed faults h hok hok'
  · obtain ⟨failure, hfailure⟩ := hfails.mp hstopped
    have he' : (ofParts .generic facts document policy hashed faults).entryOrFailure s =
        (ofParts .generic facts document policy hashed faults).failedEntry s := by
      unfold entryOrFailure
      rw [hfailure]
    rw [he, he']
    constructor <;> rfl

end Assembly

/-! ### A sample -/

/-- Two signatures, one that the engine passes in words of its own and one that it leaves open for
an empty reason, in a simple report that repeats both. -/
def Facts.repeated : Facts :=
  { Facts.ofSignatures "BDOC"
      [.ofWord "S0" " valid ", { SignatureFacts.ofWord "S1" "Indeterminate" with
        subIndication := some [] }]
      [("S1", ⟨"Indeterminate", some [], none⟩), ("S0", ⟨" valid ", none, none⟩)] with
    dataFiles := [⟨"a", none, none, none, none⟩] }

/-- A document with one data file that is handed in apart. -/
def Document.apart : Document := ⟨"doc", [], none, ["a"]⟩

/-! ### Reports -/

/-- **Reports on the same facts read in two formats agree.**  Where the simple report repeats the
engine, a signature with time marks has the entry that it has without, but for its evidence of time;
and signatures apart from their data files are reported as in a container with files of the same
names, but for the form. -/
theorem reports_of_mirrored (facts : Facts) (document : Document) (policy : Policy) (hashed : Bool)
    (faults : List Text) (type : ReportType) {time : Moment} (h : time.InRange) :
    ∃ report : Format → Conclusion,
      (∀ format, ∃ l, (Assembly.ofParts format facts document policy hashed faults).layers type
          time = .ok l ∧
        l.simple.conclusion = report format ∧ l.detailed.conclusion = report format ∧
        l.diagnostic.conclusion = report format) ∧
      (facts.Mirrored → ∀ (i : ℕ) (s : SignatureFacts), facts.signatures[i]? = some s →
        (Fails ((Assembly.ofParts .timemark facts document policy hashed faults).entry s) ↔
          Fails ((Assembly.ofParts .generic facts document policy hashed faults).entry s)) →
        ∃ e e', (report .timemark).signatures[i]? = some e ∧
          (report .generic).signatures[i]? = some e' ∧ e.SameButEvidence e') ∧
      (document.dataFiles = facts.dataFiles.map DataFile.name →
        { report .generic with signatureForm := (report .detached).signatureForm } =
          report .detached) := by
  obtain ⟨c, -, htext⟩ := h.exists_utcText
  refine ⟨fun format => (Assembly.ofParts format facts document policy hashed faults).conclusionAt
    c.utcText, ?_, ?_, ?_⟩
  · intro format
    refine ⟨(Assembly.ofParts format facts document policy hashed faults).layersAt c.utcText type,
      ?_, rfl, rfl, rfl⟩
    rw [Assembly.layers_eq, htext]
    rfl
  · intro hmirrored i s hs hfails
    refine ⟨_, _, ?_, ?_, Assembly.sameButEvidence_entryOrFailure facts document policy hashed
      faults (hmirrored s (List.mem_of_getElem? hs)) hfails⟩
    · exact List.getElem?_map.trans (Option.map_eq_some_iff.mpr ⟨s, hs, rfl⟩)
    · exact List.getElem?_map.trans (Option.map_eq_some_iff.mpr ⟨s, hs, rfl⟩)
  · intro hnames
    have hentries : facts.signatures.map
          (Assembly.ofParts .generic facts document policy hashed faults).entryOrFailure =
        facts.signatures.map
          (Assembly.ofParts .detached facts document policy hashed faults).entryOrFailure :=
      List.map_congr_left fun s _ =>
        (Assembly.entryOrFailure_detached facts document policy hashed faults hnames s).symm
    unfold Assembly.conclusionAt
    simp only [Conclusion.mk.injEq]
    exact ⟨rfl, trivial, rfl, trivial, hentries, rfl⟩

/-- Both signatures have the same entry with time marks and without, and the document has the same
conclusion with its data file apart. -/
theorem reports_of_mirrored_repeated :
    Moment.noon.InRange ∧ Facts.repeated.Mirrored ∧
      Document.apart.dataFiles = Facts.repeated.dataFiles.map DataFile.name ∧
      ∃ l l' l'' e₀ e₁ e₀' e₁',
        (Assembly.ofParts .timemark .repeated .apart adesPolicy false []).layers .simple .noon =
          .ok l ∧
        (Assembly.ofParts .generic .repeated .apart adesPolicy false []).layers .simple .noon =
          .ok l' ∧
        (Assembly.ofParts .detached .repeated .apart adesPolicy false []).layers .simple .noon =
          .ok l'' ∧
        l.simple.conclusion.signatures[0]? = some e₀ ∧
        l.simple.conclusion.signatures[1]? = some e₁ ∧
        l'.simple.conclusion.signatures[0]? = some e₀' ∧
        l'.simple.conclusion.signatures[1]? = some e₁' ∧
        e₀.SameButEvidence e₀' ∧ e₁.SameButEvidence e₁' ∧
        { l'.simple.conclusion with signatureForm := l''.simple.conclusion.signatureForm } =
          l''.simple.conclusion := by
  have hnoon : Moment.noon.InRange := by decide
  have hmirrored : Facts.repeated.Mirrored := by decide
  have hnames : Document.apart.dataFiles = Facts.repeated.dataFiles.map DataFile.name := rfl
  obtain ⟨report, hmade, hsame, hapart⟩ := reports_of_mirrored .repeated .apart adesPolicy false []
    .simple hnoon
  obtain ⟨l, hl, hreport, -⟩ := hmade .timemark
  obtain ⟨l', hl', hreport', -⟩ := hmade .generic
  obtain ⟨l'', hl'', hreport'', -⟩ := hmade .detached
  obtain ⟨e₀, e₀', he₀, he₀', hsame₀⟩ := hsame hmirrored 0 _ rfl
    (iff_of_false (not_fails_iff.mpr ⟨_, rfl⟩) (not_fails_iff.mpr ⟨_, rfl⟩))
  obtain ⟨e₁, e₁', he₁, he₁', hsame₁⟩ := hsame hmirrored 1 _ rfl
    (iff_of_false (not_fails_iff.mpr ⟨_, rfl⟩) (not_fails_iff.mpr ⟨_, rfl⟩))
  rw [← hreport] at he₀ he₁
  rw [← hreport'] at he₀' he₁'
  have hconclusion := hapart hnames
  rw [← hreport', ← hreport''] at hconclusion
  exact ⟨hnoon, hmirrored, hnames, l, l', l'', e₀, e₁, e₀', e₁', hl, hl', hl'', he₀, he₁, he₀',
    he₁', hsame₀, hsame₁, hconclusion⟩

end ValidationReport
