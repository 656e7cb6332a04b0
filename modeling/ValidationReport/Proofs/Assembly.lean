import ValidationReport.Assembly
import ValidationReport.Proofs.Calendar
import ValidationReport.Proofs.Failure
import ValidationReport.Proofs.Outcome

/-!
# The entries of an assembly

An entry is made of two kinds of things.  Certificates, the subject and times
come from evidence, which may stop the processing; everything else is decided by
the facts alone and is the same whatever the evidence holds.

## Main definitions

* `Assembly.Describes` — what an entry says that no evidence has a say in.
* `Assembly.Attests` — what it says by evidence.

## Main results

* `Assembly.describes_of_entry`, `Assembly.attests_of_entry` — an entry that could be made says
  just that.
* `Assembly.entryOrFailure_cases` — the two kinds of entries in a conclusion.
* `Assembly.indication_eq_passed_iff`, `Assembly.indication_eq_indeterminate_iff`
  — the verdict after the messages are counted.
* `Assembly.exists_layers_iff`, `Assembly.conclusion_of_layers` — **a report is
  made at every time in range, with one entry for each signature.**
-/

namespace ValidationReport

namespace Assembly

/-! ### Entries -/

/-- What an entry says that no evidence has a say in. -/
structure Describes (a : Assembly) (s : SignatureFacts) (e : SignatureEntry) : Prop where
  id : e.id = s.id
  signatureFormat : e.signatureFormat = a.format.signatureFormat a.facts s
  signatureMethod : e.signatureMethod = s.signatureMethod
  signatureLevel : e.signatureLevel = a.format.level a.facts s
  indication : e.indication = a.indication s
  subIndication : e.subIndication =
    if a.indication s = .passed then [] else (a.outcome s).subIndication
  warnings : e.warnings = a.warnings s
  errors : e.errors = a.errors s
  scopes : e.scopes = signedScopes s.references (a.format.dataFileNames a.facts a.document)

/-- An entry that could be made describes its signature. -/
theorem describes_of_entry {a : Assembly} {s : SignatureFacts} {e : SignatureEntry}
    (h : a.entry s = .ok e) : a.Describes s e := by
  unfold entry at h
  obtain ⟨certificates, -, h⟩ := bind_eq_ok_iff.mp h
  obtain ⟨subject, -, h⟩ := bind_eq_ok_iff.mp h
  obtain ⟨claimed, -, h⟩ := bind_eq_ok_iff.mp h
  obtain ⟨info, -, h⟩ := bind_eq_ok_iff.mp h
  simp only [pure, Except.pure, Except.ok.injEq] at h
  subst h
  constructor <;> dsimp only

/-- What an entry says by the evidence of its signature. -/
structure Attests (a : Assembly) (s : SignatureFacts) (e : SignatureEntry) : Prop where
  certificates : a.certificates s = .ok e.certificates
  subject : subjectName s.signingCertificate = .ok e.subject
  signedBy : e.signedBy = e.subject.commonName.getD []
  claimedSigningTime :
    (Moment.utcText? s.claimedSigningTime).map (·.getD []) = .ok e.claimedSigningTime
  info : a.info s = .ok e.info

/-- An entry that could be made has the evidence of its signature. -/
theorem attests_of_entry {a : Assembly} {s : SignatureFacts} {e : SignatureEntry}
    (h : a.entry s = .ok e) : a.Attests s e := by
  unfold entry at h
  obtain ⟨certificates, hcertificates, h⟩ := bind_eq_ok_iff.mp h
  obtain ⟨subject, hsubject, h⟩ := bind_eq_ok_iff.mp h
  obtain ⟨claimed, hclaimed, h⟩ := bind_eq_ok_iff.mp h
  obtain ⟨info, hinfo, h⟩ := bind_eq_ok_iff.mp h
  simp only [pure, Except.pure, Except.ok.injEq] at h
  subst h
  exact ⟨hcertificates, hsubject, rfl, by rw [hclaimed]; rfl, hinfo⟩

/-- An entry is the one that could be made, or stands in for a signature that stopped. -/
theorem entryOrFailure_cases (a : Assembly) (s : SignatureFacts) :
    (∃ e, a.entry s = .ok e ∧ a.entryOrFailure s = e ∧ a.Describes s e) ∨
      Fails (a.entry s) ∧ a.entryOrFailure s = a.failedEntry s := by
  unfold entryOrFailure
  cases h : a.entry s with
  | ok e => exact Or.inl ⟨e, rfl, rfl, describes_of_entry h⟩
  | error failure => exact Or.inr ⟨fails_error failure, rfl⟩

@[simp] theorem id_entryOrFailure (a : Assembly) (s : SignatureFacts) :
    (a.entryOrFailure s).id = s.id := by
  rcases a.entryOrFailure_cases s with ⟨e, -, he, hdescribes⟩ | ⟨-, he⟩
  · rw [he, hdescribes.id]
  · rw [he]
    rfl

/-! ### Verdicts -/

theorem judgement_outcome (a : Assembly) (s : SignatureFacts) :
    Judgement (a.format.level a.facts s) (a.format.verdict a.facts s) (a.format.reason a.facts s)
      (!a.containerErrors.isEmpty) a.policy a.format.appliesLevels (a.outcome s) :=
  judgement_resolveOutcome ..

/-- The errors are empty if those from each of their three sources are. -/
theorem errors_eq_nil_iff (a : Assembly) (s : SignatureFacts) :
    a.errors s = [] ↔
      a.format.errors s = [] ∧ a.containerErrors = [] ∧ (a.outcome s).errors = [] := by
  unfold errors
  simp only [List.append_eq_nil_iff, and_assoc]
  constructor
  · rintro ⟨hown, hcontainer, hlevel⟩
    rw [hown] at hcontainer
    exact ⟨hown, by simpa using hcontainer, hlevel⟩
  · rintro ⟨hown, hcontainer, hlevel⟩
    exact ⟨hown, by rw [hcontainer]; rfl, hlevel⟩

/-- Every fault of the container is among the errors of every signature. -/
theorem mem_errors_of_mem_containerErrors {a : Assembly} {m : Text} (h : m ∈ a.containerErrors)
    (s : SignatureFacts) : m ∈ a.errors s := by
  unfold errors
  by_cases hown : m ∈ a.format.errors s
  · simp [hown]
  · simp [hown, h]

theorem indication_eq_passed_iff' (a : Assembly) (s : SignatureFacts) :
    a.indication s = .passed ↔ (a.outcome s).indication = .passed ∧ a.errors s = [] := by
  unfold indication
  by_cases hpassed : (a.outcome s).indication = .passed <;>
    by_cases herrors : a.errors s = [] <;> simp [hpassed, herrors]

/-- **A signature passes if the container is sound, the engine passed it, it has no errors of its
own, and its level does not count or is admitted.** -/
theorem indication_eq_passed_iff (a : Assembly) (s : SignatureFacts) :
    a.indication s = .passed ↔
      a.containerErrors = [] ∧ isPassed (a.format.verdict a.facts s) = true ∧
        a.format.errors s = [] ∧
        (a.format.appliesLevels = true → a.policy.Admits (a.format.level a.facts s)) := by
  rw [indication_eq_passed_iff', errors_eq_nil_iff]
  constructor
  · rintro ⟨hpassed, hown, hcontainer, -⟩
    obtain ⟨-, hword, hlevel⟩ := (a.judgement_outcome s).indication_eq_passed_iff.mp hpassed
    exact ⟨hcontainer, hword, hown, hlevel⟩
  · rintro ⟨hcontainer, hword, hown, hlevel⟩
    have hpassed : (a.outcome s).indication = .passed :=
      (a.judgement_outcome s).indication_eq_passed_iff.mpr ⟨by simp [hcontainer], hword, hlevel⟩
    exact ⟨hpassed, hown, hcontainer, ((a.judgement_outcome s).of_passed hpassed).1⟩

/-- **A signature stays undecided if the container is sound and the engine gave no verdict,
whatever its errors.** -/
theorem indication_eq_indeterminate_iff (a : Assembly) (s : SignatureFacts) :
    a.indication s = .indeterminate ↔
      a.containerErrors = [] ∧ isIndeterminate (a.format.verdict a.facts s) = true := by
  have hsame : a.indication s = .indeterminate ↔ (a.outcome s).indication = .indeterminate := by
    unfold indication
    split
    · next h => simp [h.1]
    · exact Iff.rfl
  rw [hsame, (a.judgement_outcome s).indication_eq_indeterminate_iff]
  simp

/-- An entry passes or stays undecided only if it could be made, and then as its signature does. -/
theorem indication_entryOrFailure_iff (a : Assembly) (s : SignatureFacts) {verdict : Indication}
    (h : verdict ≠ .failed) :
    (a.entryOrFailure s).indication = verdict ↔
      ¬ Fails (a.entry s) ∧ a.indication s = verdict := by
  rcases a.entryOrFailure_cases s with ⟨e, hok, he, hdescribes⟩ | ⟨hfails, he⟩
  · rw [he, hok, hdescribes.indication]
    simp
  · rw [he]
    exact iff_of_false h.symm fun hmade => hmade.1 hfails

/-! ### Reports -/

/-- **A report is made exactly at the times in range, whatever the facts.** -/
theorem exists_layers_iff (a : Assembly) (type : ReportType) (time : Moment) :
    (∃ layers, a.layers type time = .ok layers) ↔ time.InRange := by
  rw [← time.exists_utc_iff]
  unfold layers conclusion Moment.utcText
  cases time.utc with
  | ok civil => exact iff_of_true ⟨_, rfl⟩ ⟨civil, rfl⟩
  | error failure =>
    apply iff_of_false
    · rintro ⟨layers, h⟩
      cases h
    · rintro ⟨civil, h⟩
      cases h

/-- The layers of a report have the same conclusion, with one entry for each signature. -/
theorem conclusion_of_layers {a : Assembly} {type : ReportType} {time : Moment} {l : Layers}
    (h : a.layers type time = .ok l) :
    l.detailed.conclusion = l.simple.conclusion ∧ l.diagnostic.conclusion = l.simple.conclusion ∧
      l.simple.conclusion.signatures = a.facts.signatures.map a.entryOrFailure := by
  unfold layers at h
  obtain ⟨c, hc, h⟩ := bind_eq_ok_iff.mp h
  simp only [pure, Except.pure, Except.ok.injEq] at h
  subst h
  unfold conclusion at hc
  obtain ⟨text, -, hc⟩ := bind_eq_ok_iff.mp hc
  simp only [pure, Except.pure, Except.ok.injEq] at hc
  subst hc
  exact ⟨rfl, rfl, rfl⟩

/-- The conclusion in which the time stands as a text. -/
def conclusionAt (a : Assembly) (text : Text) : Conclusion where
  policy := a.policy
  validationTime := text
  document := validatedDocument a.hashed a.document.filename a.document.content
  signatureForm := a.format.form a.facts
  signatures := a.facts.signatures.map a.entryOrFailure
  warnings := a.facts.containerWarnings.map Issue.message

/-- The layers in which the time stands as a text. -/
def layersAt (a : Assembly) (text : Text) (type : ReportType) : Layers where
  simple := ⟨a.conclusionAt text⟩
  detailed := ⟨a.conclusionAt text, if type = .detailed then a.facts.validationProcess else none⟩
  diagnostic := ⟨a.conclusionAt text, if type = .diagnostic then a.facts.diagnosticData else none⟩

/-- The time is all that can keep a report from being made. -/
theorem layers_eq (a : Assembly) (type : ReportType) (time : Moment) :
    a.layers type time = time.utcText.map fun text => a.layersAt text type := by
  unfold layers conclusion
  cases time.utcText <;> rfl

end Assembly

/-- A time in range has a text. -/
theorem Moment.InRange.exists_utcText {time : Moment} (h : time.InRange) :
    ∃ c, time.utc = .ok c ∧ time.utcText = .ok c.utcText := by
  obtain ⟨c, hc⟩ := time.exists_utc_iff.mpr h
  refine ⟨c, hc, ?_⟩
  unfold utcText
  rw [hc]
  rfl

/-! ### Samples -/

/-- A signature of which nothing is known but its identifier and the engine's word. -/
def SignatureFacts.ofWord (id indication : Text) : SignatureFacts where
  id := id
  indication := indication
  subIndication := none
  qualification := none
  profile := none
  signatureFormat := none
  signatureMethod := []
  claimedSigningTime := none
  bestSignatureTime := none
  signingCertificate := none
  revocations := []
  timestamps := []
  references := []
  signerRoles := []
  productionPlace := none
  errors := []
  warnings := []

/-- A signature that cannot be processed, for its time is out of range. -/
def SignatureFacts.untimely (id : Text) : SignatureFacts :=
  { ofWord id "PASSED" with claimedSigningTime := some Moment.firstMidnight }

/-- An entry of a simple report on a qualified signature. -/
def SimpleEntry.qualified : SimpleEntry := ⟨"PASSED", none, some "QESIG"⟩

/-- Signatures with their entries in the simple report, in a container that is sound. -/
def Facts.ofSignatures (documentFormat : Text) (signatures : List SignatureFacts)
    (simpleReports : List (Text × SimpleEntry)) : Facts where
  documentFormat := documentFormat
  containerType := none
  formatVersion := none
  hashcode := false
  signatures := signatures
  simpleReports := simpleReports
  containerErrors := []
  containerWarnings := []
  dataFiles := []
  validationProcess := none
  diagnosticData := none

end ValidationReport
