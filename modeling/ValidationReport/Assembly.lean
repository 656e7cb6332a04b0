import ValidationReport.Conclusion
import ValidationReport.Format
import ValidationReport.Sha256

/-!
# Assembly

A conclusion is assembled from facts in one way for all formats; the format only says where things
are found.  Signatures do not depend on each other: one that cannot be processed is reported as
failed, and the others as if it were not there.

## Main definitions

* `mergedErrors` — the faults of a container, each once.
* `Assembly`, `Assembly.ofParts` — what a conclusion is assembled from.
* `Assembly.entry`, `Assembly.failedEntry`, `Assembly.entryOrFailure` — the entry of a signature.
* `Assembly.conclusion` — the conclusion at a time.
* `Layers`, `Assembly.layers` — the three layers of a report.
-/

namespace ValidationReport

/-- The members of a list that are not among those seen before, each once, in order. -/
def firstOccurrences {α : Type} [DecidableEq α] (seen : List α) : List α → List α
  | [] => []
  | a :: rest =>
    if a ∈ seen then firstOccurrences seen rest else a :: firstOccurrences (a :: seen) rest

/-- The faults of a container found by the engine and by other checks, each once, in order. -/
def mergedErrors (f : Facts) (extra : List Text) : List Text :=
  firstOccurrences [] (f.containerErrors.map Issue.message ++ extra)

/-- A document by its name, with the hash of its content if that is wanted. -/
def validatedDocument (hashed : Bool) (filename : Text) (content : Bytes) : ValidatedDocument :=
  if hashed then ⟨filename, some (Base64.encode (Sha256.digest content)), some "SHA256"⟩
  else ⟨filename, none, none⟩

/-- What a conclusion is assembled from. -/
structure Assembly where
  format : Format
  facts : Facts
  document : Document
  policy : Policy
  /-- Whether the hash of the document is reported. -/
  hashed : Bool
  /-- The faults of the container, each once. -/
  containerErrors : List Text

namespace Assembly

/-- An assembly of facts read in a format, with the faults that other checks find in the
container. -/
def ofParts (format : Format) (facts : Facts) (document : Document) (policy : Policy)
    (hashed : Bool) (faults : List Text) : Assembly where
  format := format
  facts := facts
  document := document
  policy := policy
  hashed := hashed
  containerErrors := mergedErrors facts faults

/-- The outcome of a signature before its messages are counted. -/
def outcome (a : Assembly) (s : SignatureFacts) : Outcome :=
  resolveOutcome (a.format.level a.facts s) (a.format.verdict a.facts s)
    (a.format.reason a.facts s) (!a.containerErrors.isEmpty) a.policy a.format.appliesLevels

/-- All errors of a signature: its own, those of the container that are not among them, and the
error of its level. -/
def errors (a : Assembly) (s : SignatureFacts) : List Text :=
  let own := a.format.errors s
  own ++ a.containerErrors.filter (fun e => !own.contains e) ++ (a.outcome s).errors

/-- All warnings about a signature: its own, and the warning about its level. -/
def warnings (a : Assembly) (s : SignatureFacts) : List Text :=
  a.format.warnings s ++ (a.outcome s).warnings

/-- The verdict on a signature.  None passes with errors. -/
def indication (a : Assembly) (s : SignatureFacts) : Indication :=
  if (a.outcome s).indication = .passed ∧ a.errors s ≠ [] then .failed
  else (a.outcome s).indication

def certificates (a : Assembly) (s : SignatureFacts) : Except Failure (List CertificateEntry) := do
  return (← classifyCertificates s.signingCertificate (s.revocations.map (·.certificate)) none) ++
    (← a.format.timestampEntries s)

/-- The evidence of a signature. -/
def info (a : Assembly) (s : SignatureFacts) : Except Failure SignatureInfo := do
  return {
    bestSignatureTime := ← Moment.utcText? s.bestSignatureTime
    ocspResponseCreationTime := ← Moment.utcText? (← revocationTime s.firstRevocation)
    timestampCreationTime := ← Moment.utcText? (s.firstTimestamp.bind (·.creationTime))
    timeAssertionMessageImprint := ← a.format.imprint s
    signerRoles := s.signerRoles
    productionPlace := s.productionPlace.map fun p =>
      ⟨p.countryName, p.stateOrProvince, p.city, p.postalCode⟩ }

def entry (a : Assembly) (s : SignatureFacts) : Except Failure SignatureEntry := do
  let certificates ← a.certificates s
  let subject ← subjectName s.signingCertificate
  let claimedSigningTime ← Moment.utcText? s.claimedSigningTime
  let info ← a.info s
  return {
    id := s.id
    signatureFormat := a.format.signatureFormat a.facts s
    signatureMethod := s.signatureMethod
    signatureLevel := a.format.level a.facts s
    signedBy := subject.commonName.getD []
    subject := subject
    indication := a.indication s
    subIndication := if a.indication s = .passed then [] else (a.outcome s).subIndication
    claimedSigningTime := claimedSigningTime.getD []
    warnings := a.warnings s
    errors := a.errors s
    scopes := signedScopes s.references (a.format.dataFileNames a.facts a.document)
    certificates := certificates
    info := info }

/-- The error of a signature that cannot be processed. -/
def processingError : Text := "Signature could not be processed"

/-- The entry of a signature that cannot be processed. -/
def failedEntry (a : Assembly) (s : SignatureFacts) : SignatureEntry where
  id := s.id
  signatureFormat := []
  signatureMethod := []
  signatureLevel := []
  signedBy := []
  subject := .unknown
  indication := .failed
  subIndication := []
  claimedSigningTime := []
  warnings := []
  errors := processingError :: a.containerErrors
  scopes := []
  certificates := []
  info := .empty

/-- The entry of a signature, whether or not it can be processed. -/
def entryOrFailure (a : Assembly) (s : SignatureFacts) : SignatureEntry :=
  match a.entry s with
  | .ok entry => entry
  | .error _ => a.failedEntry s

def conclusion (a : Assembly) (time : Moment) : Except Failure Conclusion := do
  return {
    policy := a.policy
    validationTime := ← time.utcText
    document := validatedDocument a.hashed a.document.filename a.document.content
    signatureForm := a.format.form a.facts
    signatures := a.facts.signatures.map a.entryOrFailure
    warnings := a.facts.containerWarnings.map Issue.message }

end Assembly

/-! ### Layers -/

/-- The layer of a report that is asked for. -/
inductive ReportType where
  | simple
  | detailed
  | diagnostic
  deriving DecidableEq, Repr

def ReportType.text : ReportType → Text
  | .simple => "SIMPLE"
  | .detailed => "DETAILED"
  | .diagnostic => "DIAGNOSTIC"

def ReportType.ofText? (t : Text) : Option ReportType :=
  [ReportType.simple, .detailed, .diagnostic].find? (·.text == t)

/-- The layer that gives the conclusion alone. -/
structure SimpleReport where
  conclusion : Conclusion

/-- The layer that adds the course of the validation. -/
structure DetailedReport where
  conclusion : Conclusion
  validationProcess : Option Object

/-- The layer that adds the data behind the validation. -/
structure DiagnosticReport where
  conclusion : Conclusion
  diagnosticData : Option Object

/-- The three layers of a report. -/
structure Layers where
  simple : SimpleReport
  detailed : DetailedReport
  diagnostic : DiagnosticReport

/-- The layers of a report at a time.  Only the layer that is asked for is filled. -/
def Assembly.layers (a : Assembly) (type : ReportType) (time : Moment) : Except Failure Layers := do
  let conclusion ← a.conclusion time
  return {
    simple := ⟨conclusion⟩
    detailed := ⟨conclusion, if type = .detailed then a.facts.validationProcess else none⟩
    diagnostic := ⟨conclusion, if type = .diagnostic then a.facts.diagnosticData else none⟩ }

end ValidationReport
