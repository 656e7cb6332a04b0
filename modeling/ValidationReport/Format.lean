import ValidationReport.Certificates
import ValidationReport.Container
import ValidationReport.Evidence
import ValidationReport.Indication

/-!
# Signature formats

What a report says about a signature is found in different places of the facts, by the format of
the document.  There are four families.

## Main definitions

* `Format`, `Facts.format` — the families, and the family of a document.
* `Format.appliesLevels` — whether the family has qualification levels.
* `Format.verdict`, `Format.reason`, `Format.level` — what is judged.
* `Format.errors`, `Format.warnings` — the messages about a signature.
* `Format.imprint`, `Format.timestampEntries` — its evidence.
* `Format.form`, `Format.signatureFormat`, `Format.dataFileNames` — what is reported as it is.
-/

namespace ValidationReport

/-- The families of formats. -/
inductive Format where
  /-- Containers with time marks, judged by the engine's simple report. -/
  | timemark
  /-- Containers in XML, which have no levels. -/
  | digidoc
  /-- Containers and signatures that the engine judges itself. -/
  | generic
  /-- The same with data files apart from the signature. -/
  | detached
  deriving DecidableEq, Repr

/-- The family of a document, by the name of its format. -/
def formatOf (name : Text) : Format :=
  let name := normalized name
  if name = "BDOC" ∨ name = "ASICE_TM" then .timemark
  else if name = "DDOC" then .digidoc
  else if name = "HASHCODE" then .detached
  else .generic

def Facts.format (f : Facts) : Format := formatOf f.documentFormat

/-- The number of the error that a digidoc container without a namespace on a data file gives
though the file is intact.  It is no more than a warning. -/
def missingNamespace : Int := 173

/-- The engine's word for a failed signature. -/
def failedWord : Text := "TOTAL_FAILED"

/-- The engine's word for a passed signature. -/
def passedWord : Text := "TOTAL_PASSED"

/-- The entry of the simple report on a signature. -/
def Facts.simpleEntry? (f : Facts) (s : SignatureFacts) : Option SimpleEntry :=
  f.simpleReports.lookup s.id

/-- The version of a container's format with its separator, if it is known. -/
def Facts.versionSuffix (f : Facts) : Text :=
  let version := (f.formatVersion.getD []).trim
  if version.isEmpty then [] else ("_" : Text) ++ version

/-- The name of the format of a digidoc container, with its version. -/
def Facts.digidocName (f : Facts) : Text := ("DIGIDOC_XML" : Text) ++ f.versionSuffix

/-- Whether an issue is no more than a warning in a digidoc container. -/
def Issue.isHarmless (i : Issue) : Bool := i.code == some missingNamespace

namespace Format

/-- Whether signatures have a qualification level. -/
def appliesLevels : Format → Bool
  | digidoc => false
  | _ => true

/-- The messages that are errors of a signature. -/
def errors (format : Format) (s : SignatureFacts) : List Text :=
  match format with
  | digidoc => (s.errors.filter fun i => !i.isHarmless).map Issue.message
  | _ => s.errors.map Issue.message

/-- The messages that are warnings about a signature. -/
def warnings (format : Format) (s : SignatureFacts) : List Text :=
  match format with
  | digidoc => s.warnings.map Issue.message ++ (s.errors.filter Issue.isHarmless).map Issue.message
  | _ => s.warnings.map Issue.message

/-- The word that is judged.  With time marks the engine alone passes a signature, and its simple
report may leave one undecided.  A digidoc signature passes if it has no errors. -/
def verdict (format : Format) (f : Facts) (s : SignatureFacts) : Text :=
  match format with
  | timemark =>
    if isPassed s.indication then s.indication
    else
      match f.simpleEntry? s with
      | some entry => if isIndeterminate entry.indication then entry.indication else failedWord
      | none => failedWord
  | digidoc => if (digidoc.errors s).isEmpty then passedWord else failedWord
  | _ => s.indication

/-- The reason given for the word that is judged. -/
def reason (format : Format) (f : Facts) (s : SignatureFacts) : Option Text :=
  match format with
  | timemark =>
    match ((f.simpleEntry? s).bind SimpleEntry.subIndication).bind Text.nonempty? with
    | some reason => some reason
    | none => s.subIndication
  | digidoc => none
  | _ => s.subIndication

def level (format : Format) (f : Facts) (s : SignatureFacts) : Text :=
  match format with
  | timemark => ((f.simpleEntry? s).bind SimpleEntry.qualification).getD []
  | digidoc => []
  | _ => s.qualification.getD []

def form (format : Format) (f : Facts) : Option Text :=
  match format with
  | timemark => some "ASiC-E"
  | digidoc =>
    some (f.digidocName ++ (if f.hashcode then ("_hashcode" : Text) else []))
  | generic => f.containerType
  | detached => none

def signatureFormat (format : Format) (f : Facts) (s : SignatureFacts) : Text :=
  match format with
  | timemark =>
    match s.profile.bind Text.nonempty? with
    | some profile => ("XAdES_BASELINE_" : Text) ++ profile
    | none => s.signatureFormat.getD []
  | digidoc => f.digidocName
  | _ => s.signatureFormat.getD []

/-- The time stamps whose certificates are reported. -/
def reportedTimestamps (format : Format) (s : SignatureFacts) : List TimestampFacts :=
  match format with
  | timemark => s.timestamps.take 1
  | digidoc => []
  | _ => s.timestamps

/-- The certificates of time stamps. -/
def timestampEntries (format : Format) (s : SignatureFacts) :
    Except Failure (List CertificateEntry) :=
  certificateEntries .signatureTimestamp ((format.reportedTimestamps s).map (·.certificate))

/-- The message imprint of the evidence of time.  A time mark is the nonce of a responder, and so
is the evidence of a digidoc container; elsewhere a time stamp goes first. -/
def imprint (format : Format) (s : SignatureFacts) : Except Failure Text :=
  match format with
  | timemark =>
    if ((s.profile.getD []).upper).endsWith "TM" then nonceImprint s.firstRevocation
    else .ok (timestampImprint s.firstTimestamp)
  | digidoc => nonceImprint s.firstRevocation
  | _ =>
    match s.firstTimestamp with
    | some timestamp => .ok (timestampImprint (some timestamp))
    | none => nonceImprint s.firstRevocation

def dataFileNames (format : Format) (f : Facts) (d : Document) : List Text :=
  match format with
  | detached => d.dataFiles
  | _ => f.dataFiles.map DataFile.name

end Format

end ValidationReport
