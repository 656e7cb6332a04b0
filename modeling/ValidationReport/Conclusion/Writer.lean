import ValidationReport.Assembly
import ValidationReport.DataFiles
import ValidationReport.Facts.Writer
import ValidationReport.Json.Reported

/-!
# Writing conclusions

A conclusion is written as a JSON object with every field; what is absent is null, and the counts
of signatures stand beside the signatures.

## Main definitions

* `writePolicy`, `writeDocument`, `writeSubject`, `writeCertificate`, `writeScope`, `writeInfo`,
  `writeEntry` — the parts of a conclusion.
* `writeConclusion` — a conclusion.
* `writeEngineData` — data of the engine in a layer.
* `Layers.write` — the layer of a report that is asked for.
-/

namespace ValidationReport

/-- Objects with one member each, which holds a text. -/
def writeNamed (key : Text) (texts : List Text) : Json :=
  writeList (fun t => .obj [(key, .str t)]) texts

def writePolicy (p : Policy) : Json := .obj [
  ("policyName", .str p.name), ("policyDescription", .str p.description), ("policyUrl", .str p.url)]

def writeDocument (d : ValidatedDocument) : Json := .obj [
  ("filename", .str d.filename), ("fileHash", Json.optional d.fileHash),
  ("hashAlgo", Json.optional d.hashAlgorithm)]

def writeSubject (s : SubjectName) : Json := .obj [
  ("commonName", Json.optional s.commonName), ("serialNumber", Json.optional s.serialNumber),
  ("givenName", Json.optional s.givenName), ("surname", Json.optional s.surname)]

def writeCertificate (c : CertificateEntry) : Json := .obj [
  ("content", .str c.content), ("commonName", .str c.commonName), ("type", .str c.role.text)]

def writeScope (s : Scope) : Json := .obj [
  ("name", .str s.name), ("scope", .str s.scope), ("content", .str s.content)]

def writePlace (p : ReportedPlace) : Json := .obj [
  ("countryName", .str p.countryName), ("stateOrProvince", .str p.stateOrProvince),
  ("city", .str p.city), ("postalCode", .str p.postalCode)]

def writeInfo (i : SignatureInfo) : Json := .obj [
  ("bestSignatureTime", Json.optional i.bestSignatureTime),
  ("ocspResponseCreationTime", Json.optional i.ocspResponseCreationTime),
  ("timestampCreationTime", Json.optional i.timestampCreationTime),
  ("timeAssertionMessageImprint", .str i.timeAssertionMessageImprint),
  ("signerRole", writeNamed "claimedRole" i.signerRoles),
  ("signatureProductionPlace", writeOptional writePlace i.productionPlace)]

def writeEntry (s : SignatureEntry) : Json := .obj [
  ("id", .str s.id),
  ("signatureFormat", .str s.signatureFormat),
  ("signatureMethod", .str s.signatureMethod),
  ("signatureLevel", .str s.signatureLevel),
  ("signedBy", .str s.signedBy),
  ("subjectDistinguishedName", writeSubject s.subject),
  ("indication", .str s.indication.text),
  ("subIndication", .str s.subIndication),
  ("claimedSigningTime", .str s.claimedSigningTime),
  ("warnings", writeNamed "content" s.warnings),
  ("errors", writeNamed "content" s.errors),
  ("signatureScopes", writeList writeScope s.scopes),
  ("certificates", writeList writeCertificate s.certificates),
  ("info", writeInfo s.info)]

def validationTimeKey : Text := "validationTime"

def writeConclusion (c : Conclusion) : Json := .obj [
  ("policy", writePolicy c.policy),
  (validationTimeKey, .str c.validationTime),
  ("validatedDocument", writeDocument c.document),
  ("signatureForm", Json.optional c.signatureForm),
  ("signatures", writeList writeEntry c.signatures),
  ("validationWarnings", writeNamed "content" c.warnings),
  ("signaturesCount", .int c.signaturesCount),
  ("validSignaturesCount", .int c.validSignaturesCount)]

/-! ### Layers -/

def conclusionKey : Text := "validationConclusion"

/-- Data of the engine, and null for none. -/
def writeEngineData : Option Object → Except Obstacle Json
  | none => .ok .null
  | some data => (data.reported.map .obj).mapError .unreportable

def SimpleReport.write (r : SimpleReport) : Json :=
  .obj [(conclusionKey, writeConclusion r.conclusion)]

def DetailedReport.write (r : DetailedReport) : Except Obstacle Json := do
  let course ← writeEngineData r.validationProcess
  return .obj [(conclusionKey, writeConclusion r.conclusion), ("validationProcess", course)]

def DiagnosticReport.write (r : DiagnosticReport) : Except Obstacle Json := do
  let data ← writeEngineData r.diagnosticData
  return .obj [(conclusionKey, writeConclusion r.conclusion), ("diagnosticData", data)]

def Layers.write (l : Layers) : ReportType → Except Obstacle Json
  | .simple => .ok l.simple.write
  | .detailed => l.detailed.write
  | .diagnostic => l.diagnostic.write

/-! ### Data files -/

def writeDataFileEntry (f : DataFileEntry) : Json := .obj [
  ("filename", .str f.filename), ("mimeType", .str f.mimeType), ("base64", .str f.content),
  ("size", .int f.size)]

def writeDataFiles (files : List DataFileEntry) : Json :=
  .obj [("dataFiles", writeList writeDataFileEntry files)]

end ValidationReport
