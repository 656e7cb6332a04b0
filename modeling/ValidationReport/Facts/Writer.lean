import ValidationReport.Facts.Reader

/-!
# Writing facts

Facts are written with every field, in either spelling of the names.  Times are text, and what is
absent is null.

## Main definitions

* `Spelling` — how the names of fields are spelt.
* `writeFacts` — facts as a JSON value.
-/

namespace ValidationReport

/-- How the names of fields are spelt. -/
inductive Spelling where
  | underscores
  | camel
  deriving DecidableEq, Repr

/-- A name, given with underscores, in a spelling. -/
def Spelling.spell : Spelling → Text → Text
  | .underscores, name => name
  | .camel, name => camelCase name

/-- An object whose keys are names of fields. -/
def record (spelling : Spelling) (fields : List (Text × Json)) : Json :=
  .obj (fields.map fun (name, value) => (spelling.spell name, value))

def writeOptional {α : Type} (write : α → Json) : Option α → Json
  | none => .null
  | some a => write a

/-- A moment, as text that keeps everything. -/
def writeMoment (m : Moment) : Json := .str m.isoText

def writeList {α : Type} (write : α → Json) (items : List α) : Json := .arr (items.map write)

def writeIssue (s : Spelling) (i : Issue) : Json := record s [
  ("message", .str i.message), ("code", writeOptional .int i.code)]

def writeTimestamp (s : Spelling) (t : TimestampFacts) : Json := record s [
  ("certificate", Json.optional t.certificate),
  ("creation_time", writeOptional writeMoment t.creationTime),
  ("message_imprint", Json.optional t.messageImprint)]

def writeRevocation (s : Spelling) (r : RevocationFacts) : Json := record s [
  ("certificate", Json.optional r.certificate),
  ("creation_time", writeOptional writeMoment r.creationTime),
  ("response", Json.optional r.response)]

def writeProductionPlace (s : Spelling) (p : ProductionPlace) : Json := record s [
  ("country_name", .str p.countryName), ("state_or_province", .str p.stateOrProvince),
  ("city", .str p.city), ("postal_code", .str p.postalCode)]

def writeSignature (s : Spelling) (g : SignatureFacts) : Json := record s [
  ("id", .str g.id),
  ("indication", .str g.indication),
  ("sub_indication", Json.optional g.subIndication),
  ("qualification", Json.optional g.qualification),
  ("profile", Json.optional g.profile),
  ("signature_format", Json.optional g.signatureFormat),
  ("signature_method", .str g.signatureMethod),
  ("claimed_signing_time", writeOptional writeMoment g.claimedSigningTime),
  ("best_signature_time", writeOptional writeMoment g.bestSignatureTime),
  ("signing_certificate", Json.optional g.signingCertificate),
  ("revocations", writeList (writeRevocation s) g.revocations),
  ("timestamps", writeList (writeTimestamp s) g.timestamps),
  ("references", writeList .str g.references),
  ("signer_roles", writeList .str g.signerRoles),
  ("production_place", writeOptional (writeProductionPlace s) g.productionPlace),
  ("errors", writeList (writeIssue s) g.errors),
  ("warnings", writeList (writeIssue s) g.warnings)]

def writeSimpleEntry (s : Spelling) (e : SimpleEntry) : Json := record s [
  ("indication", .str e.indication), ("sub_indication", Json.optional e.subIndication),
  ("qualification", Json.optional e.qualification)]

def writeDataFile (s : Spelling) (f : DataFile) : Json := record s [
  ("name", .str f.name), ("mime_type", Json.optional f.mimeType),
  ("size", writeOptional .int f.size), ("declared_size", writeOptional .int f.declaredSize),
  ("content", Json.optional f.content)]

/-- Facts.  The keys of the simple reports are data and keep their spelling. -/
def writeFacts (s : Spelling) (f : Facts) : Json := record s [
  ("document_format", .str f.documentFormat),
  ("container_type", Json.optional f.containerType),
  ("format_version", Json.optional f.formatVersion),
  ("hashcode", .bool f.hashcode),
  ("signatures", writeList (writeSignature s) f.signatures),
  ("simple_reports", .obj (f.simpleReports.map fun (id, e) => (id, writeSimpleEntry s e))),
  ("container_errors", writeList (writeIssue s) f.containerErrors),
  ("container_warnings", writeList (writeIssue s) f.containerWarnings),
  ("data_files", writeList (writeDataFile s) f.dataFiles),
  ("validation_process", writeOptional .obj f.validationProcess),
  ("diagnostic_data", writeOptional .obj f.diagnosticData)]

end ValidationReport
