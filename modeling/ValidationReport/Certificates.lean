import ValidationReport.Base64
import ValidationReport.Text.Blank
import ValidationReport.X509.Certificate

/-!
# Certificates in a report

An engine hands a certificate over as text, either base64 broken into lines or an armoured block.
A report shows it as base64 on one line with the common name of its subject.  A certificate that
cannot be read has no name.

## Main definitions

* `certificateOctets?` — the octets that a text carries.
* `normalizeCertificate` — the text on one line.
* `commonName`, `subjectName` — what a report says about the subject.
* `CertificateEntry`, `certificateEntry`, `classifyCertificates` — certificates with their roles.
-/

namespace ValidationReport

/-! ### Transport -/

/-- The beginning of an armoured block. -/
def armourStart : Text := "-----BEGIN"

/-- What marks a line of armour. -/
def armourMark : Text := "-----"

/-- The letters of an armoured block: its lines without blanks around them, less the lines of
armour. -/
def armourBody (t : Text) : Text :=
  ((t.lines.filter fun line => !Text.contains armourMark line).map Text.trim).flatten

/-- The octets that a text carries: an armoured block is read leniently, any other text as base64
among blanks. -/
def certificateOctets? (t : Text) : Option Bytes :=
  if t.trim.beginsWith armourStart then Base64.decodeLenient? (armourBody t.trim)
  else Base64.decode? t.trim.squeeze

/-- The text of a certificate as base64 on one line, or without the blanks around it if it carries
no octets. -/
def normalizeCertificate (t : Text) : Text :=
  match certificateOctets? t with
  | some octets => Base64.encode octets
  | none => t.trim

/-! ### Subjects -/

/-- The attributes of the subject of the certificate in a text. -/
def subjectOf (t : Text) : Except Flaw (List X509.NamedValue) := do
  X509.subjectAttributes (← Flaw.readable (certificateOctets? t))

/-- The common name of the subject, empty if there is none or it cannot be read. -/
def commonName (t : Text) : Except Failure Text :=
  Flaw.tolerate [] ((subjectOf t).map fun attributes =>
    (X509.firstText? X509.Oid.commonName attributes).getD [])

/-- The subject of a certificate, as far as a report shows it. -/
structure SubjectName where
  commonName : Option Text
  serialNumber : Option Text
  givenName : Option Text
  surname : Option Text
  deriving DecidableEq, Repr

/-- The subject about which nothing is known. -/
def SubjectName.unknown : SubjectName := ⟨none, none, none, none⟩

/-- The subject that attributes describe: of each kind the first counts. -/
def SubjectName.ofAttributes (attributes : List X509.NamedValue) : SubjectName where
  commonName := X509.firstText? X509.Oid.commonName attributes
  serialNumber := X509.firstText? X509.Oid.serialNumber attributes
  givenName := X509.firstText? X509.Oid.givenName attributes
  surname := X509.firstText? X509.Oid.surname attributes

/-- The subject of a certificate, unknown if there is none or it cannot be read. -/
def subjectName (certificate : Option Text) : Except Failure SubjectName :=
  match certificate.bind Text.nonempty? with
  | none => .ok .unknown
  | some t => Flaw.tolerate .unknown ((subjectOf t).map .ofAttributes)

/-! ### Entries -/

/-- What a certificate is for. -/
inductive CertificateRole where
  | signing
  | revocation
  | signatureTimestamp
  deriving DecidableEq, Repr

def CertificateRole.text : CertificateRole → Text
  | .signing => "SIGNING"
  | .revocation => "REVOCATION"
  | .signatureTimestamp => "SIGNATURE_TIMESTAMP"

/-- A certificate in a report. -/
structure CertificateEntry where
  content : Text
  commonName : Text
  role : CertificateRole
  deriving DecidableEq, Repr

def certificateEntry (role : CertificateRole) (t : Text) : Except Failure CertificateEntry := do
  return ⟨normalizeCertificate t, ← commonName t, role⟩

/-- The texts that are there and not empty. -/
def presentTexts (texts : List (Option Text)) : List Text :=
  texts.filterMap fun t => t.bind Text.nonempty?

/-- The entries of certificates of one role, less those that are absent or empty. -/
def certificateEntries (role : CertificateRole) (texts : List (Option Text)) :
    Except Failure (List CertificateEntry) :=
  (presentTexts texts).mapM (certificateEntry role)

/-- The entries of a signing certificate, of certificates in revocation data, and of a time stamp,
in this order. -/
def classifyCertificates (signing : Option Text) (revocations : List (Option Text))
    (timestamp : Option Text) : Except Failure (List CertificateEntry) := do
  return (← certificateEntries .signing [signing]) ++
    (← certificateEntries .revocation revocations) ++
    (← certificateEntries .signatureTimestamp [timestamp])

def entriesOf (role : CertificateRole) (entries : List CertificateEntry) : List CertificateEntry :=
  entries.filter (·.role = role)

end ValidationReport
