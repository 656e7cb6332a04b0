import ValidationReport.Certificates
import ValidationReport.Indication
import ValidationReport.Scope

/-!
# Conclusions

The conclusion is what all layers of a report have in common: the policy, the time and the document
of a validation, and an entry for every signature.

## Main definitions

* `SignatureEntry` — what is reported about a signature.
* `Conclusion` — the conclusion of a validation.
* `Conclusion.signaturesCount`, `Conclusion.validSignaturesCount` — its counts.
-/

namespace ValidationReport

/-- Where a signature was made. -/
structure ReportedPlace where
  countryName : Text
  stateOrProvince : Text
  city : Text
  postalCode : Text
  deriving DecidableEq, Repr

/-- The evidence of a signature. -/
structure SignatureInfo where
  bestSignatureTime : Option Text
  ocspResponseCreationTime : Option Text
  timestampCreationTime : Option Text
  timeAssertionMessageImprint : Text
  signerRoles : List Text
  productionPlace : Option ReportedPlace
  deriving DecidableEq, Repr

/-- The evidence of a signature that could not be processed. -/
def SignatureInfo.empty : SignatureInfo := ⟨none, none, none, [], [], none⟩

/-- What is reported about a signature. -/
structure SignatureEntry where
  id : Text
  signatureFormat : Text
  signatureMethod : Text
  signatureLevel : Text
  signedBy : Text
  subject : SubjectName
  indication : Indication
  subIndication : Text
  claimedSigningTime : Text
  warnings : List Text
  errors : List Text
  scopes : List Scope
  certificates : List CertificateEntry
  info : SignatureInfo
  deriving DecidableEq, Repr

/-- The document that was validated, with its hash if that is wanted. -/
structure ValidatedDocument where
  filename : Text
  fileHash : Option Text
  hashAlgorithm : Option Text
  deriving DecidableEq, Repr

/-- The conclusion of a validation. -/
structure Conclusion where
  policy : Policy
  validationTime : Text
  document : ValidatedDocument
  signatureForm : Option Text
  signatures : List SignatureEntry
  warnings : List Text
  deriving DecidableEq, Repr

def Conclusion.signaturesCount (c : Conclusion) : Nat := c.signatures.length

/-- The number of signatures that passed. -/
def Conclusion.validSignaturesCount (c : Conclusion) : Nat :=
  c.signatures.countP fun s => decide (s.indication = .passed)

end ValidationReport
