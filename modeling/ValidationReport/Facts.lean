import ValidationReport.Json.Basic
import ValidationReport.Moment

/-!
# Facts

What an engine has found out about the signatures of a document.  Cryptography, chains and answers
of responders are already checked; the facts only record the outcome.

## Main definitions

* `Facts` — all that is known about a document, with `SignatureFacts` for each signature.
* `Document` — the document itself, as it was handed in.
-/

namespace ValidationReport

/-- A message of the engine, perhaps with a number. -/
structure Issue where
  message : Text
  code : Option Int
  deriving DecidableEq, Repr

/-- A time stamp on a signature. -/
structure TimestampFacts where
  certificate : Option Text
  creationTime : Option Moment
  messageImprint : Option Text
  deriving DecidableEq, Repr

/-- Revocation data of a signature. -/
structure RevocationFacts where
  certificate : Option Text
  creationTime : Option Moment
  /-- The answer of the responder in base64, if the engine gives it. -/
  response : Option Text
  deriving DecidableEq, Repr

/-- Where a signature was made, by its signer's word. -/
structure ProductionPlace where
  countryName : Text
  stateOrProvince : Text
  city : Text
  postalCode : Text
  deriving DecidableEq, Repr

/-- What is known about a signature. -/
structure SignatureFacts where
  id : Text
  indication : Text
  subIndication : Option Text
  qualification : Option Text
  profile : Option Text
  signatureFormat : Option Text
  signatureMethod : Text
  claimedSigningTime : Option Moment
  bestSignatureTime : Option Moment
  signingCertificate : Option Text
  revocations : List RevocationFacts
  timestamps : List TimestampFacts
  references : List Text
  signerRoles : List Text
  productionPlace : Option ProductionPlace
  errors : List Issue
  warnings : List Issue
  deriving DecidableEq, Repr

/-- The entry of the engine's own simple report on a signature. -/
structure SimpleEntry where
  indication : Text
  subIndication : Option Text
  qualification : Option Text
  deriving DecidableEq, Repr

/-- A file that is signed. -/
structure DataFile where
  name : Text
  mimeType : Option Text
  size : Option Int
  /-- The size that the container declares. -/
  declaredSize : Option Int
  content : Option Text
  deriving DecidableEq, Repr

/-- What is known about a document. -/
structure Facts where
  documentFormat : Text
  containerType : Option Text
  formatVersion : Option Text
  /-- Whether the container holds hashes in place of files. -/
  hashcode : Bool
  signatures : List SignatureFacts
  /-- The entries of the engine's simple report by signature. -/
  simpleReports : List (Text × SimpleEntry)
  containerErrors : List Issue
  containerWarnings : List Issue
  dataFiles : List DataFile
  validationProcess : Option Object
  diagnosticData : Option Object
  deriving DecidableEq

/-- A document as it was handed in. -/
structure Document where
  filename : Text
  content : Bytes
  contentType : Option Text
  /-- The names of data files handed in apart from the signature. -/
  dataFiles : List Text
  deriving DecidableEq, Repr

end ValidationReport
