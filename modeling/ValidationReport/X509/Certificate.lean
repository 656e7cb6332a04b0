import ValidationReport.X509.Algorithm

/-!
# Certificates

The structure of a certificate is read strictly and as a whole, but of its parts only the version
and the subject are kept: serial number, issuer, validity, key, extensions and signature must be
well formed, and what they say has no influence.

## Main definitions

* `isTime`, `readExtensions?` — parts that other structures share.
* `Certificate` — what is kept.
* `Certificate.read?` — the structural reading, of version numbers below 256.
* `Certificate.ofDer` — a certificate on its own, which is of version 1 or 3.
-/

namespace ValidationReport.X509

open Der

/-! ### Shared parts -/

/-- A time in either form. -/
def isTime (e : Element) : Bool :=
  if e.tag = Tag.utcTime then (utcTime? e.content).isSome
  else if e.tag = Tag.generalizedTime then (generalizedTime? e.content).isSome
  else false

/-- An extension: its object identifier and the octets of its value. -/
structure Extension where
  oid : Oid
  value : Bytes
  deriving DecidableEq, Repr

/-- The fields of an extension.  A mark of being critical is written only when it is true. -/
def Extension.fields : Fields Extension := do
  let oid ← Fields.take Tag.oid
  let critical ← Fields.optional Tag.boolean
  let value ← Fields.take Tag.octetString
  Fields.require (isOid oid && critical.all fun c => boolean? c == some true)
  pure ⟨oid, value⟩

/-- The extensions in an element that is a sequence of them. -/
def readExtensions? (e : Element) : Option (List Extension) :=
  if e.tag = Tag.sequence then
    match elements? e.content with
    | none => none
    | some es =>
      es.mapM fun e => if e.tag = Tag.sequence then Extension.fields.of? e.content else none
  else none

/-! ### Certificates -/

/-- What is kept of a certificate. -/
structure Certificate where
  /-- The version as encoded, one less than its name. -/
  version : Nat
  subject : Name
  deriving Repr

/-- The fields of a validity: two times. -/
def validityFields : Fields Unit := do
  let notBefore ← Fields.next
  let notAfter ← Fields.next
  Fields.require (isTime notBefore && isTime notAfter)

/-- The fields of a key: its algorithm and a string of bits. -/
def keyFields : Fields Unit := do
  let algorithm ← Fields.take Tag.sequence
  let key ← Fields.take Tag.bitString
  Fields.require (isAlgorithm algorithm && isBitString key)

/-- A version below 256 in an element.  The first version is never written out. -/
def version? (e : Element) : Option Nat :=
  if e.tag = Tag.integer then (natural? e.content).filter fun n => 0 < n && n < 256 else none

/-- The fields of the signed part. -/
def signedFields : Fields Certificate := do
  let version ← Fields.explicit 0
  let version ← Fields.some? (version.elim (some 0) version?)
  let serial ← Fields.take Tag.integer
  let algorithm ← Fields.take Tag.sequence
  let issuer ← Fields.take Tag.sequence
  let validity ← Fields.take Tag.sequence
  let subject ← Fields.take Tag.sequence
  let key ← Fields.take Tag.sequence
  let issuerId ← Fields.optional (Tag.implicit 1)
  let subjectId ← Fields.optional (Tag.implicit 2)
  let extensions ← Fields.explicit 3
  Fields.require (isInteger serial && isAlgorithm algorithm && (Name.read? issuer).isSome)
  let _ ← Fields.some? (validityFields.of? validity)
  let subject ← Fields.some? (Name.read? subject)
  let _ ← Fields.some? (keyFields.of? key)
  Fields.require (issuerId.all isBitString && subjectId.all isBitString)
  Fields.require (extensions.all fun e => (readExtensions? e).isSome)
  pure ⟨version, subject⟩

/-- The fields of a certificate: the signed part, the algorithm and the signature. -/
def certificateFields : Fields Certificate := do
  let signed ← Fields.take Tag.sequence
  let algorithm ← Fields.take Tag.sequence
  let signature ← Fields.take Tag.bitString
  Fields.require (isAlgorithm algorithm && isBitString signature)
  Fields.some? (signedFields.of? signed)

/-- The certificate that an element is. -/
def Certificate.read? (e : Element) : Option Certificate :=
  if e.tag = Tag.sequence then certificateFields.of? e.content else none

/-- The certificate that octets are. -/
def Certificate.ofDer (der : Bytes) : Except Flaw Certificate :=
  match (single? der).bind Certificate.read? with
  | none => .error .unreadable
  | some certificate =>
    if certificate.version = 0 ∨ certificate.version = 2 then .ok certificate
    else .error (.fatal .unsupportedVersion)

/-- The attributes of the subject of a certificate in octets. -/
def subjectAttributes (der : Bytes) : Except Flaw (List NamedValue) := do
  (← Certificate.ofDer der).subject.attributes

end ValidationReport.X509
