import ValidationReport.X509.Certificate

/-!
# Responses on the status of certificates

An answer of a status responder is read as strictly as a certificate.  Kept are the time at which
it was produced and its extensions.  Only successful basic answers count.

## Main definitions

* `StatusResponse` — what is kept.
* `StatusResponse.ofDer?` — the successful basic answer that octets are.
* `StatusResponse.nonce` — the nonce among the extensions.
-/

namespace ValidationReport.X509

open Der

def Oid.basicResponse : Oid := [0x2B, 0x06, 0x01, 0x05, 0x05, 0x07, 0x30, 0x01, 0x01]

def Oid.nonce : Oid := [0x2B, 0x06, 0x01, 0x05, 0x05, 0x07, 0x30, 0x01, 0x02]

/-- What is kept of an answer. -/
structure StatusResponse where
  producedAt : Civil
  extensions : List Extension
  deriving Repr

/-- The name or the key hash of a responder. -/
def isResponder (e : Element) : Bool :=
  match single? e.content with
  | none => false
  | some inner =>
    if e.tag = Tag.explicit 1 then inner.tag == Tag.sequence && (Name.read? inner.content).isSome
    else if e.tag = Tag.explicit 2 then inner.tag == Tag.octetString
    else false

/-- The fields that tell which certificate an answer is about. -/
def certificateIdFields : Fields Unit := do
  let algorithm ← Fields.take Tag.sequence
  let _ ← Fields.take Tag.octetString
  let _ ← Fields.take Tag.octetString
  let serial ← Fields.take Tag.integer
  Fields.require (isAlgorithm algorithm && isInteger serial)

/-- The fields of a revocation: its time, and its reason if one is given. -/
def revokedFields : Fields Unit := do
  let time ← Fields.take Tag.generalizedTime
  let reason ← Fields.explicit 0
  Fields.require ((generalizedTime? time).isSome &&
    reason.all fun e => e.tag == Tag.enumerated && (natural? e.content).any (· < Nat.pow 2 32))

/-- A status: good, revoked or unknown. -/
def isStatus (e : Element) : Bool :=
  if e.tag = Tag.implicit 0 ∨ e.tag = Tag.implicit 2 then e.content.isEmpty
  else if e.tag = Tag.implicitConstructed 1 then (revokedFields.of? e.content).isSome
  else false

/-- The fields of a single answer. -/
def singleResponseFields : Fields Unit := do
  let certificate ← Fields.take Tag.sequence
  let status ← Fields.next
  let thisUpdate ← Fields.take Tag.generalizedTime
  let nextUpdate ← Fields.explicit 0
  let extensions ← Fields.explicit 1
  let _ ← Fields.some? (certificateIdFields.of? certificate)
  Fields.require (isStatus status && (generalizedTime? thisUpdate).isSome)
  Fields.require (nextUpdate.all fun e =>
    e.tag == Tag.generalizedTime && (generalizedTime? e.content).isSome)
  Fields.require (extensions.all fun e => (readExtensions? e).isSome)

def areSingleResponses (content : Bytes) : Bool :=
  match elements? content with
  | none => false
  | some es =>
    es.all fun e => e.tag == Tag.sequence && (singleResponseFields.of? e.content).isSome

/-- The fields of the signed part.  The version, of which there is one only, is never written
out. -/
def responseDataFields : Fields StatusResponse := do
  let responder ← Fields.next
  let producedAt ← Fields.take Tag.generalizedTime
  let responses ← Fields.take Tag.sequence
  let extensions ← Fields.explicit 1
  Fields.require (isResponder responder && areSingleResponses responses)
  let producedAt ← Fields.some? (generalizedTime? producedAt)
  let extensions ← Fields.some? (extensions.elim (some []) readExtensions?)
  pure ⟨producedAt, extensions⟩

def areCertificates (e : Element) : Bool :=
  match elements? e.content with
  | none => false
  | some es => e.tag == Tag.sequence && es.all fun c => (Certificate.read? c).isSome

/-- The fields of a basic answer: the signed part, the algorithm, the signature and certificates. -/
def basicFields : Fields StatusResponse := do
  let signed ← Fields.take Tag.sequence
  let algorithm ← Fields.take Tag.sequence
  let signature ← Fields.take Tag.bitString
  let certificates ← Fields.explicit 0
  Fields.require (isAlgorithm algorithm && isBitString signature)
  Fields.require (certificates.all areCertificates)
  Fields.some? (responseDataFields.of? signed)

/-- The fields of a typed answer, which must be a basic one. -/
def typedFields : Fields StatusResponse := do
  let type ← Fields.take Tag.oid
  let answer ← Fields.take Tag.octetString
  Fields.require (type == Oid.basicResponse)
  let basic ← Fields.some? (single? answer)
  Fields.require (basic.tag == Tag.sequence)
  Fields.some? (basicFields.of? basic.content)

/-- The fields of an answer with its status, which must be success, written as zero. -/
def outerFields : Fields StatusResponse := do
  let status ← Fields.take Tag.enumerated
  let answer ← Fields.explicit 0
  Fields.require (natural? status == some 0)
  let answer ← Fields.some? answer
  Fields.require (answer.tag == Tag.sequence)
  Fields.some? (typedFields.of? answer.content)

/-- The successful basic answer that octets are. -/
def StatusResponse.ofDer? (der : Bytes) : Option StatusResponse :=
  match single? der with
  | none => none
  | some e => if e.tag = Tag.sequence then outerFields.of? e.content else none

/-- The nonce in the value of its extension: the content of a string of octets, and the value
itself when it is not exactly one. -/
def nonceOfValue (value : Bytes) : Bytes :=
  match single? value with
  | some e => if e.tag = Tag.octetString then e.content else value
  | none => value

/-- The nonce of an answer, if it has one.  No extension may occur twice. -/
def StatusResponse.nonce (response : StatusResponse) : Except Failure (Option Bytes) :=
  if allDistinct (response.extensions.map (·.oid)) then
    .ok ((response.extensions.find? (·.oid == Oid.nonce)).map fun e => nonceOfValue e.value)
  else .error .duplicateExtension

end ValidationReport.X509
