import ValidationReport.Base64
import ValidationReport.Facts
import ValidationReport.Text.Blank
import ValidationReport.X509.Response

/-!
# Evidence of time

The time of a signature is witnessed by time stamps and by the answers of status responders.
Evidence that is absent or damaged gives nothing.

## Main definitions

* `statusResponse?` — the answer in revocation data.
* `nonceImprint` — its nonce in base64.
* `revocationTime` — the time of revocation data.
* `timestampImprint` — the message imprint of a time stamp.
-/

namespace ValidationReport

/-- The successful answer in revocation data, given as base64 among blanks. -/
def statusResponse? (r : RevocationFacts) : Option X509.StatusResponse := do
  let text ← r.response.bind Text.nonempty?
  X509.StatusResponse.ofDer? (← Base64.decode? text.squeeze)

/-- The nonce of the answer in revocation data, in base64, and nothing if there is none. -/
def nonceImprint (r : Option RevocationFacts) : Except Failure Text :=
  match r.bind statusResponse? with
  | none => .ok []
  | some response => do return ((← response.nonce).map Base64.encode).getD []

/-- The time at which an answer was produced. -/
def producedAt (response : X509.StatusResponse) : Except Failure Moment :=
  match Moment.of? response.producedAt (some 0) with
  | some moment => .ok moment
  | none => .error .yearZero

/-- The time of revocation data: the engine's, or else the time at which the answer was
produced. -/
def revocationTime (r : Option RevocationFacts) : Except Failure (Option Moment) :=
  match r with
  | none => .ok none
  | some r =>
    match r.creationTime with
    | some moment => .ok (some moment)
    | none =>
      match statusResponse? r with
      | none => .ok none
      | some response => (producedAt response).map some

/-- The message imprint of a time stamp, and nothing if there is none. -/
def timestampImprint (t : Option TimestampFacts) : Text := (t.bind (·.messageImprint)).getD []

namespace SignatureFacts

/-- The first revocation data of a signature, the only one that speaks for its time. -/
def firstRevocation (s : SignatureFacts) : Option RevocationFacts := s.revocations.head?

/-- The first time stamp of a signature, the only one that speaks for its time. -/
def firstTimestamp (s : SignatureFacts) : Option TimestampFacts := s.timestamps.head?

end SignatureFacts

end ValidationReport
