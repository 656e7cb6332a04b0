import ValidationReport.Facts.Reader
import ValidationReport.Json.Reported

/-!
# Refusals

A request that cannot be answered with a report is refused with a stable code, or stopped by an
obstacle that no code stands for.

## Main definitions

* `Refusal` — a refusal, with its message, code and status.
* `Obstacle` — anything that keeps a request from its report.
* `Payload.facts` — the facts in a payload, or the obstacle.
-/

namespace ValidationReport

/-- Why a request is refused. -/
inductive Refusal where
  /-- The facts cannot be read. -/
  | malformedFacts
  /-- Data files are asked for, but the document is no digidoc container. -/
  | notDigidoc
  /-- There is no policy with the identifier. -/
  | unknownPolicy (identifier : Text)
  deriving DecidableEq, Repr

namespace Refusal

/-- What is said about a refusal. -/
def message : Refusal → Text
  | malformedFacts => "Document malformed or not matching documentType"
  | notDigidoc => "Data files can only be extracted from DDOC containers"
  | unknownPolicy identifier => ("Invalid signature policy: " : Text) ++ identifier

/-- The code of a refusal. -/
def code : Refusal → Text
  | malformedFacts => "DOCUMENT_MALFORMED"
  | notDigidoc => "DOCUMENT_MALFORMED"
  | unknownPolicy _ => "INVALID_POLICY"

/-- The status of a refusal: the request is at fault. -/
def status (_ : Refusal) : Nat := 400

/-- A refusal as an object. -/
def object (r : Refusal) : Json :=
  .obj [("code", .str r.code), ("message", .str r.message), ("status", .int r.status)]

end Refusal

/-- What keeps a request from its report. -/
inductive Obstacle where
  | refused (refusal : Refusal)
  /-- An integer in the facts has more digits than are read. -/
  | integerTooLong
  /-- The environment holds settings that cannot be read. -/
  | unreadableSettings
  /-- The time of the validation cannot be told. -/
  | failed (failure : Failure)
  /-- Data that is to be reported cannot be. -/
  | unreportable (cause : Unreportable)
  deriving DecidableEq, Repr

/-- The obstacle that a fault of the facts is. -/
def Obstacle.ofFault : Json.Fault → Obstacle
  | .malformed => .refused .malformedFacts
  | .integerTooLong => .integerTooLong

/-- The facts in a payload, or the obstacle. -/
def Payload.facts (p : Payload) : Except Obstacle Facts := p.load.mapError .ofFault

end ValidationReport
