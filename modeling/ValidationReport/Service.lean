import ValidationReport.Assembly
import ValidationReport.Refusal
import ValidationReport.Settings

/-!
# The service

A request names a document, the facts about it, and a policy.  The policy is looked up first, then
the facts are read; only then is the report assembled, and nothing in the facts can stop it.

## Main definitions

* `Request`, `validate` — a request, and the layers of its report.
* `SessionStep`, `Session.step`, `Session.run` — what a session is put through, and its answers.
-/

namespace ValidationReport

/-- A request for a report. -/
structure Request where
  document : Document
  facts : Payload
  /-- The identifier of the policy. -/
  policy : Option Text
  reportType : ReportType

/-- What a report is assembled from, with the faults that the check of the container finds. -/
def Assembly.ofFacts (facts : Facts) (document : Document) (policy : Policy) (hashed : Bool) :
    Assembly :=
  .ofParts facts.format facts document policy hashed facts.containerCheck.run

/-- The policy that an identifier asks for, or the obstacle. -/
def policyFor (identifier : Option Text) (table : PolicyTable) (standard : Text) :
    Except Obstacle Policy :=
  (resolvePolicy identifier table standard).mapError fun shown => .refused (.unknownPolicy shown)

/-- The layers of the report on a request at a time, under the policies of a table. -/
def validate (settings : Settings) (table : PolicyTable) (time : Moment) (r : Request) :
    Except Obstacle Layers := do
  let policy ← policyFor r.policy table settings.defaultPolicy
  let facts ← r.facts.facts
  ((Assembly.ofFacts facts r.document policy settings.reportSignatureEnabled).layers r.reportType
    time).mapError .failed

/-! ### Sessions -/

/-- What a session is put through. -/
inductive SessionStep where
  | set (name value : Text)
  | unset (name : Text)
  | clear
  | settings
  | freshSettings
  /-- The report on a request, under the standard policies unless others are given. -/
  | validate (request : Request) (time : Moment) (table : PolicyTable := standardPolicies)

/-- What a session answers to a step. -/
inductive SessionAnswer where
  | done
  | settings (read : Except Obstacle Settings)
  | report (layers : Except Obstacle Layers)

/-- Settings that were read, or the obstacle. -/
def settingsOr (settings : Option Settings) : Except Obstacle Settings :=
  settings.elim (.error .unreadableSettings) .ok

namespace Session

/-- The answer to a step, and the session after it. -/
def step (s : Session) : SessionStep → SessionAnswer × Session
  | .set name value => (.done, { s with environment := s.environment.set name value })
  | .unset name => (.done, { s with environment := s.environment.unset name })
  | .clear => (.done, s.clear)
  | .settings => (.settings (settingsOr s.settings.1), s.settings.2)
  | .freshSettings => (.settings (settingsOr s.freshSettings), s)
  | .validate request time table =>
    (.report ((settingsOr s.settings.1).bind fun settings =>
      ValidationReport.validate settings table time request), s.settings.2)

/-- The answers to steps, one after the other. -/
def run (s : Session) : List SessionStep → List SessionAnswer
  | [] => []
  | step :: rest => (s.step step).1 :: run (s.step step).2 rest

end Session

end ValidationReport
