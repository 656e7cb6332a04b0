import ValidationReport.Policy
import ValidationReport.Text.Capitals

/-!
# Indications

The indication of a signature is found in two steps: the engine's own verdict is classified, and a
passed signature is then measured against the level that the policy asks for.

## Main definitions

* `Indication` — the three verdicts of a report.
* `isPassed`, `classify` — the engine's verdict, and what it comes to.
* `Outcome`, `Outcome.applyPolicy` — a verdict with its messages, and the second step.
* `resolveOutcome` — both steps.
-/

namespace ValidationReport

/-- The verdict on a signature. -/
inductive Indication where
  | passed
  | failed
  | indeterminate
  deriving DecidableEq, Repr

def Indication.text : Indication → Text
  | .passed => "TOTAL-PASSED"
  | .failed => "TOTAL-FAILED"
  | .indeterminate => "INDETERMINATE"

/-- A word in capitals without blanks around it. -/
def normalized (t : Text) : Text := t.trim.upper

/-- The words for a signature that passed. -/
def passedWords : List Text := ["TOTAL_PASSED", "TOTAL-PASSED", "PASSED", "VALID"]

/-- The word for a signature without a verdict. -/
def indeterminateWord : Text := "INDETERMINATE"

/-- Whether the engine passed a signature. -/
def isPassed (word : Text) : Bool := passedWords.contains (normalized word)

/-- Whether the engine gave no verdict. -/
def isIndeterminate (word : Text) : Bool := normalized word == indeterminateWord

/-- The verdict that the engine's word comes to, with the engine's reason.  Faults of the container
fail every signature, and a signature that passed needs no reason. -/
def classify (word : Text) (reason : Option Text) (containerFaulty : Bool) : Indication × Text :=
  if isPassed (normalized word) && !containerFaulty then (.passed, [])
  else if isIndeterminate word && !containerFaulty then (.indeterminate, reason.getD [])
  else (.failed, reason.getD [])

/-- A verdict with its reason and messages. -/
structure Outcome where
  indication : Indication
  subIndication : Text
  warnings : List Text
  errors : List Text
  deriving DecidableEq, Repr

/-- The warning for a level that passes with one. -/
def levelWarning : Text := "The signature is not in the Qualified Electronic Signature level"

/-- The error for a level that is turned down. -/
def levelError : Text :=
  "Signature/seal level do not meet the minimal level required by applied policy"

/-- An outcome measured against a level.  Only a passed signature can lose by it. -/
def Outcome.applyPolicy (o : Outcome) (level : Text) (policy : Policy) : Outcome :=
  if o.indication ≠ .passed ∨ policy.requiresLevel = false then o
  else if policy.accepted.contains level then o
  else if policy.warned.contains level then { o with warnings := o.warnings ++ [levelWarning] }
  else { o with indication := .failed, errors := o.errors ++ [levelError] }

/-- The outcome of both steps; the second is left out for formats without levels. -/
def resolveOutcome (level word : Text) (reason : Option Text) (containerFaulty : Bool)
    (policy : Policy) (measured : Bool) : Outcome :=
  let (indication, subIndication) := classify word reason containerFaulty
  let outcome : Outcome := ⟨indication, subIndication, [], []⟩
  if measured then outcome.applyPolicy level policy else outcome

end ValidationReport
