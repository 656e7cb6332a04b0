/-!
# Failures

Damaged evidence is reported as absent.  A few faults go further and stop the processing of the
signature that carries them; these are the failures.

## Main definitions

* `Failure` — what stops the processing of a signature.
* `Flaw` — a fault in evidence, tolerated or not.
* `Flaw.tolerate` — a result with a stand-in for evidence that cannot be read.
-/

namespace ValidationReport

/-- What stops the processing of a signature. -/
inductive Failure where
  /-- A time leaves the years 1 to 9999 when it is moved to UTC. -/
  | timeOutOfRange
  /-- A certificate is of another version than 1 and 3. -/
  | unsupportedVersion
  /-- A name holds a string of bits where text belongs. -/
  | bitStringAttribute
  /-- A response carries an extension twice. -/
  | duplicateExtension
  /-- A response was produced in the year 0. -/
  | yearZero
  deriving DecidableEq, Repr

/-- A fault in evidence. -/
inductive Flaw where
  /-- The evidence cannot be read, and counts as absent. -/
  | unreadable
  /-- The evidence stops the processing. -/
  | fatal (failure : Failure)
  deriving DecidableEq, Repr

/-- A result, with a stand-in when the evidence cannot be read. -/
def Flaw.tolerate {α : Type} (standIn : α) : Except Flaw α → Except Failure α
  | .ok a => .ok a
  | .error .unreadable => .ok standIn
  | .error (.fatal failure) => .error failure

/-- The value that reading gave, which is unreadable when there is none. -/
def Flaw.readable {α : Type} : Option α → Except Flaw α
  | some a => .ok a
  | none => .error .unreadable

end ValidationReport
