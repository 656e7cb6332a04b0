import ValidationReport.Json.Token

/-!
# Reading JSON

A reader takes one token after the other and keeps the arrays and objects that are still open.  Of
two members with one key the later one counts.  Nesting has a limit.

## Main definitions

* `Json.Fault` — why a text is refused.
* `Json.State`, `Json.State.step` — the reader and its step.
* `Json.read` — the value that a text denotes.
-/

namespace ValidationReport.Json

/-- Why a text is refused. -/
inductive Fault where
  /-- It is not JSON. -/
  | malformed
  /-- An integer in it has too many digits. -/
  | integerTooLong
  deriving DecidableEq, Repr

/-- The greatest number of arrays and objects open at once. -/
def nestingLimit : Nat := 990

/-- What is open around a value. -/
inductive Frame where
  /-- An array with the items so far, the latest first. -/
  | items (before : List Json)
  /-- An object with the members so far. -/
  | members (before : Object)
  /-- An object with the members so far and the key of the next. -/
  | member (before : Object) (key : Text)

/-- What may come next. -/
inductive Phase where
  /-- A value, or the end of the array that was just opened. -/
  | value (mayClose : Bool)
  /-- A key, or the end of the object that was just opened. -/
  | key (mayClose : Bool)
  /-- The colon after a key. -/
  | colon
  /-- What follows a whole value. -/
  | after (value : Json)

/-- A reader between two tokens. -/
structure State where
  frames : List Frame
  phase : Phase

namespace State

/-- The reader before the first token. -/
def initial : State := ⟨[], .value false⟩

/-- The reader inside one more array or object. -/
def enter (s : State) (frame : Frame) (phase : Phase) : Except Fault State :=
  if s.frames.length < nestingLimit then .ok ⟨frame :: s.frames, phase⟩ else .error .malformed

/-- The step where a value may begin. -/
def stepValue (s : State) (mayClose : Bool) : Token → Except Fault State
  | .openArray => s.enter (.items []) (.value true)
  | .openObject => s.enter (.members []) (.key true)
  | .closeArray =>
    match mayClose, s.frames with
    | true, .items [] :: frames => .ok ⟨frames, .after (.arr [])⟩
    | _, _ => .error .malformed
  | .text t => .ok ⟨s.frames, .after (.str t)⟩
  | .atom j => .ok ⟨s.frames, .after j⟩
  | .longInteger => .error .integerTooLong
  | _ => .error .malformed

/-- The step where a key may begin. -/
def stepKey (s : State) (mayClose : Bool) : Token → Except Fault State
  | .text t =>
    match s.frames with
    | .members before :: frames => .ok ⟨.member before t :: frames, .colon⟩
    | _ => .error .malformed
  | .closeObject =>
    match mayClose, s.frames with
    | true, .members before :: frames => .ok ⟨frames, .after (.obj before)⟩
    | _, _ => .error .malformed
  | _ => .error .malformed

/-- The step after a whole value. -/
def stepAfter (s : State) (value : Json) (token : Token) : Except Fault State :=
  match s.frames, token with
  | .items before :: frames, .comma => .ok ⟨.items (value :: before) :: frames, .value false⟩
  | .items before :: frames, .closeArray => .ok ⟨frames, .after (.arr (value :: before).reverse)⟩
  | .member before key :: frames, .comma =>
    .ok ⟨.members (before.insert key value) :: frames, .key false⟩
  | .member before key :: frames, .closeObject =>
    .ok ⟨frames, .after (.obj (before.insert key value))⟩
  | _, _ => .error .malformed

/-- The reader after one more token. -/
def step (s : State) (token : Token) : Except Fault State :=
  match s.phase with
  | .value mayClose => s.stepValue mayClose token
  | .key mayClose => s.stepKey mayClose token
  | .colon =>
    match token with
    | .colon => .ok ⟨s.frames, .value false⟩
    | _ => .error .malformed
  | .after value => s.stepAfter value token

/-- The value read, once nothing is open. -/
def result (s : State) : Except Fault Json :=
  match s.frames, s.phase with
  | [], .after value => .ok value
  | _, _ => .error .malformed

end State

def read (t : Text) : Except Fault Json := do
  (← (Token.scan t).foldlM State.step State.initial).result

end ValidationReport.Json
