import ValidationReport.Json.Basic

/-!
# Reported values

Data of the engine is reported as it is, with a few reservations.  A number that is not finite is
reported as null.  A key that holds half of a surrogate pair is mended at the top and stops the
report further down, and so does a value that is nested too deep.

## Main definitions

* `Json.depth` — how many values stand inside each other.
* `Unreportable` — what stops a report.
* `Text.mended` — a text with replacement characters in place of surrogates.
* `Json.reported`, `Object.reported` — a value and the members of an object as reported.
-/

namespace ValidationReport

/-- A text with three replacement characters, one for each octet, in place of a surrogate. -/
def Text.mended (t : Text) : Text :=
  t.flatMap fun c => if c.isSurrogate then List.replicate 3 (Code.ofNat 0xFFFD) else [c]

/-- What stops a report. -/
inductive Unreportable where
  /-- A value is nested too deep. -/
  | depth
  /-- A key inside a value holds half of a surrogate pair. -/
  | key
  deriving DecidableEq, Repr

namespace Json

mutual

/-- How many values stand inside each other at most, the value itself included. -/
def depth : Json → Nat
  | .arr items => depthOfItems items + 1
  | .obj members => depthOfMembers members + 1
  | _ => 1

/-- The greatest depth of an item. -/
def depthOfItems : List Json → Nat
  | [] => 0
  | j :: rest => max j.depth (depthOfItems rest)

/-- The greatest depth of a member. -/
def depthOfMembers : List (Text × Json) → Nat
  | [] => 0
  | (_, v) :: rest => max v.depth (depthOfMembers rest)

end

/-- The greatest depth that is reported. -/
def depthLimit : Nat := 255

/-- A value as it is reported, if its depth has a limit.  Values are reported in order, each key
before its value, so that the first obstacle is told. -/
def reportedWithin : Nat → Json → Except Unreportable Json
  | 0, _ => .error .depth
  | limit + 1, .arr items => do return .arr (← items.mapM (reportedWithin limit))
  | limit + 1, .obj members => do
    return .obj (← members.mapM fun (key, value) => do
      if !key.isWellFormed then throw .key
      return (key, ← reportedWithin limit value))
  | _ + 1, .float x => .ok (if x.isFinite then .float x else .null)
  | _ + 1, j => .ok j

def reported (j : Json) : Except Unreportable Json := j.reportedWithin depthLimit

end Json

/-- The members of an object as they are reported.  Of keys that are mended into the same key the
last one counts. -/
def Object.reported (o : Object) : Except Unreportable Object :=
  o.foldlM (fun written (key, value) => do return written.insert key.mended (← value.reported)) []

end ValidationReport
