import ValidationReport.Facts.Reader
import ValidationReport.Policy

/-!
# Settings

Settings come from variables of the environment, whose names may be in small or capital letters.
They are read once and kept: a later change of the environment shows only after the kept settings
are cleared.  A reading that fails keeps nothing.

## Main definitions

* `Environment` — variables in the order in which they were first set.
* `Settings`, `Settings.read?` — settings, and the settings in an environment.
* `Session` — an environment with the settings that are kept, and `Session.settings`.
-/

namespace ValidationReport

/-! ### Environments -/

/-- Variables with their values, in the order in which they were first set. -/
abbrev Environment := List (Text × Text)

namespace Environment

/-- The environment with a value for a variable: in place of the one before, or at the end. -/
def set (name value : Text) : Environment → Environment
  | [] => [(name, value)]
  | (n, v) :: rest => if n = name then (n, value) :: rest else (n, v) :: set name value rest

/-- The environment without a variable. -/
def unset (name : Text) (e : Environment) : Environment := e.filter fun v => v.1 != name

/-- The value of a variable whose name matches in small letters.  Of several the last counts. -/
def value? (name : Text) (e : Environment) : Option Text :=
  (e.reverse.find? fun v => v.1.asciiLower == name).map Prod.snd

end Environment

/-! ### Settings -/

/-- The settings of the service. -/
structure Settings where
  serviceName : Text
  logLevel : Text
  defaultPolicy : Text
  /-- Reports are signed, and hold the hash of the document. -/
  reportSignatureEnabled : Bool
  deriving DecidableEq, Repr

namespace Settings

/-- The settings of an empty environment. -/
def standard : Settings := ⟨"sigreport", "INFO", qesPolicy.name, false⟩

/-- The value of a setting in an environment. -/
def value? (field : Text) (e : Environment) : Option Text :=
  e.value? (("sigreport_" : Text) ++ field)

/-- The settings in an environment, if they can be read. -/
def read? (e : Environment) : Option Settings := do
  return {
    serviceName := (value? "service_name" e).getD standard.serviceName
    logLevel := (value? "log_level" e).getD standard.logLevel
    defaultPolicy := (value? "default_policy" e).getD standard.defaultPolicy
    reportSignatureEnabled := ←
      match value? "report_signature_enabled" e with
      | some word => booleanOfText? word
      | none => some standard.reportSignatureEnabled }

@[simp] theorem read?_nil : read? [] = some standard := rfl

end Settings

/-! ### Sessions -/

/-- An environment, and the settings that are kept from an earlier reading. -/
structure Session where
  environment : Environment
  kept : Option Settings
  deriving DecidableEq, Repr

namespace Session

/-- The session with an empty environment in which nothing has been read. -/
def initial : Session := ⟨[], none⟩

/-- The settings of a session, and the session in which they are kept: the settings kept before,
or those of the environment. -/
def settings (s : Session) : Option Settings × Session :=
  match s.kept with
  | some settings => (some settings, s)
  | none =>
    match Settings.read? s.environment with
    | some settings => (some settings, { s with kept := some settings })
    | none => (none, s)

/-- The settings of the environment, whatever is kept. -/
def freshSettings (s : Session) : Option Settings := Settings.read? s.environment

/-- The session in which nothing is kept. -/
def clear (s : Session) : Session := { s with kept := none }

end Session

end ValidationReport
