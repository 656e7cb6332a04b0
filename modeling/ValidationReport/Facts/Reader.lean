import ValidationReport.Facts
import ValidationReport.Json.Reader
import ValidationReport.Moment.Reader
import ValidationReport.Text.Blank
import ValidationReport.Text.Utf8

/-!
# Reading facts

Facts are a JSON object.  A field goes by its name in words joined by underscores or in camel case,
and the latter wins; members that are no field are passed over.  Reading is lenient about numbers,
truth values and times, and strict about everything else.  What cannot be read is refused as a
whole.

## Main definitions

* `camelCase`, `field?` — the value of a field under either spelling.
* `required`, `optional`, `defaulted` — fields that must be there, may be null, or have a default.
* `readInteger`, `readBoolean` — the lenient forms.
* `readFacts` — the facts in a JSON value.
* `Payload`, `Payload.load` — facts as handed in, and the facts in them.
-/

namespace ValidationReport

/-! ### Names of fields -/

/-- A name with every underscore left out and the letter after it in capitals. -/
def camelCase : Text → Text
  | [] => []
  | c :: rest =>
    if c = '_' then
      match rest with
      | [] => []
      | d :: rest => d.asciiUpper :: camelCase rest
    else c :: camelCase rest

/-- The value of a field, given by its name with underscores.  The name in camel case wins. -/
def field? (name : Text) (o : Object) : Option Json :=
  match o.get? (camelCase name) with
  | some value => some value
  | none => o.get? name

/-! ### Fields -/

/-- A reader of values; `none` refuses. -/
abbrev Reads (α : Type) := Json → Option α

/-- The value of a field that must be there. -/
def required {α : Type} (name : Text) (read : Reads α) (o : Object) : Option α :=
  (field? name o).bind read

/-- The value of a field that may be missing or null. -/
def optional {α : Type} (name : Text) (read : Reads α) (o : Object) : Option (Option α) :=
  match field? name o with
  | none => some none
  | some .null => some none
  | some value => (read value).map some

/-- The value of a field that has a default when it is missing, but may not be null. -/
def defaulted {α : Type} (name : Text) (standard : α) (read : Reads α) (o : Object) : Option α :=
  match field? name o with
  | none => some standard
  | some value => read value

/-! ### Values -/

def readText : Reads Text
  | .str t => some t
  | _ => none

def readObject : Reads Object
  | .obj members => some members
  | _ => none

/-- A record, from the members of an object. -/
def readRecord {α : Type} (read : Object → Option α) : Reads α
  | .obj members => read members
  | _ => none

/-- An array of values of one kind. -/
def readList {α : Type} (read : Reads α) : Reads (List α)
  | .arr items => items.mapM read
  | _ => none

/-- An object whose keys are data. -/
def readTable {α : Type} (read : Reads α) : Reads (List (Text × α))
  | .obj members => members.mapM fun (key, value) => (read value).map fun a => (key, a)
  | _ => none

/-- A numeral without the zeros it begins with and the underscores among them.  One place is left
in front of a point and where nothing else is left. -/
def dropZeros (t : Text) : Text :=
  if t.head? = some ('0' : Code) then
    let isZero (c : Code) : Bool := c == ('0' : Code) || c == ('_' : Code)
    let zeros := t.takeWhile isZero
    let rest := t.dropWhile isZero
    if rest.isEmpty || rest.head? == some ('.' : Code) then zeros.drop (zeros.length - 1) ++ rest
    else rest
  else t

/-- A numeral without a fraction of zeros. -/
def dropFraction (t : Text) : Text :=
  match t.dropWhile (· != ('.' : Code)) with
  | [] => t
  | _ :: places =>
    if !places.isEmpty && places.all (· == ('0' : Code)) then t.takeWhile (· != ('.' : Code)) else t

/-- A numeral without its underscores, each of which stands between two other characters. -/
def dropSeparators (t : Text) : Text :=
  let isSeparator (c : Code) : Bool := c == ('_' : Code)
  if t.head?.any isSeparator || t.getLast?.any isSeparator || Text.contains "__" t then t
  else t.filter fun c => !isSeparator c

/-- The natural number that digits denote, which are not too many and begin with a zero only for
zero itself. -/
def naturalOfDigits? (t : Text) : Option Nat :=
  if t.isEmpty || !t.all Code.isDigit || Json.digitLimit < t.length then none
  else if t.head? = some ('0' : Code) && t.length ≠ 1 then none
  else some (Json.Token.decimal t)

/-- The integer that a text denotes: digits with an optional sign, single underscores between them,
and a fraction of zeros, with white space around.  Zeros in front do not count, and a minus sign may
also follow them. -/
def integerOfText? (t : Text) : Option Int :=
  let (sign, t) := (t.trimWhile Code.isWhite).splitSign
  match (dropSeparators (dropFraction (dropZeros t))).splitSign with
  | (none, digits) => (naturalOfDigits? digits).map (Binary64.signed (sign == some .minus))
  | (some late, digits) =>
    if late = .minus ∧ sign ≠ some .minus ∧ t.head? = some ('0' : Code) then
      (naturalOfDigits? digits).map (Binary64.signed true)
    else none

/-- The integer that a floating point number is, strictly within sixty-four bits. -/
def integerOfFloat? (x : Binary64) : Option Int :=
  x.integer?.filter fun i => -0x8000000000000000 < i && i < 0x8000000000000000

/-- An integer, or what denotes one: a truth value, a number without a fraction, or text. -/
def readInteger : Reads Int
  | .int i => some i
  | .bool b => some (if b then 1 else 0)
  | .float x => integerOfFloat? x
  | .str t => integerOfText? t
  | _ => none

/-- The truth value that zero and one denote. -/
def booleanOfInteger? (i : Int) : Option Bool :=
  if i = 0 then some false else if i = 1 then some true else none

/-- The words for true and false, in small letters. -/
def booleanWords : List (Text × Bool) := [
  ("0", false), ("off", false), ("f", false), ("false", false), ("n", false), ("no", false),
  ("1", true), ("on", true), ("t", true), ("true", true), ("y", true), ("yes", true)]

/-- The truth value that a word denotes, in small or capital letters. -/
def booleanOfText? (t : Text) : Option Bool := booleanWords.lookup t.asciiLower

/-- A truth value, or what denotes one: zero, one, or a word. -/
def readBoolean : Reads Bool
  | .bool b => some b
  | .int i => booleanOfInteger? i
  | .float x => (integerOfFloat? x).bind booleanOfInteger?
  | .str t => booleanOfText? t
  | _ => none

/-! ### Records -/

def readIssue (o : Object) : Option Issue := do
  return {
    message := ← required "message" readText o
    code := ← optional "code" readInteger o }

def readTimestamp (o : Object) : Option TimestampFacts := do
  return {
    certificate := ← optional "certificate" readText o
    creationTime := ← optional "creation_time" Moment.ofJson? o
    messageImprint := ← optional "message_imprint" readText o }

def readRevocation (o : Object) : Option RevocationFacts := do
  return {
    certificate := ← optional "certificate" readText o
    creationTime := ← optional "creation_time" Moment.ofJson? o
    response := ← optional "response" readText o }

def readProductionPlace (o : Object) : Option ProductionPlace := do
  return {
    countryName := ← defaulted "country_name" [] readText o
    stateOrProvince := ← defaulted "state_or_province" [] readText o
    city := ← defaulted "city" [] readText o
    postalCode := ← defaulted "postal_code" [] readText o }

/-- The indication of a signature about which the engine says nothing. -/
def defaultIndication : Text := "TOTAL_FAILED"

def readSignature (o : Object) : Option SignatureFacts := do
  return {
    id := ← required "id" readText o
    indication := ← defaulted "indication" defaultIndication readText o
    subIndication := ← optional "sub_indication" readText o
    qualification := ← optional "qualification" readText o
    profile := ← optional "profile" readText o
    signatureFormat := ← optional "signature_format" readText o
    signatureMethod := ← defaulted "signature_method" [] readText o
    claimedSigningTime := ← optional "claimed_signing_time" Moment.ofJson? o
    bestSignatureTime := ← optional "best_signature_time" Moment.ofJson? o
    signingCertificate := ← optional "signing_certificate" readText o
    revocations := ← defaulted "revocations" [] (readList (readRecord readRevocation)) o
    timestamps := ← defaulted "timestamps" [] (readList (readRecord readTimestamp)) o
    references := ← defaulted "references" [] (readList readText) o
    signerRoles := ← defaulted "signer_roles" [] (readList readText) o
    productionPlace := ← optional "production_place" (readRecord readProductionPlace) o
    errors := ← defaulted "errors" [] (readList (readRecord readIssue)) o
    warnings := ← defaulted "warnings" [] (readList (readRecord readIssue)) o }

def readSimpleEntry (o : Object) : Option SimpleEntry := do
  return {
    indication := ← required "indication" readText o
    subIndication := ← optional "sub_indication" readText o
    qualification := ← optional "qualification" readText o }

def readDataFile (o : Object) : Option DataFile := do
  return {
    name := ← required "name" readText o
    mimeType := ← optional "mime_type" readText o
    size := ← optional "size" readInteger o
    declaredSize := ← optional "declared_size" readInteger o
    content := ← optional "content" readText o }

def readFacts (o : Object) : Option Facts := do
  return {
    documentFormat := ← required "document_format" readText o
    containerType := ← optional "container_type" readText o
    formatVersion := ← optional "format_version" readText o
    hashcode := ← defaulted "hashcode" false readBoolean o
    signatures := ← defaulted "signatures" [] (readList (readRecord readSignature)) o
    simpleReports := ← defaulted "simple_reports" [] (readTable (readRecord readSimpleEntry)) o
    containerErrors := ← defaulted "container_errors" [] (readList (readRecord readIssue)) o
    containerWarnings := ← defaulted "container_warnings" [] (readList (readRecord readIssue)) o
    dataFiles := ← defaulted "data_files" [] (readList (readRecord readDataFile)) o
    validationProcess := ← optional "validation_process" readObject o
    diagnosticData := ← optional "diagnostic_data" readObject o }

/-! ### Payloads -/

/-- Facts as handed in: octets, text, or a value already read. -/
inductive Payload where
  | bytes (octets : Bytes)
  | text (t : Text)
  | value (j : Json)

namespace Payload

def ofValue (j : Json) : Except Json.Fault Facts :=
  match readRecord readFacts j with
  | some facts => .ok facts
  | none => .error .malformed

def ofText (t : Text) : Except Json.Fault Facts := (Json.read t).bind ofValue

/-- The facts in a payload.  Octets are text in UTF-8, and a string is text as well. -/
def load : Payload → Except Json.Fault Facts
  | .bytes octets =>
    match Text.ofUtf8? octets with
    | some t => ofText t
    | none => .error .malformed
  | .text t => ofText t
  | .value (.str t) => ofText t
  | .value j => ofValue j

end Payload

end ValidationReport
