import ValidationReport.Endpoint.Part
import ValidationReport.Service

/-!
# Forms

A form is a list of parts, each a text or an upload.  A field is the last part of its name, and a
text that is empty counts as no text.  A form with faults is told all of them.

## Main definitions

* `Form` — the parts of a form by name.
* `FormRejection`, `Form.arrive` — the form that arrives, within the limits of a form.
* `FieldFault`, `Form.file`, `Form.text`, `Form.texts`, `Form.reportType` — the fields of a form, or
  their faults.
* `Form.request` — the request that a form makes.
-/

namespace ValidationReport

/-- The parts of a form by name, in the order in which they are sent. -/
abbrev Form := List (Text × Part)

/-! ### Arrival -/

/-- The greatest number of texts in a form, and of files. -/
def partLimit : Nat := 1000

/-- The greatest length of a text in units of 1024 octets. -/
def textLimit : Nat := 1024

/-- Why a form is not taken. -/
inductive FormRejection where
  /-- It has too many texts. -/
  | texts
  /-- It has too many files. -/
  | files
  /-- It has a text that is too long. -/
  | length
  /-- It has a part that cannot be read. -/
  | part (fault : PartFault)
  deriving DecidableEq, Repr

/-- What is said about a form that is not taken. -/
def FormRejection.message : FormRejection → Text
  | texts => ("Too many fields. Maximum number of fields is " : Text) ++ Text.natural partLimit ++
      ("." : Text)
  | files => ("Too many files. Maximum number of files is " : Text) ++ Text.natural partLimit ++
      ("." : Text)
  | length => ("Part exceeded maximum size of " : Text) ++ Text.natural textLimit ++ ("KB." : Text)
  | part .broken => "Invalid multipart data."
  | part .nameless => "The Content-Disposition header field \"name\" must be provided."

namespace Form

/-- The parts that arrive after some texts and files. -/
def arriveAfter (texts files : Nat) : Form → Except FormRejection Form
  | [] => .ok []
  | (name, p) :: rest => do
    let (name, p) ← (Part.read (p.octets name)).mapError .part
    match p with
    | .text _ =>
      if partLimit ≤ texts then throw .texts
      if textLimit * 1024 < p.content.length then throw .length
      return (name, p) :: (← arriveAfter (texts + 1) files rest)
    | .upload _ =>
      if partLimit ≤ files then throw .files
      return (name, p) :: (← arriveAfter texts (files + 1) rest)

/-- The form that arrives.  Only a form with files is sent in parts; any other is a list of texts
that is sent as it is.  A file without a name and without a content is not there. -/
def arrive (f : Form) : Except FormRejection Form :=
  if f.any fun p => p.2 matches .upload _ then
    (f.arriveAfter 0 0).map fun parts => parts.filter fun p => !p.2.isNoFile
  else if partLimit < f.length then .error .texts
  else .ok f

end Form

/-! ### Fields -/

/-- What is wrong with a field. -/
inductive FieldProblem where
  /-- It is missing. -/
  | missing
  /-- It is a text in place of a file. -/
  | notFile
  /-- It is a file in place of a text. -/
  | notText
  /-- It is no name of a layer. -/
  | notReportType
  deriving DecidableEq, Repr

def FieldProblem.text : FieldProblem → Text
  | .missing => "missing"
  | .notFile => "value_error"
  | .notText => "string_type"
  | .notReportType => "enum"

/-- A fault of a field, and of one of its values if there are several. -/
structure FieldFault where
  problem : FieldProblem
  field : Text
  index : Option Nat
  deriving DecidableEq, Repr

/-- A field that can be read, or its faults. -/
abbrev Checked (α : Type) := Except (List FieldFault) α

/-- Two fields that can both be read, or the faults of both. -/
def Checked.and {α β : Type} : Checked α → Checked β → Checked (α × β)
  | .ok a, .ok b => .ok (a, b)
  | .ok _, .error f => .error f
  | .error e, .ok _ => .error e
  | .error e, .error f => .error (e ++ f)

namespace Form

/-- The last part of a name, unless it is an empty text. -/
def part? (name : Text) (f : Form) : Option Part :=
  ((f.reverse.find? fun p => p.1 = name).map Prod.snd).filter fun p => p ≠ .text []

/-- A fault of a field. -/
def fault {α : Type} (name : Text) (problem : FieldProblem) : Checked α :=
  .error [⟨problem, name, none⟩]

/-- A file that must be there. -/
def file (name : Text) (f : Form) : Checked Upload :=
  match f.part? name with
  | none => fault name .missing
  | some (.text _) => fault name .notFile
  | some (.upload u) => .ok u

/-- A text, empty if it is not there. -/
def text (name : Text) (f : Form) : Checked Text :=
  match f.part? name with
  | none => .ok []
  | some (.text t) => .ok t
  | some (.upload _) => fault name .notText

/-- The layer that is asked for, the simple one if none is named. -/
def reportType (f : Form) : Checked ReportType :=
  match f.part? "report_type" with
  | none => .ok .simple
  | some (.text t) =>
    match ReportType.ofText? t with
    | some type => .ok type
    | none => fault "report_type" .notReportType
  | some (.upload _) => fault "report_type" .notReportType

/-- Texts under one name, counted from a number on. -/
def textsFrom (name : Text) : Nat → List Part → Checked (List Text)
  | _, [] => .ok []
  | i, .text t :: rest => (textsFrom name (i + 1) rest).map (t :: ·)
  | i, .upload _ :: rest =>
    match textsFrom name (i + 1) rest with
    | .ok _ => .error [⟨.notText, name, some i⟩]
    | .error faults => .error (⟨.notText, name, some i⟩ :: faults)

/-- All texts under one name, in order. -/
def texts (name : Text) (f : Form) : Checked (List Text) :=
  textsFrom name 0 ((f.filter fun p => p.1 = name).map Prod.snd)

/-- A document in place of an upload.  One without a name is called a document. -/
def documentOf (u : Upload) (dataFiles : List Text) : Document where
  filename := if u.filename.isEmpty then "document" else u.filename
  content := u.content
  contentType := u.contentType
  dataFiles := dataFiles

/-- The request that a form makes, given the layer that is asked for. -/
def request (f : Form) (type : Checked ReportType) : Checked Request :=
  ((f.file "document").and ((f.file "facts").and ((f.text "policy").and
    (type.and (f.texts "data_files"))))).map
    fun (document, facts, policy, type, dataFiles) =>
      ⟨documentOf document dataFiles, .bytes facts.content, some policy, type⟩

end Form

end ValidationReport
