import ValidationReport.Conclusion.Writer
import ValidationReport.Endpoint.Form
import ValidationReport.Endpoint.Target
import ValidationReport.Protocol
import ValidationReport.Text.Capitals

/-!
# Endpoints

What is posted to an endpoint is a form, and what it answers an object, a printed protocol, or the
faults of the form.

A printed protocol has to be set on pages, and not every protocol can be: a row of a table that is
higher than a page stops the layout.  The layout is a parameter here.

## Main definitions

* `Response` — what is answered.
* `PageLayout` — the protocols that can be set on pages.
* `Endpoint.answer` — the answer of an endpoint to a form.
* `Resource` — what a path leads to.
* `respond` — the answer to a request by target and method.
-/

namespace ValidationReport

/-! ### Responses -/

/-- What is answered to a request. -/
inductive Response where
  | object (status : Nat) (body : Json)
  | faults (faults : List FieldFault)
  | page (blocks : List Block)
  /-- A description of the endpoints, whose wording is left open. -/
  | description
  | broken

namespace Response

def status : Response → Nat
  | object status _ => status
  | faults _ => 422
  | page _ => 200
  | description => 200
  | broken => 500

def contentType : Response → Text
  | object _ _ => "application/json"
  | faults _ => "application/json"
  | page _ => "application/pdf"
  | description => "text/html; charset=utf-8"
  | broken => "text/plain; charset=utf-8"

/-- How a page is handed over. -/
def disposition : Text := "attachment; filename=report.pdf"

/-- What is said when an answer breaks down. -/
def breakdown : Text := "Internal Server Error"

/-- An answer that can be sent: one with text that has no written form, or with a member that is
nested too deep, breaks down. -/
def plain (status : Nat) (body : Json) : Response :=
  if body.isPlain && body.depth ≤ Json.depthLimit + 1 then object status body else broken

/-- The answer to an obstacle.  Refusals are told; anything else breaks down. -/
def ofObstacle : Obstacle → Response
  | .refused r => plain r.status r.object
  | _ => broken

/-- The answer with a detail and nothing else. -/
def detail (status : Nat) (t : Text) : Response := object status (.obj [("detail", .str t)])

end Response

/-! ### Pages -/

/-- A layout of pages, by the protocols that it can set. -/
abbrev PageLayout := List Block → Bool

/-- A layout that can set every protocol. -/
def PageLayout.unlimited : PageLayout := fun _ => true

/-! ### Endpoints -/

/-- The endpoints. -/
inductive Endpoint where
  /-- Gives a layer of the report. -/
  | validate
  /-- Gives the printed protocol. -/
  | report
  /-- Gives the data files. -/
  | dataFiles
  deriving DecidableEq, Repr

namespace Endpoint

def path : Endpoint → Text
  | validate => "/api/validate"
  | report => "/api/report"
  | dataFiles => "/api/datafiles"

/-- The layer of a report as an answer. -/
def layerResponse (type : ReportType) (layers : Except Obstacle Layers) : Response :=
  match layers.bind fun l => l.write type with
  | .ok layer => .plain 200 (.obj [("validationReport", layer)])
  | .error obstacle => .ofObstacle obstacle

/-- The protocol of a report as an answer.  It breaks down if it cannot be set on pages. -/
def protocolResponse (layout : PageLayout) : Except Obstacle Layers → Response
  | .ok layers =>
    let blocks := layers.simple.conclusion.protocol
    if layout blocks then .page blocks else .broken
  | .error obstacle => .ofObstacle obstacle

/-- The data files of a container as an answer. -/
def dataFilesResponse : Except Obstacle (List DataFileEntry) → Response
  | .ok files => .plain 200 (writeDataFiles files)
  | .error obstacle => .ofObstacle obstacle

/-- The answer of an endpoint to a form at a time. -/
def answer (settings : Settings) (layout : PageLayout) (now : Moment) (f : Form) :
    Endpoint → Response
  | validate =>
    match f.request f.reportType with
    | .error faults => .faults faults
    | .ok r =>
      layerResponse r.reportType (ValidationReport.validate settings standardPolicies now r)
  | report =>
    match f.request (.ok .simple) with
    | .error faults => .faults faults
    | .ok r => protocolResponse layout (ValidationReport.validate settings standardPolicies now r)
  | dataFiles =>
    match f.file "facts" with
    | .error faults => .faults faults
    | .ok facts => dataFilesResponse (dataFileReport (.bytes facts.content))

end Endpoint

/-! ### Requests -/

/-- What a path leads to. -/
inductive Resource where
  | endpoint (e : Endpoint)
  /-- A description of the endpoints, which can only be fetched. -/
  | description
  deriving DecidableEq, Repr

namespace Resource

/-- The paths of the descriptions. -/
def descriptionPaths : List Text := ["/openapi.json", "/docs", "/docs/oauth2-redirect", "/redoc"]

/-- The resources with their paths. -/
def all : List (Text × Resource) :=
  ([Endpoint.validate, .report, .dataFiles].map fun e => (e.path, endpoint e)) ++
    descriptionPaths.map fun path => (path, description)

/-- The resource at a path.  Slashes at its end do not count, nor does one line feed before
them. -/
def ofPath? (path : Text) : Option Resource :=
  let path := path.dropEndWhile Target.isSlash
  (all.find? fun (p, _) => p = path || p ++ [Code.ofNat 0x0A] = path).map Prod.snd

/-- The methods of a resource: endpoints only take what is posted to them. -/
def methods : Resource → List Text
  | endpoint _ => ["POST"]
  | description => ["GET", "HEAD"]

end Resource

/-- The answer to a request at a time, with the name of the method in any letters.  A form that is
beyond its limits is not taken.  Every protocol can be set on pages unless a layout is given. -/
def respond (settings : Settings) (now : Moment) (target method : Text) (f : Form)
    (layout : PageLayout := .unlimited) : Response :=
  match Resource.ofPath? (Target.path target) with
  | none => .detail 404 "Not Found"
  | some resource =>
    if resource.methods.contains method.upper then
      match resource, f.arrive with
      | .description, _ => .description
      | .endpoint _, .error rejection => .detail 400 rejection.message
      | .endpoint e, .ok f => e.answer settings layout now f
    else .detail 405 "Method Not Allowed"

end ValidationReport
