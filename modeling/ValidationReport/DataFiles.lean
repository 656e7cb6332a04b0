import ValidationReport.Base64
import ValidationReport.Format
import ValidationReport.Refusal

/-!
# Data files

The data files of a digidoc container can be taken out of it.  No other container gives them.

## Main definitions

* `DataFileEntry`, `DataFile.entry` — a data file as it is given out.
* `Facts.dataFileEntries`, `dataFileReport` — the data files of a container.
-/

namespace ValidationReport

/-- A data file as it is given out. -/
structure DataFileEntry where
  filename : Text
  mimeType : Text
  /-- The content in base64. -/
  content : Text
  size : Int
  deriving DecidableEq, Repr

/-- The number of octets in base64 among blanks, and zero for anything else. -/
def contentSize (content : Text) : Nat :=
  match Base64.decode? content.squeeze with
  | some octets => octets.length
  | none => 0

/-- A data file as it is given out.  The size is the engine's, or else that of the content. -/
def DataFile.entry (f : DataFile) : DataFileEntry where
  filename := f.name
  mimeType := f.mimeType.getD []
  content := f.content.getD []
  size := f.size.getD (contentSize (f.content.getD []))

/-- The data files of a digidoc container.  The name of the format is looked at here once more. -/
def Facts.dataFileEntries (f : Facts) : Except Obstacle (List DataFileEntry) :=
  if normalized f.documentFormat = "DDOC" then .ok (f.dataFiles.map DataFile.entry)
  else .error (.refused .notDigidoc)

/-- The data files of the container that a payload describes. -/
def dataFileReport (p : Payload) : Except Obstacle (List DataFileEntry) := do
  (← p.facts).dataFileEntries

end ValidationReport
