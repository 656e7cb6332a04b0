import ValidationReport.Facts
import ValidationReport.Indication

/-!
# Containers

Associated signature containers declare the size of every data file, and a file of another size
makes the whole container faulty.  Other containers are not checked.

## Main definitions

* `ContainerCheck`, `Facts.containerCheck` — the check that a container is put to.
* `ContainerCheck.run` — the messages it gives.
-/

namespace ValidationReport

/-- The check that a container is put to. -/
inductive ContainerCheck where
  /-- None. -/
  | none
  /-- The sizes of the data files. -/
  | sizes (files : List DataFile)
  deriving DecidableEq, Repr

/-- The types of associated signature containers. -/
def associatedContainers : List Text := ["ASIC-E", "ASIC-S"]

/-- The check for the container of a document. -/
def Facts.containerCheck (f : Facts) : ContainerCheck :=
  if associatedContainers.contains (normalized (f.containerType.getD [])) then .sizes f.dataFiles
  else .none

/-- Both sizes of a file are known and differ. -/
def DataFile.hasWrongSize (f : DataFile) : Bool :=
  match f.declaredSize, f.size with
  | some declared, some size => declared != size
  | _, _ => false

/-- The message about a file of the wrong size. -/
def sizeMessage (name : Text) : Text :=
  ("Container contains a file named " : Text) ++ name ++
    (" which size does not match the declared size" : Text)

/-- The messages of a check, in the order of the files. -/
def ContainerCheck.run : ContainerCheck → List Text
  | .none => []
  | .sizes files => (files.filter DataFile.hasWrongSize).map fun f => sizeMessage f.name

end ValidationReport
