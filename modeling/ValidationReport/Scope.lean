import ValidationReport.Text.Percent

/-!
# Scopes

A signature covers the data files that its references name.  References are percent-encoded; those
that name no data file, such as the reference to the signed properties, are passed over.

## Main definitions

* `Scope` — a file that a signature covers.
* `signedScopes` — the scopes of references, given the names of data files.
-/

namespace ValidationReport

/-- A file that a signature covers. -/
structure Scope where
  name : Text
  scope : Text
  content : Text
  deriving DecidableEq, Repr

/-- The scope of a file that is covered in full. -/
def Scope.full (name : Text) : Scope :=
  ⟨name, "FullSignatureScope", "Digest of the document content"⟩

/-- The scopes of references among the names of data files, in the order of the references. -/
def signedScopes (references names : List Text) : List Scope :=
  ((references.map Text.decodePercent).filter names.contains).map Scope.full

end ValidationReport
