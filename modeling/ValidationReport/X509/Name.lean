import ValidationReport.Der.Content
import ValidationReport.Failure
import ValidationReport.Text.Utf8

/-!
# Distinguished names

A name is a sequence of sets of attributes, and an attribute an object identifier with a value.
Two readings follow each other.  The structure of a name is checked with the certificate it stands
in; there a value may be anything, except that three kinds of string must be well formed.  The
values are turned into text only when the name is asked for.

## Main definitions

* `Attribute`, `Name` — a name as encoded.
* `Name.read?` — the structural reading.
* `Attribute.value` — the text of an attribute.
* `Name.attributes` — the attributes of a name with their texts.
-/

namespace ValidationReport.X509

open Der

/-- An object identifier, by the octets of its content. -/
abbrev Oid := Bytes

/-- The octets of an arc of an object identifier. -/
def Oid.arc (n : Nat) : Bytes := encodeChain (digits 0x80 n)

def Oid.commonName : Oid := [0x55, 0x04, 0x03]

def Oid.surname : Oid := [0x55, 0x04, 0x04]

def Oid.serialNumber : Oid := [0x55, 0x04, 0x05]

def Oid.givenName : Oid := [0x55, 0x04, 0x2A]

/-- The object identifier of a unique identifier, the one attribute that is a string of bits. -/
def Oid.uniqueIdentifier : Oid := [0x55, 0x04, 0x2D]

/-- An attribute of a name. -/
structure Attribute where
  oid : Oid
  value : Element
  deriving DecidableEq, Repr

/-- A name: sets of attributes in order. -/
abbrev Name := List (List Attribute)

/-! ### Structure -/

/-- A character of printable strings. -/
def isPrintable (b : UInt8) : Bool :=
  (0x41 ≤ b.toNat && b.toNat ≤ 0x5A) || (0x61 ≤ b.toNat && b.toNat ≤ 0x7A) ||
    (0x30 ≤ b.toNat && b.toNat ≤ 0x39) ||
    [0x20, 0x27, 0x28, 0x29, 0x2B, 0x2C, 0x2D, 0x2E, 0x2F, 0x3A, 0x3D, 0x3F].contains b.toNat

/-- What the structure of a name asks of a value: printable strings keep to their alphabet, and
wide strings are well encoded. -/
def isAttributeValue (e : Element) : Bool :=
  if e.tag = Tag.universal 19 then e.content.all isPrintable
  else if e.tag = Tag.universal 28 then (Text.ofUtf32? e.content).isSome
  else if e.tag = Tag.universal 30 then (Text.ofUtf16? e.content).isSome
  else true

def Attribute.fields : Fields Attribute := do
  let oid ← Fields.take Tag.oid
  let value ← Fields.next
  Fields.require (isOid oid && isAttributeValue value)
  pure ⟨oid, value⟩

def Attribute.read? (e : Element) : Option Attribute :=
  if e.tag = Tag.sequence then Attribute.fields.of? e.content else none

/-- The attributes in an element that is a set of them, in the order of sets. -/
def readSet? (e : Element) : Option (List Attribute) :=
  if e.tag = Tag.set then
    match elements? e.content with
    | none => none
    | some es => if isOrdered es then es.mapM Attribute.read? else none
  else none

/-- The name in the content of a sequence. -/
def Name.read? (content : Bytes) : Option Name :=
  match elements? content with
  | none => none
  | some es => es.mapM readSet?

/-! ### Text -/

/-- The value of an attribute: text, or the octets of a string of bits. -/
inductive AttributeValue where
  | text (t : Text)
  | bits (octets : Bytes)
  deriving DecidableEq, Repr

/-- The kinds of value that hold text in UTF-8: strings of octets, UTF-8, numeric, printable,
teletex, IA5 and visible strings, and the two forms of a time. -/
def isNarrowText (tag : Tag) : Bool :=
  [4, 12, 18, 19, 20, 22, 23, 24, 26].any fun n => tag == Tag.universal n

/-- The value of an attribute.  A string of bits is one in a unique identifier only, and stops the
processing elsewhere.  A value of another kind counts as unreadable, like text that is badly
encoded: a certificate with an integer or a null in its name was found to be without a name, and to
stop nothing. -/
def Attribute.read (a : Attribute) : Except Flaw AttributeValue :=
  if a.value.tag = Tag.bitString then
    if a.oid = Oid.uniqueIdentifier then .ok (.bits a.value.content)
    else .error (.fatal .bitStringAttribute)
  else if a.value.tag = Tag.universal 28 then
    Flaw.readable ((Text.ofUtf32? a.value.content).map .text)
  else if a.value.tag = Tag.universal 30 then
    Flaw.readable ((Text.ofUtf16? a.value.content).map .text)
  else if isNarrowText a.value.tag then
    Flaw.readable ((Text.ofUtf8? a.value.content).map .text)
  else .error .unreadable

/-- An attribute with its value, so that equal attributes can be told. -/
abbrev NamedValue := Oid × AttributeValue

/-- Whether no member of a list occurs twice. -/
def allDistinct {α : Type} [DecidableEq α] : List α → Bool
  | [] => true
  | a :: rest => !rest.contains a && allDistinct rest

/-- The attributes of one set.  A set is not empty and has no attribute twice. -/
def readAttributes (set : List Attribute) : Except Flaw (List NamedValue) := do
  let values ← set.mapM fun a => a.read.map fun v => (a.oid, v)
  if values.isEmpty ∨ allDistinct values = false then throw .unreadable
  return values

/-- The attributes of a name in order. -/
def Name.attributes (name : Name) : Except Flaw (List NamedValue) := do
  return (← name.mapM readAttributes).flatten

/-- The text of the first attribute with an object identifier. -/
def firstText? (oid : Oid) (attributes : List NamedValue) : Option Text :=
  match attributes.lookup oid with
  | some (.text t) => some t
  | _ => none

end ValidationReport.X509
