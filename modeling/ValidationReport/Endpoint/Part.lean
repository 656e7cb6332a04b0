import ValidationReport.Text.Blank
import ValidationReport.Text.Utf8

/-!
# Parts of a form

A form with files travels in parts.  A part is a head and a content; the head is made of lines, each
a field with a name and a value, and ends with an empty line.  The disposition in the head names the
part, and the file if the content is one.  What arrives is what can be read back from the octets, so
a name with a quotation mark arrives with an escape, a path may arrive as its last step, and a type
of content that holds line ends adds fields to the head.

## Main definitions

* `Upload`, `Part` — a file, and a text or a file.
* `Part.octets` — a part as it is sent.
* `headFields?` — the fields of a head, and the content after it.
* `parameters` — the parameters of a disposition.
* `Part.read` — the part that octets are, or what is wrong with its head.
-/

namespace ValidationReport

/-- A file that is sent. -/
structure Upload where
  filename : Text
  content : Bytes
  contentType : Option Text
  deriving DecidableEq, Repr

/-- A part of a form. -/
inductive Part where
  | text (t : Text)
  | upload (u : Upload)
  deriving DecidableEq, Repr

/-! ### Writing -/

/-- The hexadecimal digit of a number below sixteen, in capitals. -/
def hexDigit (n : Nat) : Code := .ofNat (if n < 10 then 0x30 + n else 0x37 + n)

def backslash : Code := '\\'

def quotationMark : Code := '"'

/-- A code point between quotation marks.  Quotation marks and control characters go as percent
escapes, except the escape character, and backslashes are doubled. -/
def Code.quoted (c : Code) : Text :=
  if c = backslash then [c, c]
  else if c = quotationMark ∨ (c.val < 0x20 ∧ c.val ≠ 0x1B) then
    [('%' : Code), hexDigit (c.val / 0x10), hexDigit (c.val % 0x10)]
  else [c]

/-- A parameter of a disposition. -/
def writeParameter (name value : Text) : Text :=
  ("; " : Text) ++ name ++ ("=\"" : Text) ++ value.flatMap Code.quoted ++ [quotationMark]

/-- The parameter that names a part. -/
def nameKey : Text := "name"

/-- The parameter that names a file. -/
def filenameKey : Text := "filename"

/-- The name of the field of a head that tells the type of a file. -/
def typeName : Text := "Content-Type"

/-- The name of the field of a head that names the part. -/
def dispositionName : Text := "Content-Disposition"

/-- The head of a part of a form, as fields.  A file without a name is sent like a text. -/
def Part.head (name : Text) : Part → List (Text × Text)
  | .text _ => [(dispositionName, ("form-data" : Text) ++ writeParameter nameKey name)]
  | .upload u =>
    let filename := if u.filename.isEmpty then [] else writeParameter filenameKey u.filename
    (dispositionName, ("form-data" : Text) ++ writeParameter nameKey name ++ filename) ::
      u.contentType.toList.map fun type => (typeName, type)

/-- The octets that end a line. -/
def lineEnd : Bytes := [0x0D, 0x0A]

/-- The content of a part. -/
def Part.content : Part → Bytes
  | .text t => t.utf8
  | .upload u => u.content

/-- A part with its name as it is sent. -/
def Part.octets (name : Text) (p : Part) : Bytes :=
  (p.head name).flatMap (fun (key, value) => (key ++ (": " : Text) ++ value).utf8 ++ lineEnd) ++
    (lineEnd ++ p.content)

/-! ### Reading a head -/

/-- The greatest length of a line of a head in octets. -/
def lineLimit : Nat := 4224

/-- The greatest number of fields in a head. -/
def fieldLimit : Nat := 8

/-- The first line of octets, of a length at most, and what follows it.  A carriage return is
always followed by a line feed. -/
def line? : Nat → Bytes → Option (Bytes × Bytes)
  | _, [] => none
  | 0, b :: rest => if b = 0x0D ∧ rest.head? = some 0x0A then some ([], rest.tail) else none
  | n + 1, b :: rest =>
    if b = 0x0D then (if rest.head? = some 0x0A then some ([], rest.tail) else none)
    else (line? n rest).map fun (line, rest) => (b :: line, rest)

/-- An octet of the name of a field: a letter, a digit, or one of a few marks. -/
def isNameOctet (b : UInt8) : Bool :=
  (0x41 ≤ b.toNat && b.toNat ≤ 0x5A) || (0x5E ≤ b.toNat && b.toNat ≤ 0x7A) ||
    (0x30 ≤ b.toNat && b.toNat ≤ 0x39) || (0x23 ≤ b.toNat && b.toNat ≤ 0x27) ||
    [0x21, 0x2A, 0x2B, 0x2D, 0x2E, 0x7C, 0x7E].contains b.toNat

/-- The octets of a text of octets. -/
def Text.ofOctets (bytes : Bytes) : Text := bytes.map fun b => Code.ofNat b.toNat

/-- The text of a text of octets: in UTF-8, or else of the octets themselves. -/
def Text.decoded (t : Text) : Text :=
  (Text.ofUtf8? (t.map fun c => UInt8.ofNat c.val)).getD t

/-- The field of a head that a line is, as texts of octets: a name that is not empty, a colon, and
a value, which may begin after spaces. -/
def headField? (line : Bytes) : Option (Text × Text) :=
  let name := line.takeWhile isNameOctet
  match line.dropWhile isNameOctet with
  | b :: value =>
    if b = 0x3A ∧ name.isEmpty = false then
      some (Text.ofOctets name, Text.ofOctets (value.dropWhile (· == 0x20)))
    else none
  | [] => none

/-- The fields of a head, a number of them at most, and the content after it. -/
def headFields? (limit : Nat) (octets : Bytes) : Option (List (Text × Text) × Bytes) :=
  match line? lineLimit octets with
  | none => none
  | some ([], content) => some ([], content)
  | some (line, rest) =>
    match limit, headField? line with
    | limit + 1, some field =>
      (headFields? limit rest).map fun (fields, content) => (field :: fields, content)
    | _, _ => none

/-! ### Reading a disposition -/

/-- The pieces of a text between semicolons, of which the first begins with the code points read so
far, the latest first.  A semicolon after an odd number of quotation marks does not count, nor does
a quotation mark after a backslash. -/
def piecesFrom (piece : Text) (quoted : Bool) : Text → List Text
  | [] => [piece.reverse]
  | c :: rest =>
    if c = ';' ∧ quoted = false then piece.reverse :: piecesFrom [] false rest
    else
      let marked := c == quotationMark && piece.head? != some backslash
      piecesFrom (c :: piece) (quoted != marked) rest

/-- A text without the backslashes before a code point. -/
def withoutEscapes (escaped : Code) : Text → Text
  | a :: b :: rest =>
    if a = backslash ∧ b = escaped then b :: withoutEscapes escaped rest
    else a :: withoutEscapes escaped (b :: rest)
  | t => t

/-- A text without the marks around it, if it stands between quotation marks or angle brackets. -/
def Text.unquoted (t : Text) : Text :=
  if t.length < 2 then t
  else if t.head? = some quotationMark ∧ t.getLast? = some quotationMark then
    withoutEscapes quotationMark (withoutEscapes backslash t.tail.dropLast)
  else if t.head? = some ('<' : Code) ∧ t.getLast? = some ('>' : Code) then t.tail.dropLast
  else t

/-- The parameter that a piece of a disposition is: a name in any letters, and a value after an
equals sign. -/
def parameter (piece : Text) : Text × Text :=
  let isName (c : Code) : Bool := c != ('=' : Code)
  (Text.asciiLower (Text.trim (piece.takeWhile isName)),
    Text.unquoted (Text.trim ((piece.dropWhile isName).drop 1)))

/-- The parameters of a disposition, the last first. -/
def parameters (disposition : Text) : List (Text × Text) :=
  ((piecesFrom [] false disposition).tail.map parameter).reverse

/-- A path that begins with a drive or a share. -/
def isRooted : Text → Bool
  | a :: b :: rest =>
    (a == backslash && b == backslash) || (b == (':' : Code) && rest.head? == some backslash)
  | _ => false

/-- The name of the file of a path.  Of a path that begins with a drive or a share it is the last
step. -/
def baseName (path : Text) : Text :=
  if isRooted path then (path.reverse.takeWhile (· != backslash)).reverse else path

/-! ### Reading a part -/

/-- What is wrong with a part. -/
inductive PartFault where
  /-- Its head cannot be read. -/
  | broken
  /-- Its disposition does not name it. -/
  | nameless
  deriving DecidableEq, Repr

/-- The value of the last field of a head with a name in any letters. -/
def lastField? (name : Text) (fields : List (Text × Text)) : Option Text :=
  (fields.reverse.find? fun field => field.1.asciiLower == name.asciiLower).map Prod.snd

/-- The part that octets are, with its name. -/
def Part.read (octets : Bytes) : Except PartFault (Text × Part) :=
  match headFields? fieldLimit octets with
  | none => .error .broken
  | some (fields, content) =>
    let ps := parameters ((lastField? dispositionName fields).getD [])
    match ps.lookup nameKey, ps.lookup filenameKey with
    | none, _ => .error .nameless
    | some name, none => .ok (name.decoded, .text (Text.ofOctets content).decoded)
    | some name, some path =>
      .ok (name.decoded, .upload ⟨(baseName path).decoded, content,
        (lastField? typeName fields).map Text.decoded⟩)

/-- A file without a name and without a content, which is how no file is sent. -/
def Part.isNoFile : Part → Bool
  | .text _ => false
  | .upload u => u.filename.isEmpty && u.content.isEmpty

end ValidationReport
