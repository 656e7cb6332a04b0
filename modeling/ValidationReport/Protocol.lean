import ValidationReport.Conclusion
import ValidationReport.Text.Blank
import ValidationReport.Text.Markup

/-!
# The printed protocol

A conclusion is printed as a protocol: a heading, a table about the document, the warnings about
the container, and a table for every signature.  Text from the conclusion is escaped, so none of it
is taken for markup, and long evidence is broken into lines.

## Main definitions

* `Cell`, `Row`, `Block` — what a page is made of.
* `documentTable`, `warningBlocks`, `signatureTable` — the parts of a protocol.
* `Conclusion.protocol` — the blocks of a protocol in order.
-/

namespace ValidationReport

/-! ### Pages -/

/-- A cell of a table. -/
inductive Cell where
  | markup (t : Text)
  | empty
  deriving DecidableEq, Repr

/-- A cell that shows a text. -/
def Cell.shown (t : Text) : Cell := .markup t.escaped

def Cell.content : Cell → Text
  | markup t => t
  | empty => []

/-- A row of a table in two columns. -/
structure Row where
  left : Cell
  right : Cell
  deriving DecidableEq, Repr

/-- A row with a title over both columns. -/
def Row.title (markup : Text) : Row := ⟨.markup markup, .empty⟩

/-- A row that shows a text beside its label. -/
def Row.field (label value : Text) : Row := ⟨.shown label, .shown value⟩

/-- What a page is made of, from top to bottom. -/
inductive Block where
  | paragraph (markup : Text)
  | spacer (height : Nat)
  | table (rows : List Row)
  deriving DecidableEq, Repr

/-- The space between two tables. -/
def gap : Block := .spacer 10

/-! ### The document -/

def protocolHeading : Text := "ПРОТОКОЛ ПРОВЕРКИ ЭЛЕКТРОННОЙ ПОДПИСИ"

/-- The label of the hash of the document, which names the algorithm, and a dash without one. -/
def hashLabel (d : ValidatedDocument) : Text :=
  ("Хэш файла (" : Text) ++ ((d.hashAlgorithm.bind Text.nonempty?).getD "-") ++ ("):" : Text)

/-- How many of the signatures are valid. -/
def countText (c : Conclusion) : Text :=
  Text.natural c.validSignaturesCount ++ (" из " : Text) ++ Text.natural c.signaturesCount

def documentTable (c : Conclusion) : List Row := [
  .title "<b>Документ</b>",
  .field "Файл:" c.document.filename,
  .field (hashLabel c.document) (c.document.fileHash.getD []).breakable,
  .field "Форма подписи:" (c.signatureForm.getD []),
  .field "Политика проверки:" c.policy.name,
  .field "Время проверки:" c.validationTime,
  .field "Действительных подписей:" (countText c)]

/-- A paragraph for every warning about the container, and a gap after the last of them. -/
def warningBlocks (warnings : List Text) : List Block :=
  (warnings.map fun w => .paragraph (("Предупреждение контейнера: " : Text) ++ w).escaped) ++
    (if warnings.isEmpty then [] else [gap])

/-! ### Signatures -/

/-- The colour of a verdict. -/
def Indication.colour : Indication → Text
  | .passed => "green"
  | .failed => "red"
  | .indeterminate => "orange"

def Indication.label : Indication → Text
  | .passed => "Подпись действительна"
  | .failed => "Подпись недействительна"
  | .indeterminate => "Результат не определён"

/-- A verdict in words and in its colour. -/
def Indication.markup (i : Indication) : Text :=
  ("<b><font color=" : Text) ++ i.colour ++ (">" : Text) ++ i.label ++ ("</font></b>" : Text)

/-- The title of the table about the signature with a number. -/
def signatureTitle (number : Nat) : Text :=
  ("<b>Подпись №" : Text) ++ Text.natural number ++ ("</b>" : Text)

/-- A verdict with its reason. -/
def verdictText (s : SignatureEntry) : Text :=
  (s.indication.text ++ (" " : Text) ++ s.subIndication).trim

/-- The names of the files that a signature covers. -/
def scopeNames (s : SignatureEntry) : Text := Text.joined ", " (s.scopes.map Scope.name)

/-- The table about the signature with a number: eleven rows, and one for every message. -/
def signatureTable (number : Nat) (s : SignatureEntry) : List Row := [
  .title (signatureTitle number),
  ⟨.shown "Результат проверки:", .markup s.indication.markup⟩,
  .field "Индикация:" (verdictText s),
  .field "Подписант:" s.signedBy,
  .field "Серийный номер субъекта:" (s.subject.serialNumber.getD []),
  .field "Формат подписи:" s.signatureFormat,
  .field "Уровень подписи:" s.signatureLevel,
  .field "Заявленное время подписи:" s.claimedSigningTime,
  .field "Лучшее время подписи:" (s.info.bestSignatureTime.getD []),
  .field "Отпечаток метки времени:" s.info.timeAssertionMessageImprint.breakable,
  .field "Подписанные файлы:" (scopeNames s)] ++
  s.errors.map (.field "Ошибка:") ++
  s.warnings.map (.field "Предупреждение:")

/-- The tables about signatures, numbered from a number on, each with a gap after it. -/
def signatureBlocks : Nat → List SignatureEntry → List Block
  | _, [] => []
  | number, s :: rest =>
    .table (signatureTable number s) :: gap :: signatureBlocks (number + 1) rest

/-- The blocks of the protocol of a conclusion. -/
def Conclusion.protocol (c : Conclusion) : List Block :=
  .paragraph protocolHeading :: .table (documentTable c) :: gap ::
    (warningBlocks c.warnings ++ signatureBlocks 1 c.signatures)

end ValidationReport
