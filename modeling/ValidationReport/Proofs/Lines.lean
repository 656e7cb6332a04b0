import Mathlib.Data.List.DropRight
import ValidationReport.Certificates
import ValidationReport.Proofs.Text

/-!
# Lines of an armoured text

Of an armoured text the lines with a mark are left out, and what is left of the
others without the blanks around them are its letters.  How the lines end is of no
account: a line feed after a carriage return ends no line of its own, but the line
that it would end is empty, and an empty line has no letters.  So the text may as
well be cut at every single line end, and of cutting all that is needed is said by
two equations, one for a line end in the middle and one for a text without any.

## Main definitions

* `Text.OneLine`, `Text.cut` — a text without line ends, and the pieces between them.
* `lettersOf` — the letters in lines.

## Main results

* `lettersOf_lines` — **a text gives the letters of its pieces.**
* `Text.cut_framed` — the pieces of a text with something before its first line and
  behind its last one.
-/

namespace ValidationReport

namespace Text

/-- A text that is no more than one line: nothing in it ends a line. -/
def OneLine (t : Text) : Prop := ∀ c ∈ t, c.isLineEnd = false

instance (t : Text) : Decidable t.OneLine :=
  inferInstanceAs (Decidable (∀ c ∈ t, c.isLineEnd = false))

theorem OneLine.append {s t : Text} (hs : s.OneLine) (ht : t.OneLine) : OneLine (s ++ t) :=
  List.forall_mem_append.mpr ⟨hs, ht⟩

/-- The pieces of a text between its line ends. -/
def cut (t : Text) : List Text := t.splitOnP Code.isLineEnd

/-- A line end in the middle of a text cuts it in two. -/
theorem cut_append_cons {c : Code} (hc : c.isLineEnd = true) (s t : Text) :
    cut (s ++ c :: t) = s.cut ++ t.cut :=
  List.splitOnP_append_cons s t hc

/-- A text without line ends is one piece. -/
theorem OneLine.cut_eq {t : Text} (ht : t.OneLine) : t.cut = [t] :=
  List.splitOnP_eq_singleton ht

/-- What ends no line belongs to the first piece. -/
theorem cut_cons {c : Code} (hc : c.isLineEnd = false) (t : Text) :
    ∃ (s : Text) (pieces : List Text), t.cut = s :: pieces ∧ cut (c :: t) = (c :: s) :: pieces := by
  obtain ⟨s, pieces, hpieces⟩ :=
    List.exists_cons_of_ne_nil (List.splitOnP_ne_nil Code.isLineEnd t)
  refine ⟨s, pieces, hpieces, ?_⟩
  unfold cut
  rw [List.splitOnP_cons_eq_if_modifyHead, if_neg (by simp [hc]), hpieces]
  rfl

/-- A line end in a text is a first one. -/
theorem exists_first_lineEnd {t : Text} (h : ∃ c ∈ t, c.isLineEnd = true) :
    ∃ (s : Text) (c : Code) (rest : Text),
      t = s ++ c :: rest ∧ s.OneLine ∧ c.isLineEnd = true := by
  induction t with
  | nil =>
    obtain ⟨c, hc, -⟩ := h
    cases hc
  | cons c t ih =>
    cases hc : c.isLineEnd with
    | true => exact ⟨[], c, t, rfl, List.forall_mem_nil _, hc⟩
    | false =>
      have hrest : ∃ d ∈ t, d.isLineEnd = true := by
        obtain ⟨d, hd, hend⟩ := h
        rcases List.mem_cons.mp hd with rfl | hd
        · rw [hc] at hend
          cases hend
        · exact ⟨d, hd, hend⟩
      obtain ⟨s, d, rest, rfl, hs, hd⟩ := ih hrest
      exact ⟨c :: s, d, rest, rfl, List.forall_mem_cons.mpr ⟨hc, hs⟩, hd⟩

/-- A line end in a text is a last one. -/
theorem exists_last_lineEnd {t : Text} (h : ∃ c ∈ t, c.isLineEnd = true) :
    ∃ (front : Text) (c : Code) (s : Text),
      t = front ++ c :: s ∧ s.OneLine ∧ c.isLineEnd = true := by
  obtain ⟨d, hd, hend⟩ := h
  obtain ⟨s, c, rest, hsplit, hs, hc⟩ :=
    exists_first_lineEnd (t := t.reverse) ⟨d, List.mem_reverse.mpr hd, hend⟩
  refine ⟨rest.reverse, c, s.reverse, ?_, fun a ha => hs a (List.mem_reverse.mp ha), hc⟩
  rw [← List.reverse_reverse t, hsplit, List.reverse_append, List.reverse_cons, List.append_assoc]
  rfl

/-- A text is one line or has a line end. -/
theorem oneLine_or_exists (t : Text) : t.OneLine ∨ ∃ c ∈ t, c.isLineEnd = true := by
  by_cases h : ∃ c ∈ t, c.isLineEnd = true
  · exact Or.inr h
  · refine Or.inl fun c hc => ?_
    rw [Bool.eq_false_iff]
    exact fun hend => h ⟨c, hc, hend⟩

/-- **Something before the first line of a text and behind its last one changes these two lines and
no other.**  If the text is one line, it is that of both. -/
theorem cut_framed {first last : Text} (hfirst : first.OneLine) (hlast : last.OneLine) (t : Text) :
    (t.cut = [t] ∧ cut (first ++ (t ++ last)) = [first ++ (t ++ last)]) ∨
      ∃ (s : Text) (lines : List Text) (s' : Text), t.cut = s :: (lines ++ [s']) ∧
        cut (first ++ (t ++ last)) = (first ++ s) :: (lines ++ [s' ++ last]) := by
  rcases t.oneLine_or_exists with ht | ht
  · exact Or.inl ⟨ht.cut_eq, (hfirst.append (ht.append hlast)).cut_eq⟩
  right
  obtain ⟨s, c, rest, rfl, hs, hc⟩ := exists_first_lineEnd ht
  have hbegin : ∀ u : Text, cut (first ++ (s ++ c :: u)) = (first ++ s) :: u.cut := by
    intro u
    rw [← List.append_assoc, cut_append_cons hc, (hfirst.append hs).cut_eq]
    rfl
  have hcut : ∀ u : Text, cut (s ++ c :: u) = s :: u.cut := by
    intro u
    rw [cut_append_cons hc, hs.cut_eq]
    rfl
  rw [List.append_assoc, List.cons_append, hbegin, hcut]
  rcases rest.oneLine_or_exists with hrest | hrest
  · -- The one line end ends the first line and begins the last one.
    rw [hrest.cut_eq, (hrest.append hlast).cut_eq]
    exact ⟨s, [], rest, rfl, rfl⟩
  · obtain ⟨front, c', s', rfl, hs', hc'⟩ := exists_last_lineEnd hrest
    rw [List.append_assoc, List.cons_append, cut_append_cons hc', cut_append_cons hc', hs'.cut_eq,
      (hs'.append hlast).cut_eq]
    exact ⟨s, front.cut, s', rfl, rfl⟩

/-- Nothing but line ends is lost between the pieces. -/
theorem squeeze_flatten_cut (t : Text) : squeeze t.cut.flatten = t.squeeze := by
  induction t with
  | nil => rfl
  | cons c t ih =>
    have hcons : ∀ u : Text, squeeze (c :: u) = squeeze [c] ++ u.squeeze := squeeze_append [c]
    cases hc : c.isLineEnd with
    | true =>
      have hdropped : squeeze [c] = [] :=
        squeeze_of_allBlank (List.forall_mem_singleton.mpr (Code.isBlank_of_isLineEnd hc))
      have hcut : cut (c :: t) = [[]] ++ cut t := cut_append_cons hc [] t
      rw [hcut, List.flatten_append, squeeze_append, ih, hcons, hdropped]
      rfl
    | false =>
      obtain ⟨s, pieces, hpieces, hcut⟩ := cut_cons hc t
      rw [hpieces, List.flatten_cons] at ih
      rw [hcut, List.flatten_cons, List.cons_append, hcons, ih, ← hcons]

end Text

/-! ### Letters in lines -/

/-- The letters in lines: those of armour are left out, and so are the blanks around the others. -/
def lettersOf (lines : List Text) : Text :=
  ((lines.filter fun line => !Text.contains armourMark line).map Text.trim).flatten

theorem armourBody_eq (t : Text) : armourBody t = lettersOf t.lines := rfl

theorem lettersOf_append (lines lines' : List Text) :
    lettersOf (lines ++ lines') = lettersOf lines ++ lettersOf lines' := by
  unfold lettersOf
  rw [List.filter_append, List.map_append, List.flatten_append]

theorem lettersOf_cons (line : Text) (lines : List Text) :
    lettersOf (line :: lines) = lettersOf [line] ++ lettersOf lines :=
  lettersOf_append [line] lines

/-- A line of armour has no letters. -/
theorem lettersOf_armour {line : Text} (h : armourMark <:+: line) : lettersOf [line] = [] := by
  have hmark := (Text.contains_iff armourMark line).mpr h
  simp [lettersOf, hmark]

/-- Lines without a mark are trimmed and give all that is left of them. -/
theorem lettersOf_of_no_mark {lines : List Text} (h : ∀ line ∈ lines, ¬ armourMark <:+: line) :
    lettersOf lines = (lines.map Text.trim).flatten := by
  have hall : ∀ line ∈ lines, (!Text.contains armourMark line) = true := by
    intro line hline
    rw [Bool.not_eq_true', Bool.eq_false_iff, ne_eq, Text.contains_iff]
    exact h line hline
  unfold lettersOf
  rw [List.filter_eq_self.mpr hall]

/-- The lines from a line that is begun on give the letters of the pieces from there on. -/
theorem lettersOf_linesFrom (t : Text) : ∀ (line : Text) (afterReturn : Bool) (s : Text)
    (pieces : List Text), (afterReturn = true → line = []) → t.cut = s :: pieces →
      lettersOf (Text.linesFrom line afterReturn t) =
        lettersOf ((line.reverse ++ s) :: pieces) := by
  induction t with
  | nil =>
    intro line afterReturn s pieces _ hcut
    obtain ⟨rfl, rfl⟩ := List.cons.inj (hcut.symm.trans (List.splitOnP_nil (p := Code.isLineEnd)))
    -- There is no last line if nothing was read of it, but there is an empty last piece.
    cases line with
    | nil => rfl
    | cons c line => simp [Text.linesFrom]
  | cons c t ih =>
    intro line afterReturn s pieces hreturn hcut
    cases hc : c.isLineEnd with
    | true =>
      have hends : Text.cut (c :: t) = [] :: Text.cut t := Text.cut_append_cons hc [] t
      obtain ⟨rfl, rfl⟩ := List.cons.inj (hcut.symm.trans hends)
      obtain ⟨s, pieces, hpieces⟩ :=
        List.exists_cons_of_ne_nil (List.splitOnP_ne_nil Code.isLineEnd t)
      have hrest : ∀ afterReturn', lettersOf (Text.linesFrom [] afterReturn' t) =
          lettersOf (Text.cut t) := by
        intro afterReturn'
        rw [ih [] afterReturn' s pieces (fun _ => rfl) hpieces]
        exact congrArg lettersOf hpieces.symm
      rw [Text.linesFrom]
      split
      · next hfeed =>
        -- The line feed belongs to the carriage return before it, and the piece is empty.
        obtain rfl := hreturn (Bool.and_eq_true_iff.mp hfeed).1
        rw [hrest, lettersOf_cons]
        rfl
      · rw [lettersOf_cons, hrest, ← lettersOf_cons, List.append_nil]
    | false =>
      obtain ⟨s', pieces', hpieces, hcons⟩ := Text.cut_cons hc t
      obtain ⟨rfl, rfl⟩ := List.cons.inj (hcut.symm.trans hcons)
      have hfeed : (c.val == 0x0A) = false := by
        rw [Bool.eq_false_iff]
        intro heq
        simp [Code.isLineEnd, beq_iff_eq.mp heq] at hc
      rw [Text.linesFrom, hfeed, Bool.and_false, if_neg (by decide), if_neg (by simp [hc]),
        ih (c :: line) false s' pieces (fun h => absurd h Bool.false_ne_true) hpieces,
        List.reverse_cons, List.append_assoc]
      rfl

/-- **A text gives the letters of its pieces.** -/
theorem lettersOf_lines (t : Text) : lettersOf t.lines = lettersOf t.cut := by
  obtain ⟨s, pieces, hpieces⟩ :=
    List.exists_cons_of_ne_nil (List.splitOnP_ne_nil Code.isLineEnd t)
  have hlines := lettersOf_linesFrom t [] false s pieces (fun _ => rfl) hpieces
  exact hlines.trans (congrArg lettersOf hpieces.symm)

end ValidationReport
