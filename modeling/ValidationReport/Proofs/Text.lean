import Mathlib.Data.List.DropRight
import ValidationReport.Indication

/-!
# Trimmed and capital text

A word of the engine is compared after its blanks are trimmed and its letters
put into capitals.  Doing so twice must not change the comparison, and that is
no matter of course: the capital of a letter is found in a table, where `ß`
becomes two letters, and a table could send a letter to a blank or to a letter
that has a capital of its own.  It does neither, which is checked run by run on
the intervals that the capitals of a run lie in.

## Main definitions

* `Text.IsTrimmed`, `Text.AllBlank` — no blank at the ends, and nothing else.
* `Zone`, `avoids` — intervals of code points, and the check that no capital of
  the tables lies in them.

## Main results

* `trim_trim` — trimming is idempotent.
* `trim_append_left`, `trim_append_right`, `squeeze_trim` — blanks around a text.
* `trim_normalized` — a normalised word has no blanks around it.
* `normalized_normalized_eq_iff` — **normalising a normalised word again does
  not change whether it is a plain one.**
* `isPassed_normalized` — so the verdict is the same on a word and on its
  normalised form.
-/

namespace ValidationReport

/-! ### Trimming -/

namespace Text

theorem dropEndWhile_eq_rdropWhile (p : Code → Bool) (t : Text) :
    dropEndWhile p t = t.rdropWhile p := rfl

theorem nonempty?_eq_some_iff {t u : Text} : t.nonempty? = some u ↔ t = u ∧ t ≠ [] := by
  unfold nonempty?
  cases t <;> simp

/-- No blank begins or ends the text. -/
structure IsTrimmed (t : Text) : Prop where
  head : ∀ c ∈ t.head?, c.isBlank = false
  last : ∀ c ∈ t.getLast?, c.isBlank = false

theorem isTrimmed_trim (t : Text) : t.trim.IsTrimmed := by
  have hhead := List.head?_dropWhile_not Code.isBlank t
  unfold trim trimWhile
  rw [dropEndWhile_eq_rdropWhile]
  generalize t.dropWhile Code.isBlank = u at hhead
  constructor
  · -- what is left at the end is a prefix, so the head is that of `u`
    intro c hc
    obtain ⟨rest, hrest⟩ := List.rdropWhile_prefix Code.isBlank (l := u)
    have hu : u.head? = some c := by
      rw [← hrest, List.head?_append, Option.mem_def.mp hc]
      rfl
    rw [hu] at hhead
    exact hhead
  · intro c hc
    obtain ⟨hne, rfl⟩ := List.mem_getLast?_eq_getLast hc
    simpa using List.rdropWhile_last_not Code.isBlank u hne

theorem IsTrimmed.trim_eq {t : Text} (h : t.IsTrimmed) : t.trim = t := by
  have hdrop : t.dropWhile Code.isBlank = t := by
    cases t with
    | nil => rfl
    | cons c rest => exact List.dropWhile_cons_of_neg (by simp [h.head c rfl])
  unfold trim trimWhile
  rw [hdrop, dropEndWhile_eq_rdropWhile, List.rdropWhile_eq_self_iff]
  intro hne
  simp [h.last _ (List.getLast?_eq_getLast_of_ne_nil hne)]

/-- Trimming is idempotent. -/
@[simp] theorem trim_trim (t : Text) : t.trim.trim = t.trim := (isTrimmed_trim t).trim_eq

/-- A text without blanks has none around it. -/
theorem trim_of_no_blank {t : Text} (h : ∀ c ∈ t, c.isBlank = false) : t.trim = t := by
  apply IsTrimmed.trim_eq
  constructor
  · intro c hc
    exact h c (List.mem_of_mem_head? hc)
  · intro c hc
    exact h c (List.mem_of_mem_getLast? hc)

theorem dropEndWhile_subset (p : Code → Bool) (t : Text) : dropEndWhile p t ⊆ t :=
  (List.rdropWhile_prefix p t).subset

theorem trim_subset (t : Text) : t.trim ⊆ t :=
  List.Subset.trans (dropEndWhile_subset _ _) (List.dropWhile_suffix _).subset

theorem dropEndWhile_append_of_pos {p : Code → Bool} {s : Text} (hs : ∀ c ∈ s, p c = true)
    (t : Text) : dropEndWhile p (t ++ s) = dropEndWhile p t := by
  have hreverse : ∀ c ∈ s.reverse, p c = true := fun c hc => hs c (List.mem_reverse.mp hc)
  unfold dropEndWhile
  rw [List.reverse_append, List.dropWhile_append_of_pos hreverse]

/-- At the end of a text nothing is dropped from what comes before a code point that stays. -/
theorem dropEndWhile_append_cons {p : Code → Bool} {c : Code} (hc : p c = false) (s t : Text) :
    dropEndWhile p (s ++ c :: t) = s ++ c :: dropEndWhile p t := by
  have hstays : ∀ u : Text, (c :: u).dropWhile p = c :: u := fun u =>
    List.dropWhile_cons_of_neg (by simp [hc])
  unfold dropEndWhile
  rw [List.reverse_append, List.reverse_cons, List.append_assoc, List.dropWhile_append]
  split
  · next hempty => simp [List.isEmpty_iff.mp hempty, hstays]
  · simp

/-! ### Blanks -/

/-- There is nothing but blanks. -/
def AllBlank (t : Text) : Prop := ∀ c ∈ t, c.isBlank = true

instance (t : Text) : Decidable t.AllBlank :=
  inferInstanceAs (Decidable (∀ c ∈ t, c.isBlank = true))

theorem trim_append_left {s : Text} (hs : AllBlank s) (t : Text) : (s ++ t).trim = t.trim := by
  unfold trim trimWhile
  rw [List.dropWhile_append_of_pos hs]

theorem trim_append_right (t : Text) {s : Text} (hs : AllBlank s) : (t ++ s).trim = t.trim := by
  unfold trim trimWhile
  rw [List.dropWhile_append]
  split
  · next hempty =>
    have hnothing : s.dropWhile Code.isBlank = [] := List.dropWhile_eq_nil_iff.mpr hs
    rw [hnothing, List.isEmpty_iff.mp hempty]
  · rw [dropEndWhile_append_of_pos hs]

theorem squeeze_of_allBlank {t : Text} (h : AllBlank t) : t.squeeze = [] := by
  unfold squeeze
  rw [List.filter_eq_nil_iff]
  intro c hc
  simp [h c hc]

theorem squeeze_of_no_blank {t : Text} (h : ∀ c ∈ t, c.isBlank = false) : t.squeeze = t := by
  unfold squeeze
  rw [List.filter_eq_self]
  intro c hc
  simp [h c hc]

theorem squeeze_reverse (t : Text) : squeeze t.reverse = t.squeeze.reverse := List.filter_reverse

theorem squeeze_dropWhile (t : Text) : squeeze (t.dropWhile Code.isBlank) = t.squeeze := by
  have hblank : AllBlank (t.takeWhile Code.isBlank) := fun c hc => List.mem_takeWhile_imp hc
  calc squeeze (t.dropWhile Code.isBlank)
      = squeeze (t.takeWhile Code.isBlank) ++ squeeze (t.dropWhile Code.isBlank) := by
        rw [squeeze_of_allBlank hblank, List.nil_append]
    _ = t.squeeze := by rw [← squeeze_append, List.takeWhile_append_dropWhile]

/-- Blanks around a text do not count where every blank is left out. -/
theorem squeeze_trim (t : Text) : t.trim.squeeze = t.squeeze := by
  unfold trim trimWhile dropEndWhile
  rw [squeeze_reverse, squeeze_dropWhile, squeeze_reverse, squeeze_dropWhile, List.reverse_reverse]

/-! ### Parts of a text -/

theorem contains_iff (part t : Text) : contains part t = true ↔ part <:+: t := by
  induction t with
  | nil => simp [contains]
  | cons c t ih =>
    unfold contains
    rw [Bool.or_eq_true, ih, List.isPrefixOf_iff_prefix, List.infix_cons_iff]

end Text

/-! ### The tables of capitals -/

/-- Intervals of code points, by their first and last members. -/
abbrev Zone := List (ℕ × ℕ)

/-- The intervals hold a code point. -/
def Zone.has (z : Zone) (n : ℕ) : Bool := z.any fun i => i.1 ≤ n && n ≤ i.2

/-- The intervals hold no code point of a range. -/
def Zone.misses (z : Zone) (first last : ℕ) : Bool := z.all fun i => last < i.1 || i.2 < first

theorem Zone.has_eq_false {z : Zone} {first last n : ℕ} (h : z.misses first last = true)
    (hfirst : first ≤ n) (hlast : n ≤ last) : z.has n = false := by
  unfold Zone.misses at h
  unfold Zone.has
  rw [List.all_eq_true] at h
  rw [List.any_eq_false]
  intro i hi
  have := h i hi
  simp only [Bool.or_eq_true, Bool.and_eq_true, decide_eq_true_eq] at this ⊢
  omega

/-- No capital of the tables lies in the intervals. -/
def avoids (z : Zone) : Bool :=
  (capitalRuns.all fun r => z.misses r.capital (r.capital + (r.last - r.first))) &&
    expandedCapitals.all fun e => e.2.all fun m => !z.has m

/-- The letters whose capitals are ASCII. -/
def foldedLetters : Zone :=
  [(0x61, 0x7A), (0xDF, 0xDF), (0x131, 0x131), (0x17F, 0x17F), (0xFB00, 0xFB06)]

/-- The blanks. -/
def blankZone : Zone :=
  [(0x09, 0x0D), (0x1C, 0x20), (0x85, 0x85), (0xA0, 0xA0), (0x1680, 0x1680), (0x2000, 0x200A),
    (0x2028, 0x2029), (0x202F, 0x202F), (0x205F, 0x205F), (0x3000, 0x3000)]

theorem avoids_foldedLetters : avoids foldedLetters = true := by decide

theorem avoids_blankZone : avoids blankZone = true := by decide

/-- A code point is its own capital, or one table has its capitals. -/
theorem capitalsOf_cases (n : ℕ) : capitalsOf n = [n] ∨
    (∃ r ∈ capitalRuns, ∃ m, r.capital? n = some m ∧ capitalsOf n = [m]) ∨
    ∃ e ∈ expandedCapitals, e.1 = n ∧ capitalsOf n = e.2 := by
  unfold capitalsOf
  split
  · exact Or.inl rfl
  · cases hlook : expandedCapitals.lookup n with
    | some capitals =>
      obtain ⟨l₁, l₂, hsplit, -⟩ := List.lookup_eq_some_iff.mp hlook
      exact Or.inr (Or.inr ⟨(n, capitals), by rw [hsplit]; simp, rfl, rfl⟩)
    | none =>
      cases hfind : capitalRuns.findSome? fun r => r.capital? n with
      | none => exact Or.inl rfl
      | some m =>
        obtain ⟨r, hr, hm⟩ := List.exists_of_findSome?_eq_some hfind
        exact Or.inr (Or.inl ⟨r, hr, m, hm, rfl⟩)

/-- The capital that a run gives lies among the capitals of the run. -/
theorem CapitalRun.capital?_bounds {r : CapitalRun} {n m : ℕ} (h : r.capital? n = some m) :
    r.first ≤ n ∧ n ≤ r.last ∧ r.capital ≤ m ∧ m ≤ r.capital + (r.last - r.first) := by
  unfold CapitalRun.capital? at h
  split at h
  · next hn =>
    obtain rfl := Option.some.inj h
    omega
  · cases h

/-- Only a code point without a capital has itself for a capital in avoided intervals. -/
theorem capitalsOf_eq_self_of_has {z : Zone} (hz : avoids z = true) {n m : ℕ}
    (hm : m ∈ capitalsOf n) (hzone : z.has m = true) : capitalsOf n = [n] := by
  unfold avoids at hz
  simp only [Bool.and_eq_true, List.all_eq_true] at hz
  obtain ⟨hruns, hexpanded⟩ := hz
  rcases capitalsOf_cases n with h | ⟨r, hr, m', hm', h⟩ | ⟨e, he, -, h⟩
  · exact h
  · rw [h, List.mem_singleton] at hm
    subst hm
    obtain ⟨-, -, hlow, hhigh⟩ := r.capital?_bounds hm'
    rw [Zone.has_eq_false (hruns r hr) hlow hhigh] at hzone
    cases hzone
  · rw [h] at hm
    have hmiss := hexpanded e he m hm
    rw [hzone] at hmiss
    cases hmiss

/-- A letter whose capitals are ASCII is not its own capital. -/
theorem capitalsOf_ne_of_folded {n : ℕ} (h : foldedLetters.has n = true) : capitalsOf n ≠ [n] := by
  have hcheck : (foldedLetters.all fun i =>
      (List.range' i.1 (i.2 + 1 - i.1)).all fun n => capitalsOf n != [n]) = true := by
    decide
  unfold Zone.has at h
  rw [List.any_eq_true] at h
  obtain ⟨i, hi, hn⟩ := h
  simp only [Bool.and_eq_true, decide_eq_true_eq] at hn
  rw [List.all_eq_true] at hcheck
  have hi' := hcheck i hi
  rw [List.all_eq_true] at hi'
  simpa using hi' n (List.mem_range'_1.mpr (by omega))

/-- No capital is a letter whose capitals are ASCII. -/
theorem not_folded_of_mem_capitalsOf {n m : ℕ} (hm : m ∈ capitalsOf n) :
    foldedLetters.has m = false := by
  rw [← Bool.not_eq_true]
  intro hfolded
  have hself := capitalsOf_eq_self_of_has avoids_foldedLetters hm hfolded
  rw [hself, List.mem_singleton] at hm
  subst hm
  exact capitalsOf_ne_of_folded hfolded hself

/-- A code point whose capitals are all below the small letters is below them itself, or a letter
that folds into ASCII. -/
theorem lt_or_folded_of_capitalsOf {n : ℕ} (h : ∀ m ∈ capitalsOf n, m < 0x61) :
    n < 0x61 ∨ foldedLetters.has n = true := by
  have hruns : (capitalRuns.all fun r => 0x61 ≤ r.capital ||
      foldedLetters.any fun i => i.1 ≤ r.first && r.last ≤ i.2) = true := by decide
  have hexpanded : (expandedCapitals.all fun e => e.2.any (0x61 ≤ ·) || foldedLetters.has e.1) =
      true := by decide
  rw [List.all_eq_true] at hruns hexpanded
  rcases capitalsOf_cases n with hn | ⟨r, hr, m, hm, hn⟩ | ⟨e, he, rfl, hn⟩
  · exact Or.inl (h n (by rw [hn]; exact List.mem_singleton_self n))
  · -- the capital is ASCII, so the run lies in one of the intervals
    obtain ⟨hfirst, hlast, hlow, -⟩ := r.capital?_bounds hm
    have hlt : m < 0x61 := h m (by rw [hn]; exact List.mem_singleton_self m)
    have hrun := hruns r hr
    simp only [Bool.or_eq_true, decide_eq_true_eq, List.any_eq_true, Bool.and_eq_true] at hrun
    rcases hrun with hrun | ⟨i, hi, hin⟩
    · omega
    · refine Or.inr (List.any_eq_true.mpr ⟨i, hi, ?_⟩)
      simp only [Bool.and_eq_true, decide_eq_true_eq]
      omega
  · have hentry := hexpanded e he
    simp only [Bool.or_eq_true, List.any_eq_true, decide_eq_true_eq] at hentry
    rcases hentry with ⟨m, hm, hle⟩ | hfolded
    · have := h m (by rw [hn]; exact hm)
      omega
    · exact Or.inr hfolded

theorem capitalsOf_ne_nil (n : ℕ) : capitalsOf n ≠ [] := by
  have hexpanded : (expandedCapitals.all fun e => !e.2.isEmpty) = true := by decide
  rw [List.all_eq_true] at hexpanded
  rcases capitalsOf_cases n with h | ⟨r, -, m, -, h⟩ | ⟨e, he, -, h⟩
  · simp [h]
  · simp [h]
  · rw [h]
    simpa using hexpanded e he

/-- Capitals of code points are code points. -/
theorem lt_of_mem_capitalsOf {n m : ℕ} (hn : n < 0x110000) (hm : m ∈ capitalsOf n) :
    m < 0x110000 := by
  have hruns : (capitalRuns.all fun r => r.capital + (r.last - r.first) < 0x110000) = true := by
    decide
  have hexpanded : (expandedCapitals.all fun e => e.2.all (· < 0x110000)) = true := by
    decide
  rw [List.all_eq_true] at hruns hexpanded
  rcases capitalsOf_cases n with h | ⟨r, hr, m', hm', h⟩ | ⟨e, he, -, h⟩
  · rw [h, List.mem_singleton] at hm
    rwa [hm]
  · rw [h, List.mem_singleton] at hm
    obtain ⟨-, -, -, hhigh⟩ := r.capital?_bounds hm'
    have := hruns r hr
    simp only [decide_eq_true_eq] at this
    omega
  · rw [h] at hm
    simpa using List.all_eq_true.mp (hexpanded e he) m hm

/-! ### Capital texts -/

namespace Code

theorem isBlank_iff (c : Code) : c.isBlank = true ↔ blankZone.has c.val = true := by
  simp only [isBlank, isWhite, blankZone, Zone.has, List.any_cons, List.any_nil, Bool.or_eq_true,
    Bool.and_eq_true, decide_eq_true_eq, beq_iff_eq, Bool.or_false]
  omega

/-- The code points of a capital form are the capitals of the code point. -/
theorem val_mem_of_mem_upper {c d : Code} (h : d ∈ c.upper) : d.val ∈ capitalsOf c.val := by
  unfold upper at h
  obtain ⟨m, hm, rfl⟩ := List.mem_map.mp h
  rwa [val_ofNat (lt_of_mem_capitalsOf c.isLt hm)]

theorem upper_ne_nil (c : Code) : c.upper ≠ [] := by
  simp [upper, capitalsOf_ne_nil]

/-- No letter has a blank among its capitals. -/
theorem isBlank_of_mem_upper {c d : Code} (h : d ∈ c.upper) (hc : c.isBlank = false) :
    d.isBlank = false := by
  rw [← Bool.not_eq_true, isBlank_iff] at hc ⊢
  intro hd
  have hm := val_mem_of_mem_upper h
  rw [capitalsOf_eq_self_of_has avoids_blankZone hm hd, List.mem_singleton] at hm
  exact hc (hm ▸ hd)

theorem upper_of_lt {c : Code} (h : c.val < 0x61) : c.upper = [c] := by
  unfold upper capitalsOf
  rw [if_pos h]
  simp

end Code

namespace Text

/-- Every code point comes before the small letters, as ASCII capitals, digits, hyphens and
underscores do. -/
def IsPlain (t : Text) : Prop := ∀ c ∈ t, c.val < 0x61

instance (t : Text) : Decidable t.IsPlain := inferInstanceAs (Decidable (∀ c ∈ t, c.val < 0x61))

theorem mem_upper {t : Text} {d : Code} : d ∈ t.upper ↔ ∃ c ∈ t, d ∈ c.upper := by
  unfold upper
  exact List.mem_flatMap

theorem IsPlain.upper_eq {t : Text} (h : t.IsPlain) : t.upper = t := by
  induction t with
  | nil => rfl
  | cons c rest ih =>
    rw [upper_cons, Code.upper_of_lt (h c List.mem_cons_self),
      ih fun d hd => h d (List.mem_cons_of_mem c hd)]
    rfl

/-- Capitals keep a text free of blanks around it. -/
theorem IsTrimmed.upper {t : Text} (h : t.IsTrimmed) : t.upper.IsTrimmed := by
  constructor
  · intro d hd
    cases t with
    | nil => simp at hd
    | cons c rest =>
      rw [upper_cons, List.head?_append_of_ne_nil _ c.upper_ne_nil] at hd
      exact Code.isBlank_of_mem_upper (List.mem_of_head? hd) (h.head c rfl)
  · intro d hd
    cases t using List.reverseRecOn with
    | nil => simp at hd
    | append_singleton front c =>
      have hlast : (Text.upper (front ++ [c])) = Text.upper front ++ c.upper := by simp
      rw [hlast, List.getLast?_append_of_ne_nil _ c.upper_ne_nil] at hd
      exact Code.isBlank_of_mem_upper (List.mem_of_getLast? hd) (h.last c (by simp))

/-- A text of capitals whose own capitals are plain is plain. -/
theorem isPlain_of_upper_upper {t : Text} (h : t.upper.upper.IsPlain) : t.upper.IsPlain := by
  intro d hd
  obtain ⟨c, -, hdc⟩ := mem_upper.mp hd
  have hlt : ∀ m ∈ capitalsOf d.val, m < 0x61 := by
    intro m hm
    have hcode : Code.ofNat m ∈ t.upper.upper :=
      mem_upper.mpr ⟨d, hd, List.mem_map_of_mem hm⟩
    rw [← Code.val_ofNat (lt_of_mem_capitalsOf d.isLt hm)]
    exact h _ hcode
  rcases lt_or_folded_of_capitalsOf hlt with hd' | hfolded
  · exact hd'
  · rw [not_folded_of_mem_capitalsOf (Code.val_mem_of_mem_upper hdc)] at hfolded
    cases hfolded

end Text

/-! ### Normalised words -/

/-- A normalised word has no blanks around it. -/
theorem trim_normalized (word : Text) : (normalized word).trim = normalized word :=
  (Text.isTrimmed_trim word).upper.trim_eq

/-- **Normalising a normalised word again does not change whether it is a plain one.** -/
theorem normalized_normalized_eq_iff {word plain : Text} (hplain : plain.IsPlain) :
    normalized (normalized word) = plain ↔ normalized word = plain := by
  have htwice : normalized (normalized word) = word.trim.upper.upper := by
    rw [normalized, trim_normalized]
    rfl
  rw [htwice]
  constructor
  · intro h
    have hword : word.trim.upper.IsPlain := Text.isPlain_of_upper_upper (h ▸ hplain)
    rwa [hword.upper_eq] at h
  · intro h
    change word.trim.upper = plain at h
    rw [h, hplain.upper_eq]

theorem isPlain_of_mem_passedWords {word : Text} (h : word ∈ passedWords) : word.IsPlain := by
  have hall : ∀ word ∈ passedWords, word.IsPlain := by decide
  exact hall word h

theorem isPassed_iff {word : Text} : isPassed word = true ↔ normalized word ∈ passedWords := by
  simp [isPassed]

theorem isIndeterminate_iff {word : Text} :
    isIndeterminate word = true ↔ normalized word = indeterminateWord := by
  simp [isIndeterminate]

/-- A word passes exactly when its normalised form does. -/
@[simp] theorem isPassed_normalized (word : Text) : isPassed (normalized word) = isPassed word := by
  rw [Bool.eq_iff_iff, isPassed_iff, isPassed_iff]
  constructor
  · intro h
    have hplain := isPlain_of_mem_passedWords h
    rw [(normalized_normalized_eq_iff hplain).mp rfl]
    exact h
  · intro h
    have hplain := isPlain_of_mem_passedWords h
    rw [(normalized_normalized_eq_iff hplain).mpr rfl]
    exact h

/-- No word is both passed and undecided. -/
theorem isIndeterminate_eq_false_of_isPassed {word : Text} (h : isPassed word = true) :
    isIndeterminate word = false := by
  rw [isPassed_iff] at h
  rw [← Bool.not_eq_true, isIndeterminate_iff]
  intro hword
  rw [hword] at h
  exact absurd h (by decide)

end ValidationReport
