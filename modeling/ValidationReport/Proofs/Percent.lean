import Mathlib.Data.List.Basic
import ValidationReport.Proofs.Utf8
import ValidationReport.Text.Percent

/-!
# Percent decoding

A text encodes another if it comes from it character by character: each is kept
as it is, which a percent sign may not be, or escaped octet by octet.  The two
checks of the decoder, for escapes and for octets that are text, together accept
this grammar and nothing else, so decoding gives the text that is encoded, and
leaves everything else alone.

## Main definitions

* `Text.Escapes` — escapes of octets in a row.
* `Text.PercentEncodes` — a text encodes another.
* `Text.WellEscaped` — two digits follow every percent sign.
* `Text.IsClosed` — no escape is open at the end of a text.

## Main results

* `Text.decodePercent?_eq_some_iff` — **the decoder gives a text exactly if that
  text is encoded.**
* `Text.PercentEncodes.wellEscaped` — every percent sign of an encoding begins an
  escape.
* `Text.Escapes.percentEncodes_iff` — escapes in a row encode a text exactly if
  their octets are its form in UTF-8.
* `Text.percentEncodes_append_cons_iff` — a literal character parts an encoding.
* `Text.decodePercent_exact` — **decoding is exact, and all or nothing.**
-/

namespace ValidationReport

namespace Text

/-! ### The grammar -/

/-- Escapes of octets in a row, with hexadecimal digits in either case. -/
inductive Escapes : Text → Bytes → Prop
  | nil : Escapes [] []
  | cons {a b : Code} {x y : ℕ} {e : Text} {octets : Bytes} :
      a.hexDigit? = some x → b.hexDigit? = some y → Escapes e octets →
      Escapes (('%' : Code) :: a :: b :: e) (.ofNat (x * 16 + y) :: octets)

/-- The first text encodes the second: every code point of it is kept, which a percent sign is not,
or is a character whose octets are escaped. -/
inductive PercentEncodes : Text → Text → Prop
  | nil : PercentEncodes [] []
  | literal {c : Code} {u s : Text} :
      c ≠ ('%' : Code) → PercentEncodes u s → PercentEncodes (c :: u) (c :: s)
  | escaped {c : Char} {e u s : Text} :
      Escapes e (String.utf8EncodeChar c) → PercentEncodes u s →
      PercentEncodes (e ++ u) (Code.ofChar c :: s)

theorem Escapes.append {e e' : Text} {octets octets' : Bytes} (h : Escapes e octets)
    (h' : Escapes e' octets') : Escapes (e ++ e') (octets ++ octets') := by
  induction h with
  | nil => exact h'
  | cons ha hb _ ih => exact .cons ha hb ih

/-- Encodings one after the other encode the texts one after the other. -/
theorem PercentEncodes.append {u u' s s' : Text} (h : PercentEncodes u s)
    (h' : PercentEncodes u' s') : PercentEncodes (u ++ u') (s ++ s') := by
  induction h with
  | nil => exact h'
  | literal hc _ ih => exact .literal hc ih
  | escaped he _ ih =>
    rw [List.append_assoc]
    exact .escaped he ih

/-! ### What is encoded is decoded -/

theorem percentUnits?_escape {a b : Code} {x y : ℕ} (ha : a.hexDigit? = some x)
    (hb : b.hexDigit? = some y) (u : Text) :
    percentUnits? (('%' : Code) :: a :: b :: u) =
      (percentUnits? u).map (.octet (.ofNat (x * 16 + y)) :: ·) := by
  rw [percentUnits?.eq_def]
  simp [ha, hb]

theorem percentUnits?_literal {c : Code} (hc : c ≠ ('%' : Code)) (u : Text) :
    percentUnits? (c :: u) = (percentUnits? u).map
      ((if c.val < 0x80 then .octet (.ofNat c.val) else .literal c) :: ·) := by
  rw [percentUnits?.eq_def]
  dsimp only
  rw [if_neg hc]
  split_ifs <;> rfl

/-- Escapes are octets. -/
theorem Escapes.percentUnits?_append {e : Text} {octets : Bytes} (h : Escapes e octets)
    (u : Text) :
    percentUnits? (e ++ u) = (percentUnits? u).map (octets.map .octet ++ ·) := by
  induction h with
  | nil => cases h : percentUnits? u <;> simp [h]
  | cons ha hb _ ih =>
    rw [List.cons_append, List.cons_append, List.cons_append, percentUnits?_escape ha hb, ih]
    cases percentUnits? u <;> rfl

/-- Octets in a row are gathered. -/
theorem ofPercentUnits?_append (octets : Bytes) (seen : Bytes) (units : List PercentUnit) :
    ofPercentUnits? seen (octets.map .octet ++ units) =
      ofPercentUnits? (octets.reverse ++ seen) units := by
  induction octets generalizing seen with
  | nil => rfl
  | cons b octets ih =>
    rw [List.map_cons, List.cons_append, ofPercentUnits?, ih]
    simp

/-- An encoding has units that are decoded, whatever text the octets before them are. -/
theorem PercentEncodes.exists_units {u s : Text} (h : PercentEncodes u s) :
    ∃ units, percentUnits? u = some units ∧ ∀ t : Text, t.isWellFormed = true →
      ofPercentUnits? t.utf8.reverse units = some (t ++ s) := by
  induction h with
  | nil =>
    refine ⟨[], rfl, fun t ht => ?_⟩
    rw [ofPercentUnits?, List.reverse_reverse, ofUtf8?_utf8 ht, List.append_nil]
  | @literal c u s hc _ ih =>
    obtain ⟨units, hunits, hdecoded⟩ := ih
    by_cases hlt : c.val < 0x80
    · -- an ASCII character joins the octets before it
      refine ⟨.octet (.ofNat c.val) :: units, ?_, fun t ht => ?_⟩
      · rw [percentUnits?_literal hc, hunits, if_pos hlt]
        rfl
      · have hc' : isWellFormed [c] = true :=
          isWellFormed_cons.mpr ⟨Code.isScalar_iff.mpr (by omega), rfl⟩
        have hbefore : .ofNat c.val :: t.utf8.reverse = (t ++ [c]).utf8.reverse := by
          rw [utf8_append, utf8_cons, Code.utf8, if_pos hlt]
          simp
        rw [ofPercentUnits?, hbefore, hdecoded (t ++ [c]) (isWellFormed_append.mpr ⟨ht, hc'⟩),
          List.append_assoc]
        rfl
    · -- any other character ends them
      refine ⟨.literal c :: units, ?_, fun t ht => ?_⟩
      · rw [percentUnits?_literal hc, hunits, if_neg hlt]
        rfl
      · have hrest : ofPercentUnits? [] units = some s := hdecoded [] rfl
        rw [ofPercentUnits?, List.reverse_reverse, ofUtf8?_utf8 ht, hrest]
  | @escaped c e u s he _ ih =>
    obtain ⟨units, hunits, hdecoded⟩ := ih
    refine ⟨(String.utf8EncodeChar c).map .octet ++ units, ?_, fun t ht => ?_⟩
    · rw [he.percentUnits?_append, hunits]
      rfl
    · have hc : isWellFormed [Code.ofChar c] = true :=
        isWellFormed_cons.mpr ⟨Code.isScalar_ofChar c, rfl⟩
      have hbefore : (String.utf8EncodeChar c).reverse ++ t.utf8.reverse =
          (t ++ [Code.ofChar c]).utf8.reverse := by
        rw [utf8_append, utf8_cons, Code.utf8_ofChar]
        simp
      rw [ofPercentUnits?_append, hbefore,
        hdecoded (t ++ [Code.ofChar c]) (isWellFormed_append.mpr ⟨ht, hc⟩), List.append_assoc]
      rfl

/-! ### What is decoded is encoded -/

/-- The first unit of a text is an escape or a literal. -/
theorem percentUnits?_cons_eq_some {c : Code} {u : Text} {units : List PercentUnit}
    (h : percentUnits? (c :: u) = some units) :
    ∃ unit units' e u', units = unit :: units' ∧ c :: u = e ++ u' ∧
      percentUnits? u' = some units' ∧
      ((∃ b, unit = .octet b ∧ Escapes e [b]) ∨
        e = [c] ∧ c ≠ ('%' : Code) ∧
          unit = if c.val < 0x80 then .octet (.ofNat c.val) else .literal c) := by
  by_cases hc : c = ('%' : Code)
  · subst hc
    match u, h with
    | [], h => cases h
    | [_], h => cases h
    | a :: b :: u, h =>
      cases ha : a.hexDigit? with
      | none => simp [percentUnits?.eq_def, ha] at h
      | some x =>
        cases hb : b.hexDigit? with
        | none => simp [percentUnits?.eq_def, ha, hb] at h
        | some y =>
          rw [percentUnits?_escape ha hb] at h
          obtain ⟨units', hunits, rfl⟩ := Option.map_eq_some_iff.mp h
          exact ⟨_, units', _, u, rfl, rfl, hunits, Or.inl ⟨_, rfl, .cons ha hb .nil⟩⟩
  · rw [percentUnits?_literal hc] at h
    obtain ⟨units', hunits, rfl⟩ := Option.map_eq_some_iff.mp h
    exact ⟨_, units', [c], u, rfl, rfl, hunits, Or.inr ⟨rfl, hc, rfl⟩⟩

/-- Octets above ASCII can only be escapes. -/
theorem escapes_of_percentUnits? {octets : Bytes} (hoctets : ∀ b ∈ octets, 0x80 ≤ b.toNat)
    {u : Text} {units : List PercentUnit}
    (h : percentUnits? u = some (octets.map .octet ++ units)) :
    ∃ e u', u = e ++ u' ∧ Escapes e octets ∧ percentUnits? u' = some units := by
  induction octets generalizing u with
  | nil => exact ⟨[], u, rfl, .nil, h⟩
  | cons b octets ih =>
    cases u with
    | nil => cases h
    | cons c u =>
      obtain ⟨unit, units', e, u', hunits, hu, hrest, hfirst⟩ := percentUnits?_cons_eq_some h
      obtain ⟨rfl, rfl⟩ := List.cons.inj hunits
      obtain ⟨e', u'', rfl, he', hu''⟩ :=
        ih (fun b hb => hoctets b (List.mem_cons_of_mem _ hb)) hrest
      rcases hfirst with ⟨b', hb', he⟩ | ⟨-, -, hliteral⟩
      · obtain rfl := PercentUnit.octet.inj hb'
        exact ⟨e ++ e', u'', by rw [hu, List.append_assoc], he.append he', hu''⟩
      · exfalso
        have hb := hoctets b List.mem_cons_self
        split_ifs at hliteral with hlt
        obtain rfl := PercentUnit.octet.inj hliteral
        rw [toNat_ofNat_of_lt (by omega)] at hb
        omega

theorem utf8_bounds {c : Code} (h : 0x80 ≤ c.val) : ∀ b ∈ c.utf8, 0x80 ≤ b.toNat := by
  have hlt := c.isLt
  unfold Code.utf8
  split_ifs with hone htwo hthree
  · omega
  all_goals
    simp only [List.mem_cons, List.not_mem_nil, or_false, forall_eq_or_imp, forall_eq]
    simp only [UInt8.toNat_ofNat']
    omega

/-- The octets of a character come from its escapes, or from the character if it is ASCII. -/
theorem percentEncodes_of_utf8 {c : Char} {u : Text} {units : List PercentUnit}
    (h : percentUnits? u = some ((String.utf8EncodeChar c).map .octet ++ units)) :
    ∃ u', percentUnits? u' = some units ∧
      ∀ s, PercentEncodes u' s → PercentEncodes u (Code.ofChar c :: s) := by
  by_cases hle : 0x80 ≤ (Code.ofChar c).val
  · obtain ⟨e, u', rfl, he, hu'⟩ := escapes_of_percentUnits?
      (fun b hb => utf8_bounds hle b (by rwa [Code.utf8_ofChar])) h
    exact ⟨u', hu', fun s hs => .escaped he hs⟩
  · have hutf8 : String.utf8EncodeChar c = [.ofNat (Code.ofChar c).val] := by
      rw [← Code.utf8_ofChar, Code.utf8, if_pos (by omega)]
    rw [hutf8] at h
    cases u with
    | nil => cases h
    | cons d u =>
      obtain ⟨unit, units', e, u', hunits, hu, hrest, hfirst⟩ := percentUnits?_cons_eq_some h
      obtain ⟨rfl, rfl⟩ := List.cons.inj hunits
      refine ⟨u', hrest, fun s hs => ?_⟩
      rw [hu]
      rcases hfirst with ⟨b, hb, he⟩ | ⟨rfl, hd, hliteral⟩
      · obtain rfl := PercentUnit.octet.inj hb
        exact .escaped (hutf8 ▸ he) hs
      · split_ifs at hliteral with hlt
        have hval := congrArg UInt8.toNat (PercentUnit.octet.inj hliteral)
        rw [toNat_ofNat_of_lt (by omega), toNat_ofNat_of_lt (by omega)] at hval
        rw [Code.ext_val hval]
        exact .literal hd hs

/-- The octets of a text come from an encoding of it. -/
theorem percentEncodes_of_utf8_append {t u : Text} (ht : t.isWellFormed = true)
    {units : List PercentUnit} (h : percentUnits? u = some (t.utf8.map .octet ++ units)) :
    ∃ u', percentUnits? u' = some units ∧
      ∀ s, PercentEncodes u' s → PercentEncodes u (t ++ s) := by
  induction t generalizing u with
  | nil => exact ⟨u, h, fun s hs => hs⟩
  | cons c t ih =>
    obtain ⟨hc, hwell⟩ := isWellFormed_cons.mp ht
    obtain ⟨d, rfl⟩ := Code.exists_char_of_isScalar hc
    rw [utf8_cons, List.map_append, List.append_assoc, Code.utf8_ofChar] at h
    obtain ⟨u', hu', hencodes⟩ := percentEncodes_of_utf8 h
    obtain ⟨u'', hu'', hrest⟩ := ih hwell hu'
    exact ⟨u'', hu'', fun s hs => hencodes _ (hrest s hs)⟩

/-- Units are octets that are a text, up to their end or to a literal. -/
theorem ofPercentUnits?_eq_some {seen : Bytes} {units : List PercentUnit} {s : Text}
    (h : ofPercentUnits? seen units = some s) :
    ∃ octets t, ofUtf8? (seen.reverse ++ octets) = some t ∧
      (units = octets.map .octet ∧ s = t ∨
        ∃ c rest s', units = octets.map .octet ++ .literal c :: rest ∧
          ofPercentUnits? [] rest = some s' ∧ s = t ++ c :: s') := by
  induction units generalizing seen with
  | nil => exact ⟨[], s, by rw [List.append_nil]; exact h, Or.inl ⟨rfl, rfl⟩⟩
  | cons unit units ih =>
    cases unit with
    | octet b =>
      have hseen : ofPercentUnits? (b :: seen) units = some s := h
      obtain ⟨octets, t, ht, hrest⟩ := ih hseen
      refine ⟨b :: octets, t, ?_, ?_⟩
      · rwa [List.reverse_cons, List.append_assoc] at ht
      · rcases hrest with ⟨rfl, rfl⟩ | ⟨c, rest, s', rfl, hs', rfl⟩
        · exact Or.inl ⟨rfl, rfl⟩
        · exact Or.inr ⟨c, rest, s', rfl, hs', rfl⟩
    | literal c =>
      rw [ofPercentUnits?] at h
      split at h
      · next before after hbefore hafter =>
        obtain rfl := Option.some.inj h
        exact ⟨[], before, by rwa [List.append_nil], Or.inr ⟨c, units, after, rfl, hafter, rfl⟩⟩
      · cases h

/-- Units that are decoded come from an encoding of what they are decoded to. -/
theorem percentEncodes_of_units {units : List PercentUnit} {u s : Text}
    (hunits : percentUnits? u = some units) (hdecoded : ofPercentUnits? [] units = some s) :
    PercentEncodes u s := by
  -- each literal that is no ASCII character leaves fewer units to decode
  induction hn : units.length using Nat.strongRecOn generalizing units u s with
  | _ n ih =>
    obtain ⟨octets, t, ht, hrest⟩ := ofPercentUnits?_eq_some hdecoded
    obtain ⟨hwell, hoctets⟩ := ofUtf8?_eq_some_iff.mp ht
    rw [List.reverse_nil, List.nil_append] at hoctets
    subst hoctets
    rcases hrest with ⟨rfl, rfl⟩ | ⟨c, rest, s', rfl, hs', rfl⟩
    · rw [← List.append_nil (List.map _ _)] at hunits
      obtain ⟨v, hv, hencodes⟩ := percentEncodes_of_utf8_append hwell hunits
      cases v with
      | nil => simpa using hencodes [] .nil
      | cons d v =>
        obtain ⟨unit, units', -, -, hnone, -⟩ := percentUnits?_cons_eq_some hv
        cases hnone
    · obtain ⟨v, hv, hencodes⟩ := percentEncodes_of_utf8_append hwell hunits
      cases v with
      | nil => cases hv
      | cons d v =>
        obtain ⟨unit, units', e, w, hcons, hsplit, hw, hfirst⟩ := percentUnits?_cons_eq_some hv
        obtain ⟨rfl, rfl⟩ := List.cons.inj hcons
        rcases hfirst with ⟨b, hb, -⟩ | ⟨rfl, hd, hliteral⟩
        · cases hb
        · split_ifs at hliteral
          obtain rfl := PercentUnit.literal.inj hliteral
          obtain ⟨-, rfl⟩ := List.cons.inj hsplit
          refine hencodes _ (.literal hd (ih rest.length ?_ hw hs' rfl))
          rw [← hn, List.length_append, List.length_cons]
          omega

/-- **The decoder gives a text exactly if that text is encoded.** -/
theorem decodePercent?_eq_some_iff {u s : Text} :
    decodePercent? u = some s ↔ PercentEncodes u s := by
  unfold decodePercent?
  constructor
  · intro h
    obtain ⟨units, hunits, hdecoded⟩ := Option.bind_eq_some_iff.mp h
    exact percentEncodes_of_units hunits hdecoded
  · intro h
    obtain ⟨units, hunits, hdecoded⟩ := h.exists_units
    rw [hunits]
    exact hdecoded [] rfl

/-- A text encodes one text at most. -/
theorem PercentEncodes.unique {u s s' : Text} (h : PercentEncodes u s)
    (h' : PercentEncodes u s') : s' = s := by
  rw [← decodePercent?_eq_some_iff] at h h'
  exact Option.some.inj (h'.symm.trans h)

theorem PercentEncodes.decodePercent_eq {u s : Text} (h : PercentEncodes u s) :
    decodePercent u = s := by
  unfold decodePercent
  rw [decodePercent?_eq_some_iff.mpr h]
  rfl

/-- What encodes nothing is left as it is. -/
theorem decodePercent_of_not_encodes {u : Text} (h : ¬ ∃ s, PercentEncodes u s) :
    decodePercent u = u := by
  unfold decodePercent
  cases hdecoded : decodePercent? u with
  | none => rfl
  | some s => exact absurd ⟨s, decodePercent?_eq_some_iff.mp hdecoded⟩ h

/-! ### What encodes nothing -/

/-- Two hexadecimal digits follow every percent sign. -/
def WellEscaped (u : Text) : Prop :=
  ∀ v w, u = v ++ ('%' : Code) :: w →
    ∃ a b rest, w = a :: b :: rest ∧ a.hexDigit?.isSome = true ∧ b.hexDigit?.isSome = true

theorem ne_percent_of_hexDigit? {d : Code} (h : d.hexDigit?.isSome = true) :
    d ≠ ('%' : Code) := by
  rintro rfl
  cases h

theorem WellEscaped.literal {c : Code} {u : Text} (hc : c ≠ ('%' : Code)) (h : WellEscaped u) :
    WellEscaped (c :: u) := by
  intro v w hsplit
  cases v with
  | nil => exact absurd (List.cons.inj hsplit).1 hc
  | cons d v => exact h v w (List.cons.inj hsplit).2

theorem WellEscaped.escape {a b : Code} {u : Text} (ha : a.hexDigit?.isSome = true)
    (hb : b.hexDigit?.isSome = true) (h : WellEscaped u) :
    WellEscaped (('%' : Code) :: a :: b :: u) := by
  intro v w hsplit
  cases v with
  | nil =>
    obtain ⟨-, rfl⟩ := List.cons.inj hsplit
    exact ⟨a, b, u, rfl, ha, hb⟩
  | cons _ v =>
    have hdigits := (h.literal (ne_percent_of_hexDigit? hb)).literal (ne_percent_of_hexDigit? ha)
    exact hdigits v w (List.cons.inj hsplit).2

theorem Escapes.wellEscaped_append {e u : Text} {octets : Bytes} (h : Escapes e octets)
    (hu : WellEscaped u) : WellEscaped (e ++ u) := by
  induction h with
  | nil => exact hu
  | cons ha hb _ ih => exact ih.escape (by rw [ha]; rfl) (by rw [hb]; rfl)

/-- Every percent sign of an encoding begins an escape. -/
theorem PercentEncodes.wellEscaped {u s : Text} (h : PercentEncodes u s) : WellEscaped u := by
  induction h with
  | nil =>
    intro v w hsplit
    simp at hsplit
  | literal hc _ ih => exact ih.literal hc
  | escaped he _ ih => exact he.wellEscaped_append ih

/-- Escapes in a row encode a text exactly if their octets are its form in UTF-8. -/
theorem Escapes.percentEncodes_iff {e s : Text} {octets : Bytes} (h : Escapes e octets) :
    PercentEncodes e s ↔ ∃ chars : List Char,
      s = chars.map Code.ofChar ∧ chars.flatMap String.utf8EncodeChar = octets := by
  have hunits : percentUnits? e = some (octets.map .octet) := by
    simpa [percentUnits?] using h.percentUnits?_append []
  have hdecoded : decodePercent? e = ofUtf8? octets := by
    have hgathered : ofPercentUnits? [] (octets.map .octet) = ofUtf8? octets := by
      simpa [ofPercentUnits?] using ofPercentUnits?_append octets [] []
    rw [decodePercent?, hunits, Option.bind_some, hgathered]
  rw [← decodePercent?_eq_some_iff, hdecoded, ofUtf8?_eq_some_iff]
  constructor
  · rintro ⟨hwell, hutf8⟩
    obtain ⟨chars, rfl⟩ := exists_chars_of_isWellFormed hwell
    exact ⟨chars, rfl, by rw [← hutf8, utf8_map_ofChar]⟩
  · rintro ⟨chars, rfl, rfl⟩
    exact ⟨isWellFormed_map_ofChar chars, utf8_map_ofChar chars⟩

/-- No escape is open at the end of a text: two code points at least follow every percent sign. -/
def IsClosed (v : Text) : Prop :=
  ∀ front last, v = front ++ ('%' : Code) :: last → 2 ≤ last.length

theorem IsClosed.of_append {e v : Text} (h : IsClosed (e ++ v)) : IsClosed v := by
  intro front last hsplit
  exact h (e ++ front) last (by rw [hsplit, List.append_assoc])

/-- A text that is closed does not end inside an escape. -/
theorem Escapes.not_isClosed {c : Code} (hc : c ≠ ('%' : Code)) {e : Text} {octets : Bytes}
    (h : Escapes e octets) : ∀ {v w : Text}, e = v ++ c :: w → ¬ IsClosed v := by
  induction h with
  | nil =>
    intro v w hsplit
    simp at hsplit
  | @cons a b x y e octets _ _ _ ih =>
    intro v w hsplit hclosed
    match v, hsplit with
    | [], hsplit => exact hc (List.cons.inj hsplit).1.symm
    | [p], hsplit =>
      obtain ⟨rfl, -⟩ := List.cons.inj hsplit
      exact absurd (hclosed [] [] rfl) (by simp)
    | [p, q], hsplit =>
      obtain ⟨rfl, -⟩ := List.cons.inj hsplit
      exact absurd (hclosed [] [q] rfl) (by simp)
    | p :: q :: r :: v, hsplit =>
      simp only [List.cons_append, List.cons.injEq] at hsplit
      exact ih hsplit.2.2.2 (IsClosed.of_append (e := [p, q, r]) hclosed)

/-- What stands before a member of two lists in a row goes beyond the first, or is a part of it. -/
theorem append_cons_eq_append {α : Type} {c : α} {v w e u : List α} (h : v ++ c :: w = e ++ u) :
    (∃ v', v = e ++ v' ∧ v' ++ c :: w = u) ∨ ∃ rest, e = v ++ c :: rest := by
  rcases List.append_eq_append_iff.mp h with ⟨rest, hend, hrest⟩ | ⟨v', hv, hrest⟩
  · cases rest with
    | nil => exact Or.inl ⟨[], by simpa using hend.symm, hrest⟩
    | cons d rest =>
      obtain ⟨rfl, -⟩ := List.cons.inj hrest
      exact Or.inr ⟨rest, hend⟩
  · exact Or.inl ⟨v', hv, hrest.symm⟩

/-- A literal character parts an encoding: what stands before it and after it are encodings. -/
theorem percentEncodes_append_cons_iff {c : Code} (hc : c ≠ ('%' : Code)) {v w s : Text}
    (hv : IsClosed v) :
    PercentEncodes (v ++ c :: w) s ↔
      ∃ t t', s = t ++ c :: t' ∧ PercentEncodes v t ∧ PercentEncodes w t' := by
  constructor
  · intro h
    generalize hu : v ++ c :: w = u at h
    induction h generalizing v with
    | nil => simp at hu
    | @literal d u s hd hs ih =>
      cases v with
      | nil =>
        obtain ⟨rfl, rfl⟩ := List.cons.inj hu
        exact ⟨[], s, rfl, .nil, hs⟩
      | cons p v =>
        obtain ⟨rfl, hrest⟩ := List.cons.inj hu
        obtain ⟨t, t', rfl, ht, ht'⟩ := ih (IsClosed.of_append (e := [p]) hv) hrest
        exact ⟨p :: t, t', rfl, .literal hd ht, ht'⟩
    | @escaped d e u s he hs ih =>
      rcases append_cons_eq_append hu with ⟨v', rfl, hrest⟩ | ⟨rest, hend⟩
      · obtain ⟨t, t', rfl, ht, ht'⟩ := ih hv.of_append hrest
        exact ⟨_ :: t, t', rfl, .escaped he ht, ht'⟩
      · exact absurd hv (he.not_isClosed hc hend)
  · rintro ⟨t, t', rfl, ht, ht'⟩
    exact ht.append (.literal hc ht')

/-! ### Decoding -/

/-- **Decoding is exact, and all or nothing.**  What is encoded is one text, and decoding gives it;
a text that encodes nothing is left as it is.  A text encodes nothing if a percent sign begins no
escape, or if escapes in a row are not the octets of characters.  A literal character, such as a
plus sign, stays what it is, and parts the escapes before it from those after it. -/
theorem decodePercent_exact (u : Text) :
    (∀ s, PercentEncodes u s → (∀ s', PercentEncodes u s' → s' = s) ∧ decodePercent u = s) ∧
    ((¬ ∃ s, PercentEncodes u s) → decodePercent u = u) ∧
    (¬ WellEscaped u → ¬ ∃ s, PercentEncodes u s) ∧
    (∀ octets, Escapes u octets →
      (¬ ∃ chars : List Char, chars.flatMap String.utf8EncodeChar = octets) →
      ¬ ∃ s, PercentEncodes u s) ∧
    ∀ v w (c : Code), u = v ++ c :: w → c ≠ ('%' : Code) → IsClosed v →
      ∀ s, PercentEncodes u s ↔
        ∃ t t', s = t ++ c :: t' ∧ PercentEncodes v t ∧ PercentEncodes w t' := by
  refine ⟨?_, decodePercent_of_not_encodes, ?_, ?_, ?_⟩
  · intro s hs
    exact ⟨fun s' hs' => hs.unique hs', hs.decodePercent_eq⟩
  · rintro hbroken ⟨s, hs⟩
    exact hbroken hs.wellEscaped
  · rintro octets hoctets hnone ⟨s, hs⟩
    obtain ⟨chars, -, hchars⟩ := hoctets.percentEncodes_iff.mp hs
    exact hnone ⟨chars, hchars⟩
  · rintro v w c rfl hc hv s
    exact percentEncodes_append_cons_iff hc hv

-- a capital and a small digit, an overlong form, a surrogate, and an interrupted character
example : decodePercent "%D1%8f+a%2B" = ("я+a+" : Text) := by cbv
example : decodePercent "%C0%80" = ("%C0%80" : Text) := by cbv
example : decodePercent "%ED%A0%80" = ("%ED%A0%80" : Text) := by cbv
example : decodePercent "%41%D1a%8F" = ("%41%D1a%8F" : Text) := by cbv

end Text

end ValidationReport
