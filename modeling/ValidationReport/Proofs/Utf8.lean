import Mathlib.Data.List.Basic
import ValidationReport.Text.Utf8

/-!
# Reading UTF-8

Reading is strict, so it takes exactly the octets that writing gives: every text
without surrogates has one form in UTF-8, and octets that are read are the form
of what they are read as.  A code point has one of four forms, by its size, and
each is dealt with in the same three steps: what the reader makes of such
octets, which code points have them, and which octets such a code point has.

## Main results

* `Text.ofUtf8?_code_append` — the octets of a code point are read back before
  whatever follows.
* `Text.ofUtf8?_cons_eq_some` — octets that are read begin with those of the
  first code point.
* `Text.ofUtf8?_eq_some_iff` — **octets are read as a text exactly if the text
  has no surrogates and the octets are its form in UTF-8.**
-/

namespace ValidationReport

theorem Code.isScalar_iff {c : Code} : c.isScalar = true ↔ c.val < 0xD800 ∨ 0xE000 ≤ c.val := by
  simp only [isScalar, isSurrogate, Bool.not_eq_true', Bool.and_eq_false_iff,
    decide_eq_false_iff_not]
  omega

/-- Every scalar value is a character. -/
theorem Code.exists_char_of_isScalar {c : Code} (h : c.isScalar = true) :
    ∃ d : Char, Code.ofChar d = c := by
  rw [isScalar_iff] at h
  have hlt := c.isLt
  have hvalid : c.val.isValidChar := by
    unfold Nat.isValidChar
    omega
  exact ⟨Char.ofNatAux c.val hvalid, Code.ext_val rfl⟩

theorem Code.isScalar_ofChar (c : Char) : (Code.ofChar c).isScalar = true := by
  rw [isScalar_iff, val_ofChar]
  rcases c.valid with h | ⟨h, -⟩
  · exact Or.inl h
  · exact Or.inr h

/-- The octets of a character are those that the standard library gives it. -/
theorem Code.utf8_ofChar (c : Char) : (Code.ofChar c).utf8 = String.utf8EncodeChar c := by
  have hlt : c.toNat < 0x110000 := (Code.ofChar c).isLt
  have hval : c.val.toNat = c.toNat := rfl
  rw [utf8, val_ofChar, String.utf8EncodeChar.eq_1, hval]
  have hsame : ∀ {m n : ℕ}, m = n → UInt8.ofNat m = UInt8.ofNat n := fun h => h ▸ rfl
  have hlow : ∀ m : ℕ, UInt8.ofNat (0x80 + m) = UInt8.ofNat (m + 128) := fun m =>
    hsame (Nat.add_comm 0x80 m)
  by_cases hone : c.toNat < 0x80
  · rw [if_pos hone, if_pos (by omega : c.toNat ≤ 127)]
  rw [if_neg hone, if_neg (by omega : ¬ c.toNat ≤ 127)]
  by_cases htwo : c.toNat < 0x800
  · rw [if_pos htwo, if_pos (by omega : c.toNat ≤ 2047), hlow,
      hsame (by omega : 0xC0 + c.toNat / 0x40 = c.toNat / 64 % 32 + 192)]
  rw [if_neg htwo, if_neg (by omega : ¬ c.toNat ≤ 2047)]
  by_cases hthree : c.toNat < 0x10000
  · rw [if_pos hthree, if_pos (by omega : c.toNat ≤ 65535), hlow, hlow,
      hsame (by omega : 0xE0 + c.toNat / 0x1000 = c.toNat / 4096 % 16 + 224)]
  · rw [if_neg hthree, if_neg (by omega : ¬ c.toNat ≤ 65535), hlow, hlow, hlow,
      hsame (by omega : 0xF0 + c.toNat / 0x40000 = c.toNat / 262144 % 8 + 240)]

/-- An octet is known by its number. -/
theorem ofNat_eq_of_toNat {n : ℕ} {b : UInt8} (h : n = b.toNat) : UInt8.ofNat n = b := by
  rw [h, UInt8.ofNat_toNat]

/-- A number below 256 is the number of an octet. -/
theorem toNat_ofNat_of_lt {n : ℕ} (h : n < 0x100) : (UInt8.ofNat n).toNat = n :=
  UInt8.toNat_ofNat_of_lt' h

namespace Text

theorem isContinuation_iff {b : UInt8} :
    isContinuation b = true ↔ 0x80 ≤ b.toNat ∧ b.toNat < 0xC0 := by
  simp [isContinuation]

theorem isSecond_iff {a b : UInt8} : isSecond a b = true ↔
    0x80 ≤ b.toNat ∧ b.toNat < 0xC0 ∧ (a.toNat = 0xE0 → 0xA0 ≤ b.toNat) ∧
      (a.toNat = 0xED → b.toNat < 0xA0) ∧ (a.toNat = 0xF0 → 0x90 ≤ b.toNat) ∧
      (a.toNat = 0xF4 → b.toNat < 0x90) := by
  unfold isSecond
  split_ifs <;> simp only [isContinuation_iff, Bool.and_eq_true, decide_eq_true_eq] <;> omega

/-! ### The reader, by the length of a form -/

section

attribute [local simp] ofUtf8?

variable {a b c d : UInt8} (rest : Bytes)

theorem ofUtf8?_one (ha : a.toNat < 0x80) :
    ofUtf8? (a :: rest) = (ofUtf8? rest).map (Code.ofNat a.toNat :: ·) := by
  rw [ofUtf8?.eq_def]
  exact if_pos ha

theorem ofUtf8?_two (ha : 0xC2 ≤ a.toNat ∧ a.toNat < 0xE0) (hb : isSecond a b = true) :
    ofUtf8? (a :: b :: rest) =
      (ofUtf8? rest).map (Code.ofNat ((a.toNat - 0xC0) * 0x40 + (b.toNat - 0x80)) :: ·) := by
  have hone : ¬ a.toNat < 0x80 := by omega
  simp [hone, ha, hb]

theorem ofUtf8?_three (ha : 0xE0 ≤ a.toNat ∧ a.toNat < 0xF0) (hb : isSecond a b = true)
    (hc : isContinuation c = true) :
    ofUtf8? (a :: b :: c :: rest) = (ofUtf8? rest).map
      (Code.ofNat ((a.toNat - 0xE0) * 0x1000 + (b.toNat - 0x80) * 0x40 + (c.toNat - 0x80))
        :: ·) := by
  have hone : ¬ a.toNat < 0x80 := by omega
  have htwo : ¬ (0xC2 ≤ a.toNat ∧ a.toNat < 0xE0) := by omega
  simp [hone, htwo, ha, hb, hc]

theorem ofUtf8?_four (ha : 0xF0 ≤ a.toNat ∧ a.toNat < 0xF5) (hb : isSecond a b = true)
    (hc : isContinuation c = true) (hd : isContinuation d = true) :
    ofUtf8? (a :: b :: c :: d :: rest) = (ofUtf8? rest).map
      (Code.ofNat ((a.toNat - 0xF0) * 0x40000 + (b.toNat - 0x80) * 0x1000 +
        (c.toNat - 0x80) * 0x40 + (d.toNat - 0x80)) :: ·) := by
  have hone : ¬ a.toNat < 0x80 := by omega
  have htwo : ¬ (0xC2 ≤ a.toNat ∧ a.toNat < 0xE0) := by omega
  have hthree : ¬ (0xE0 ≤ a.toNat ∧ a.toNat < 0xF0) := by omega
  simp [hone, htwo, hthree, ha, hb, hc, hd]

end

/-! ### Code points and their octets -/

/-- The octets of a code point are read back. -/
theorem ofUtf8?_code_append {c : Code} (h : c.isScalar = true) (rest : Bytes) :
    ofUtf8? (c.utf8 ++ rest) = (ofUtf8? rest).map (c :: ·) := by
  rw [Code.isScalar_iff] at h
  have hlt := c.isLt
  have hself : ∀ {n : ℕ}, n = c.val → Code.ofNat n = c := by
    rintro n rfl
    exact Code.ofNat_val c
  unfold Code.utf8
  split_ifs with hone htwo hthree
  · have ha := toNat_ofNat_of_lt (n := c.val) (by omega)
    rw [List.singleton_append, ofUtf8?_one rest (by omega), hself ha]
  · have ha := toNat_ofNat_of_lt (n := 0xC0 + c.val / 0x40) (by omega)
    have hb := toNat_ofNat_of_lt (n := 0x80 + c.val % 0x40) (by omega)
    have hsecond := isSecond_iff (a := .ofNat (0xC0 + c.val / 0x40))
      (b := .ofNat (0x80 + c.val % 0x40))
    rw [List.cons_append, List.singleton_append, ofUtf8?_two rest (by omega)
      (hsecond.mpr (by omega)), hself (by omega)]
  · have ha := toNat_ofNat_of_lt (n := 0xE0 + c.val / 0x1000) (by omega)
    have hb := toNat_ofNat_of_lt (n := 0x80 + c.val / 0x40 % 0x40) (by omega)
    have hc := toNat_ofNat_of_lt (n := 0x80 + c.val % 0x40) (by omega)
    have hsecond := isSecond_iff (a := .ofNat (0xE0 + c.val / 0x1000))
      (b := .ofNat (0x80 + c.val / 0x40 % 0x40))
    rw [List.cons_append, List.cons_append, List.singleton_append, ofUtf8?_three rest (by omega)
      (hsecond.mpr (by omega)) (isContinuation_iff.mpr (by omega)), hself (by omega)]
  · have ha := toNat_ofNat_of_lt (n := 0xF0 + c.val / 0x40000) (by omega)
    have hb := toNat_ofNat_of_lt (n := 0x80 + c.val / 0x1000 % 0x40) (by omega)
    have hc := toNat_ofNat_of_lt (n := 0x80 + c.val / 0x40 % 0x40) (by omega)
    have hd := toNat_ofNat_of_lt (n := 0x80 + c.val % 0x40) (by omega)
    have hsecond := isSecond_iff (a := .ofNat (0xF0 + c.val / 0x40000))
      (b := .ofNat (0x80 + c.val / 0x1000 % 0x40))
    rw [List.cons_append, List.cons_append, List.cons_append, List.singleton_append,
      ofUtf8?_four rest (by omega) (hsecond.mpr (by omega)) (isContinuation_iff.mpr (by omega))
        (isContinuation_iff.mpr (by omega)), hself (by omega)]

/-- A scalar value with the octets that follow from its number. -/
theorem exists_code_of_utf8 (octets : Bytes) {n : ℕ} (hlt : n < 0x110000)
    (hscalar : n < 0xD800 ∨ 0xE000 ≤ n) (hutf8 : (Code.ofNat n).utf8 = octets) {rest : Bytes}
    {t : Text} (h : (ofUtf8? rest).map (Code.ofNat n :: ·) = some t) :
    ∃ c rest' t', c.isScalar = true ∧ octets ++ rest = c.utf8 ++ rest' ∧
      ofUtf8? rest' = some t' ∧ t = c :: t' := by
  obtain ⟨t', ht', rfl⟩ := Option.map_eq_some_iff.mp h
  refine ⟨Code.ofNat n, rest, t', ?_, by rw [hutf8], ht', rfl⟩
  rw [Code.isScalar_iff, Code.val_ofNat hlt]
  exact hscalar

/-- Octets that are read begin with those of the first code point. -/
theorem ofUtf8?_cons_eq_some {a : UInt8} {bytes : Bytes} {t : Text}
    (h : ofUtf8? (a :: bytes) = some t) :
    ∃ c rest t', c.isScalar = true ∧ a :: bytes = c.utf8 ++ rest ∧ ofUtf8? rest = some t' ∧
      t = c :: t' := by
  rw [ofUtf8?.eq_def] at h
  dsimp only at h
  split_ifs at h with hone htwo hthree hfour
  · refine exists_code_of_utf8 [a] (by omega) (by omega) ?_ h
    rw [Code.utf8, Code.val_ofNat (by omega), if_pos hone, ofNat_eq_of_toNat rfl]
  · cases bytes with
    | nil => cases h
    | cons b rest =>
      dsimp only at h
      split_ifs at h with hb
      rw [isSecond_iff] at hb
      refine exists_code_of_utf8 [a, b] (by omega) (by omega) ?_ h
      rw [Code.utf8, Code.val_ofNat (by omega), if_neg (by omega), if_pos (by omega),
        ofNat_eq_of_toNat (b := a) (by omega), ofNat_eq_of_toNat (b := b) (by omega)]
  · match bytes, h with
    | [], h => cases h
    | [_], h => cases h
    | b :: c :: rest, h =>
      dsimp only at h
      split_ifs at h with hbc
      rw [Bool.and_eq_true, isSecond_iff, isContinuation_iff] at hbc
      refine exists_code_of_utf8 [a, b, c] (by omega) (by omega) ?_ h
      rw [Code.utf8, Code.val_ofNat (by omega), if_neg (by omega), if_neg (by omega),
        if_pos (by omega), ofNat_eq_of_toNat (b := a) (by omega),
        ofNat_eq_of_toNat (b := b) (by omega), ofNat_eq_of_toNat (b := c) (by omega)]
  · match bytes, h with
    | [], h => cases h
    | [_], h => cases h
    | [_, _], h => cases h
    | b :: c :: d :: rest, h =>
      dsimp only at h
      split_ifs at h with hbcd
      rw [Bool.and_eq_true, Bool.and_eq_true, isSecond_iff, isContinuation_iff,
        isContinuation_iff] at hbcd
      refine exists_code_of_utf8 [a, b, c, d] (by omega) (by omega) ?_ h
      rw [Code.utf8, Code.val_ofNat (by omega), if_neg (by omega), if_neg (by omega),
        if_neg (by omega), ofNat_eq_of_toNat (b := a) (by omega),
        ofNat_eq_of_toNat (b := b) (by omega), ofNat_eq_of_toNat (b := c) (by omega),
        ofNat_eq_of_toNat (b := d) (by omega)]

/-! ### Texts and their octets -/

theorem isWellFormed_cons {c : Code} {t : Text} :
    isWellFormed (c :: t) = true ↔ c.isScalar = true ∧ t.isWellFormed = true := by
  simp [isWellFormed]

theorem isWellFormed_append {s t : Text} :
    isWellFormed (s ++ t) = true ↔ s.isWellFormed = true ∧ t.isWellFormed = true := by
  simp [isWellFormed]

theorem utf8_append (s t : Text) : utf8 (s ++ t) = utf8 s ++ utf8 t := by
  simp [utf8]

/-- A text without surrogates is a text of characters. -/
theorem exists_chars_of_isWellFormed {t : Text} (h : t.isWellFormed = true) :
    ∃ chars : List Char, chars.map Code.ofChar = t := by
  induction t with
  | nil => exact ⟨[], rfl⟩
  | cons c t ih =>
    obtain ⟨hc, ht⟩ := isWellFormed_cons.mp h
    obtain ⟨d, rfl⟩ := Code.exists_char_of_isScalar hc
    obtain ⟨chars, rfl⟩ := ih ht
    exact ⟨d :: chars, rfl⟩

theorem isWellFormed_map_ofChar (chars : List Char) :
    isWellFormed (chars.map Code.ofChar) = true := by
  simp [isWellFormed, Code.isScalar_ofChar]

theorem utf8_map_ofChar (chars : List Char) :
    utf8 (chars.map Code.ofChar) = chars.flatMap String.utf8EncodeChar := by
  simp [utf8, List.flatMap_map, Code.utf8_ofChar]

/-- A text without surrogates is read back. -/
theorem ofUtf8?_utf8 {t : Text} (h : t.isWellFormed = true) : ofUtf8? t.utf8 = some t := by
  induction t with
  | nil => rfl
  | cons c t ih =>
    obtain ⟨hc, ht⟩ := isWellFormed_cons.mp h
    rw [utf8_cons, ofUtf8?_code_append hc, ih ht]
    rfl

/-- **Octets are read as a text exactly if the text has no surrogates and the octets are its form
in UTF-8.** -/
theorem ofUtf8?_eq_some_iff {bytes : Bytes} {t : Text} :
    ofUtf8? bytes = some t ↔ t.isWellFormed = true ∧ t.utf8 = bytes := by
  constructor
  · -- the reader takes at least one octet for each code point
    intro h
    induction t generalizing bytes with
    | nil =>
      cases bytes with
      | nil => exact ⟨rfl, rfl⟩
      | cons a bytes =>
        obtain ⟨c, rest, t', -, -, -, ht⟩ := ofUtf8?_cons_eq_some h
        cases ht
    | cons c t ih =>
      cases bytes with
      | nil => cases h
      | cons a bytes =>
        obtain ⟨c', rest, t', hc, hbytes, hrest, ht⟩ := ofUtf8?_cons_eq_some h
        obtain ⟨rfl, rfl⟩ := List.cons.inj ht
        obtain ⟨hwell, rfl⟩ := ih hrest
        exact ⟨isWellFormed_cons.mpr ⟨hc, hwell⟩, hbytes.symm⟩
  · rintro ⟨hwell, rfl⟩
    exact ofUtf8?_utf8 hwell

end Text

end ValidationReport
