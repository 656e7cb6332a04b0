import Mathlib.Data.List.TakeWhile
import ValidationReport.Base64
import ValidationReport.Proofs.Utf8

/-!
# Base64 read back

What is written is a letter for every sextet of the octets, and then the padding
that completes the last group.  Seen so, both readers undo the writer for the same
reason: they take the letters for their sextets and come upon the padding where
they expect it.

## Main definitions

* `Base64.sextets`, `Base64.padding` — the sextets of octets, and the number of
  padding characters behind their letters.
* `Base64.isWritten` — a letter or a padding character.
* `Base64.letters`, `Base64.AllLetters` — the letters in a text, and nothing else.

## Main results

* `Base64.encode_eq` — letters and padding, in this order.
* `Base64.octets_sextets` — octets are put together from their sextets.
* `Base64.decode?_eq_some_iff` — the texts that the strict reader reads.
* `Base64.decode?_encode`, `Base64.decodeLenient?_encode` — **both readers undo the
  writer.**
-/

namespace ValidationReport.Base64

/-! ### Letters -/

/-- A letter or a padding character. -/
def isWritten (c : Code) : Bool := (sextet? c).isSome || c == pad

theorem sextet?_letter {n : ℕ} (h : n < 64) : sextet? (letter n) = some n := by
  have hall : ∀ n < 64, sextet? (letter n) = some n := by decide
  exact hall n h

theorem sextet?_pad : sextet? pad = none := by decide

theorem isWritten_iff {c : Code} : isWritten c = true ↔
    0x41 ≤ c.val ∧ c.val ≤ 0x5A ∨ 0x61 ≤ c.val ∧ c.val ≤ 0x7A ∨ 0x30 ≤ c.val ∧ c.val ≤ 0x39 ∨
      c.val = 0x2B ∨ c.val = 0x2F ∨ c.val = 0x3D := by
  have hpad : c = pad ↔ c.val = 0x3D := ⟨fun h => h ▸ rfl, fun h => Code.ext_val h⟩
  unfold isWritten sextet?
  split_ifs <;> simp [hpad] <;> omega

/-! ### Sextets -/

/-- The sextets of octets: four for every three, and two or three for what is left. -/
def sextets : Bytes → List ℕ
  | [] => []
  | [a] => [a.toNat / 4, a.toNat % 4 * 16]
  | [a, b] => [a.toNat / 4, a.toNat % 4 * 16 + b.toNat / 16, b.toNat % 16 * 4]
  | a :: b :: c :: rest =>
    a.toNat / 4 :: (a.toNat % 4 * 16 + b.toNat / 16) :: (b.toNat % 16 * 4 + c.toNat / 64) ::
      (c.toNat % 64) :: sextets rest

/-- The number of padding characters that complete the last group. -/
def padding : Bytes → ℕ
  | [] => 0
  | [_] => 2
  | [_, _] => 1
  | _ :: _ :: _ :: rest => padding rest

theorem sextets_lt : ∀ {d : Bytes}, ∀ n ∈ sextets d, n < 64
  | [] => by simp [sextets]
  | [a] => by
    have ha := a.toNat_lt
    simp only [sextets, List.forall_mem_cons]
    exact ⟨by omega, by omega, by simp⟩
  | [a, b] => by
    have ha := a.toNat_lt
    have hb := b.toNat_lt
    simp only [sextets, List.forall_mem_cons]
    exact ⟨by omega, by omega, by omega, by simp⟩
  | a :: b :: c :: rest => by
    have ha := a.toNat_lt
    have hb := b.toNat_lt
    have hc := c.toNat_lt
    simp only [sextets, List.forall_mem_cons]
    exact ⟨by omega, by omega, by omega, by omega, sextets_lt⟩

/-- Letters and padding together fill groups of four. -/
theorem length_sextets_cases : ∀ d : Bytes,
    (sextets d).length % 4 = 0 ∧ padding d = 0 ∨ (sextets d).length % 4 = 2 ∧ padding d = 2 ∨
      (sextets d).length % 4 = 3 ∧ padding d = 1
  | [] => by simp [sextets, padding]
  | [_] => by simp [sextets, padding]
  | [_, _] => by simp [sextets, padding]
  | _ :: _ :: _ :: rest => by
    have ih := length_sextets_cases rest
    simp only [sextets, padding, List.length_cons]
    omega

/-- What is written is a letter for every sextet, and then the padding. -/
theorem encode_eq : ∀ d : Bytes,
    encode d = (sextets d).map letter ++ List.replicate (padding d) pad
  | [] => rfl
  | [_] => rfl
  | [_, _] => rfl
  | _ :: _ :: _ :: rest => by
    simp only [encode, sextets, padding, List.map_cons, List.cons_append, encode_eq rest]

/-- Octets are put together from their sextets. -/
theorem octets_sextets : ∀ d : Bytes, octets (sextets d) = d
  | [] => rfl
  | [a] => by
    have ha := a.toNat_lt
    rw [sextets, octets, ofNat_eq_of_toNat (by omega : _ = a.toNat)]
  | [a, b] => by
    have ha := a.toNat_lt
    have hb := b.toNat_lt
    rw [sextets, octets, ofNat_eq_of_toNat (by omega : _ = a.toNat),
      ofNat_eq_of_toNat (by omega : _ = b.toNat)]
  | a :: b :: c :: rest => by
    have ha := a.toNat_lt
    have hb := b.toNat_lt
    have hc := c.toNat_lt
    rw [sextets, octets, ofNat_eq_of_toNat (by omega : _ = a.toNat),
      ofNat_eq_of_toNat (by omega : _ = b.toNat), ofNat_eq_of_toNat (by omega : _ = c.toNat),
      octets_sextets rest]

/-- Nothing but letters and padding characters is written. -/
theorem isWritten_of_mem_encode {d : Bytes} {c : Code} (h : c ∈ encode d) :
    isWritten c = true := by
  rw [encode_eq, List.mem_append] at h
  rcases h with h | h
  · obtain ⟨n, hn, rfl⟩ := List.mem_map.mp h
    simp [isWritten, sextet?_letter (sextets_lt n hn)]
  · rw [List.eq_of_mem_replicate h]
    decide

/-! ### Letters in a text -/

/-- The letters of a text, less everything that stands for no sextet. -/
def letters (t : Text) : Text := t.filter fun c => (sextet? c).isSome

/-- There is nothing but letters. -/
def AllLetters (t : Text) : Prop := ∀ c ∈ t, (sextet? c).isSome = true

theorem letters_append (s t : Text) : letters (s ++ t) = letters s ++ letters t :=
  List.filter_append s t

theorem AllLetters.letters_eq {t : Text} (h : AllLetters t) : letters t = t :=
  List.filter_eq_self.mpr h

/-- Padding has no letters. -/
theorem letters_replicate_pad (k : ℕ) : letters (List.replicate k pad) = [] := by
  unfold letters
  rw [List.filter_eq_nil_iff]
  intro c hc
  rw [List.eq_of_mem_replicate hc, sextet?_pad]
  decide

theorem length_filterMap_sextet? {t : Text} (h : AllLetters t) :
    (t.filterMap sextet?).length = t.length := by
  induction t with
  | nil => rfl
  | cons c t ih =>
    obtain ⟨n, hn⟩ := Option.isSome_iff_exists.mp (h c List.mem_cons_self)
    rw [List.filterMap_cons_some hn, List.length_cons, List.length_cons,
      ih fun d hd => h d (List.mem_cons_of_mem c hd)]

/-- The letters of sextets stand for them. -/
theorem allLetters_map_letter {l : List ℕ} (h : ∀ n ∈ l, n < 64) : AllLetters (l.map letter) := by
  intro c hc
  obtain ⟨n, hn, rfl⟩ := List.mem_map.mp hc
  rw [sextet?_letter (h n hn)]
  rfl

theorem filterMap_map_letter {l : List ℕ} (h : ∀ n ∈ l, n < 64) :
    (l.map letter).filterMap sextet? = l := by
  have hback : ∀ n ∈ l, (sextet? ∘ letter) n = some n := fun n hn => sextet?_letter (h n hn)
  rw [List.filterMap_map, List.filterMap_congr hback, List.filterMap_some]

/-- Four sextets hold three octets, and of a group begun those count that are complete. -/
theorem length_octets : ∀ l : List ℕ, (octets l).length = l.length * 3 / 4
  | [] => by simp [octets]
  | [_] => by simp [octets]
  | [_, _] => by simp [octets]
  | [_, _, _] => by simp [octets]
  | _ :: _ :: _ :: _ :: rest => by
    simp only [octets, List.length_cons, length_octets rest]
    omega

/-! ### The strict reader -/

/-- **What the strict reader reads is letters, and then the padding that goes with their
number.** -/
theorem decode?_eq_some_iff {t : Text} {d : Bytes} : decode? t = some d ↔
    ∃ (s : Text) (k : ℕ), t = s ++ List.replicate k pad ∧ AllLetters s ∧
      isPadding s.length k = true ∧ octets (s.filterMap sextet?) = d := by
  constructor
  · intro h
    unfold decode? at h
    simp only at h
    split at h
    · next hread =>
      rw [Bool.and_eq_true, List.all_eq_true] at hread
      obtain ⟨hpads, hpadding⟩ := hread
      have hrest : t.dropWhile (fun c => (sextet? c).isSome) =
          List.replicate (t.dropWhile fun c => (sextet? c).isSome).length pad :=
        List.eq_replicate_iff.mpr ⟨rfl, fun c hc => of_decide_eq_true (hpads c hc)⟩
      have hletters : AllLetters (t.takeWhile fun c => (sextet? c).isSome) := fun c hc =>
        List.mem_takeWhile_imp (p := fun c => (sextet? c).isSome) hc
      refine ⟨_, _, ?_, hletters, hpadding, Option.some.inj h⟩
      rw [← hrest, List.takeWhile_append_dropWhile]
    · cases h
  · rintro ⟨s, k, rfl, hs, hpadding, rfl⟩
    have hbody : (s ++ List.replicate k pad).takeWhile (fun c => (sextet? c).isSome) = s := by
      rw [List.takeWhile_append_of_pos hs, List.takeWhile_replicate]
      simp [sextet?_pad]
    have hrest : (s ++ List.replicate k pad).dropWhile (fun c => (sextet? c).isSome) =
        List.replicate k pad := by
      rw [List.dropWhile_append_of_pos hs, List.dropWhile_replicate]
      simp [sextet?_pad]
    unfold decode?
    rw [hbody, hrest]
    simp [hpadding]

/-- Letters of sextets are read for the octets in them, with any padding that goes with them. -/
theorem decode?_map_letter_append {l : List ℕ} {k : ℕ} (hl : ∀ n ∈ l, n < 64)
    (hpadding : isPadding l.length k = true) :
    decode? (l.map letter ++ List.replicate k pad) = some (octets l) := by
  apply decode?_eq_some_iff.mpr
  refine ⟨l.map letter, k, rfl, allLetters_map_letter hl, ?_, ?_⟩
  · rwa [List.length_map]
  · rw [filterMap_map_letter hl]

/-- The padding that is written goes with the number of letters. -/
theorem isPadding_padding (d : Bytes) : isPadding (sextets d).length (padding d) = true := by
  unfold isPadding
  rcases length_sextets_cases d with ⟨hlength, h⟩ | ⟨hlength, h⟩ | ⟨hlength, h⟩ <;>
    simp [hlength, h]

/-- **The strict reader undoes the writer.** -/
theorem decode?_encode (d : Bytes) : decode? (encode d) = some d := by
  rw [encode_eq, decode?_map_letter_append sextets_lt (isPadding_padding d), octets_sextets]

/-! ### The lenient reader -/

/-- The lenient reader takes letters for their sextets. -/
theorem lenientSextets?_append (rest : Text) : ∀ {s : Text}, AllLetters s → ∀ place < 4,
    lenientSextets? place 0 (s ++ rest) =
      (lenientSextets? ((place + s.length) % 4) 0 rest).map (s.filterMap sextet? ++ ·) := by
  intro s
  induction s with
  | nil =>
    intro _ place hplace
    simp [Nat.mod_eq_of_lt hplace]
  | cons c s ih =>
    intro hs place hplace
    obtain ⟨n, hn⟩ := Option.isSome_iff_exists.mp (hs c List.mem_cons_self)
    have hpad : c ≠ pad := by
      rintro rfl
      rw [sextet?_pad] at hn
      cases hn
    have hplaces : ((place + 1) % 4 + s.length) % 4 = (place + (s.length + 1)) % 4 := by omega
    rw [List.cons_append, lenientSextets?, if_neg hpad, hn]
    simp only
    rw [ih (fun d hd => hs d (List.mem_cons_of_mem c hd)) _ (Nat.mod_lt _ (by omega)),
      Option.map_map, List.length_cons, hplaces, List.filterMap_cons_some hn]
    rfl

/-- Padding adds no sextets, and it does not make up for a letter that is alone in its group. -/
theorem lenientSextets?_replicate_pad {place : ℕ} {l : List ℕ} : ∀ {k padding : ℕ},
    lenientSextets? place padding (List.replicate k pad) = some l → l = [] ∧ place ≠ 1 := by
  intro k
  induction k with
  | zero =>
    intro padding h
    simp only [List.replicate_zero, lenientSextets?] at h
    split at h
    · next hplace => exact ⟨(Option.some.inj h).symm, by omega⟩
    · cases h
  | succ k ih =>
    intro padding h
    rw [List.replicate_succ, lenientSextets?, if_pos rfl] at h
    split at h
    · exact ih h
    · next hplace =>
      split at h
      · exact ⟨(Option.some.inj h).symm, by omega⟩
      · exact ih h

/-- Padding after complete groups is passed over. -/
theorem lenientSextets?_zero_replicate_pad (k : ℕ) :
    lenientSextets? 0 0 (List.replicate k pad) = some [] := by
  induction k with
  | zero => rfl
  | succ k ih => rw [List.replicate_succ, lenientSextets?, if_pos rfl, if_pos (by decide), ih]

/-- Padding that goes with the number of letters completes the last group. -/
theorem lenientSextets?_of_isPadding {n k : ℕ} (h : isPadding n k = true) :
    lenientSextets? (n % 4) 0 (List.replicate k pad) = some [] := by
  unfold isPadding at h
  split at h
  · next hn => rw [hn, lenientSextets?_zero_replicate_pad]
  · next hn =>
    rw [hn, beq_iff_eq.mp h]
    rfl
  · next hn =>
    rw [hn, beq_iff_eq.mp h]
    rfl
  · cases h

/-- **The lenient reader undoes the writer.** -/
theorem decodeLenient?_encode (d : Bytes) : decodeLenient? (encode d) = some d := by
  have hascii : (encode d).all (fun c => c.val < 0x80) = true := by
    rw [List.all_eq_true]
    intro c hc
    have hwritten := isWritten_iff.mp (isWritten_of_mem_encode hc)
    rw [decide_eq_true_eq]
    omega
  have hend : lenientSextets? (((sextets d).map letter).length % 4) 0
      (List.replicate (padding d) pad) = some [] := by
    rw [List.length_map]
    exact lenientSextets?_of_isPadding (isPadding_padding d)
  have hread : lenientSextets? 0 0 (encode d) = some (sextets d) := by
    rw [encode_eq, lenientSextets?_append _ (allLetters_map_letter sextets_lt) 0 (by decide),
      Nat.zero_add, hend, filterMap_map_letter sextets_lt]
    simp
  unfold decodeLenient?
  rw [if_pos hascii, hread, Option.map_some, octets_sextets]

end ValidationReport.Base64
