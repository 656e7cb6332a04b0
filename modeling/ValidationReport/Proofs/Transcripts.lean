import ValidationReport.Proofs.Base64

/-!
# What the strict reader takes for base64

Octets have one base64 that is written, but more than one text that says the same:
the bits of the last letter that belong to no octet may be anything, and every
reader drops them.  Such texts are called transcripts of the octets here.

The strict reader reads every transcript, and a little more.  After complete groups
it passes over padding, as much as there is, though nothing is left that padding
could complete.  Everything else it refuses: other characters, padding in front or
in the middle, and groups with too little padding or too much.

## Main definitions

* `Base64.Transcribes` — the transcripts of octets.
* `Base64.Overpads` — complete groups with padding behind them.
* `Base64.completion` — the padding that completes a number of letters.

## Main results

* `Base64.transcribes_encode` — what is written is a transcript.
* `Base64.decode?_eq_some_iff_transcribes` — **what the strict reader reads is a
  transcript or overpadded.**
* `Base64.Overpads.not_transcribes` — and never both.
-/

namespace ValidationReport.Base64

/-! ### Letters and sextets -/

theorem lt_of_sextet? {c : Code} {n : ℕ} (h : sextet? c = some n) : n < 64 := by
  unfold sextet? at h
  split_ifs at h <;> simp only [Option.some.injEq] at h <;> omega

/-- A letter is the one of its sextet. -/
theorem letter_of_sextet? {c : Code} {n : ℕ} (h : sextet? c = some n) : letter n = c := by
  have hc := c.isLt
  apply Code.ext_val
  unfold sextet? at h
  unfold letter
  split_ifs at h with hcapital hsmall hdigit hplus hslash <;>
    simp only [Option.some.injEq] at h <;> subst h
  · rw [if_pos (by omega), Code.val_ofNat (by omega)]
    omega
  · rw [if_neg (by omega), if_pos (by omega), Code.val_ofNat (by omega)]
    omega
  · rw [if_neg (by omega), if_neg (by omega), if_pos (by omega), Code.val_ofNat (by omega)]
    omega
  · rw [hplus]
    rfl
  · rw [hslash]
    rfl

theorem lt_of_mem_filterMap_sextet? {s : Text} {n : ℕ} (h : n ∈ s.filterMap sextet?) : n < 64 := by
  obtain ⟨c, -, hn⟩ := List.mem_filterMap.mp h
  exact lt_of_sextet? hn

/-- Letters are those of the sextets that they stand for. -/
theorem map_letter_filterMap {s : Text} (hs : AllLetters s) :
    (s.filterMap sextet?).map letter = s := by
  induction s with
  | nil => rfl
  | cons c s ih =>
    obtain ⟨n, hn⟩ := Option.isSome_iff_exists.mp (hs c List.mem_cons_self)
    have hrest : AllLetters s := fun a ha => hs a (List.mem_cons_of_mem c ha)
    rw [List.filterMap_cons_some hn, List.map_cons, letter_of_sextet? hn, ih hrest]

/-! ### Transcripts -/

/-- A text transcribes octets: a letter for every sextet, and the padding that completes the last
group.  The bits of the last letter that belong to no octet may be anything. -/
inductive Transcribes : Bytes → Text → Prop
  | nil : Transcribes [] []
  | one (a : UInt8) {spare : ℕ} (h : spare < 16) :
    Transcribes [a] [letter (a.toNat / 4), letter (a.toNat % 4 * 16 + spare), pad, pad]
  | two (a b : UInt8) {spare : ℕ} (h : spare < 4) :
    Transcribes [a, b] [letter (a.toNat / 4), letter (a.toNat % 4 * 16 + b.toNat / 16),
      letter (b.toNat % 16 * 4 + spare), pad]
  | group (a b c : UInt8) {d : Bytes} {t : Text} (h : Transcribes d t) :
    Transcribes (a :: b :: c :: d)
      (letter (a.toNat / 4) :: letter (a.toNat % 4 * 16 + b.toNat / 16) ::
        letter (b.toNat % 16 * 4 + c.toNat / 64) :: letter (c.toNat % 64) :: t)

/-- Complete groups, at least one, and behind them padding for which there is no use. -/
def Overpads (d : Bytes) (t : Text) : Prop :=
  ∃ (t' : Text) (k : ℕ), Transcribes d t' ∧ d ≠ [] ∧ d.length % 3 = 0 ∧ 0 < k ∧
    t = t' ++ List.replicate k pad

/-- The number of padding characters that complete a group, for a number of letters. -/
def completion (n : ℕ) : ℕ := (4 - n % 4) % 4

/-! ### Transcripts of sextets -/

section

variable {x y z w : ℕ}

/-- Two sextets are a transcript of the octet in them. -/
theorem Transcribes.of_two (hx : x < 64) (hy : y < 64) :
    Transcribes [.ofNat (x * 4 + y / 16)] [letter x, letter y, pad, pad] := by
  have ha : (UInt8.ofNat (x * 4 + y / 16)).toNat = x * 4 + y / 16 := toNat_ofNat_of_lt (by omega)
  have h := Transcribes.one (.ofNat (x * 4 + y / 16)) (by omega : y % 16 < 16)
  rwa [ha, (by omega : (x * 4 + y / 16) / 4 = x),
    (by omega : (x * 4 + y / 16) % 4 * 16 + y % 16 = y)] at h

/-- Three sextets are a transcript of the two octets in them. -/
theorem Transcribes.of_three (hx : x < 64) (hy : y < 64) (hz : z < 64) :
    Transcribes [.ofNat (x * 4 + y / 16), .ofNat (y % 16 * 16 + z / 4)]
      [letter x, letter y, letter z, pad] := by
  have ha : (UInt8.ofNat (x * 4 + y / 16)).toNat = x * 4 + y / 16 := toNat_ofNat_of_lt (by omega)
  have hb : (UInt8.ofNat (y % 16 * 16 + z / 4)).toNat = y % 16 * 16 + z / 4 :=
    toNat_ofNat_of_lt (by omega)
  have h := Transcribes.two (.ofNat (x * 4 + y / 16)) (.ofNat (y % 16 * 16 + z / 4))
    (by omega : z % 4 < 4)
  rwa [ha, hb, (by omega : (x * 4 + y / 16) / 4 = x),
    (by omega : (x * 4 + y / 16) % 4 * 16 + (y % 16 * 16 + z / 4) / 16 = y),
    (by omega : (y % 16 * 16 + z / 4) % 16 * 4 + z % 4 = z)] at h

/-- Four sextets are a transcript of the three octets in them, in front of others. -/
theorem Transcribes.of_four (hx : x < 64) (hy : y < 64) (hz : z < 64) (hw : w < 64) {d : Bytes}
    {t : Text} (hrest : Transcribes d t) :
    Transcribes (.ofNat (x * 4 + y / 16) :: .ofNat (y % 16 * 16 + z / 4) ::
      .ofNat (z % 4 * 64 + w) :: d) (letter x :: letter y :: letter z :: letter w :: t) := by
  have ha : (UInt8.ofNat (x * 4 + y / 16)).toNat = x * 4 + y / 16 := toNat_ofNat_of_lt (by omega)
  have hb : (UInt8.ofNat (y % 16 * 16 + z / 4)).toNat = y % 16 * 16 + z / 4 :=
    toNat_ofNat_of_lt (by omega)
  have hc : (UInt8.ofNat (z % 4 * 64 + w)).toNat = z % 4 * 64 + w := toNat_ofNat_of_lt (by omega)
  have h := Transcribes.group (.ofNat (x * 4 + y / 16)) (.ofNat (y % 16 * 16 + z / 4))
    (.ofNat (z % 4 * 64 + w)) hrest
  rwa [ha, hb, hc, (by omega : (x * 4 + y / 16) / 4 = x),
    (by omega : (x * 4 + y / 16) % 4 * 16 + (y % 16 * 16 + z / 4) / 16 = y),
    (by omega : (y % 16 * 16 + z / 4) % 16 * 4 + (z % 4 * 64 + w) / 64 = z),
    (by omega : (z % 4 * 64 + w) % 64 = w)] at h

end

/-- A complete group leaves the padding to the letters after it. -/
theorem completion_add_four (n : ℕ) : completion (n + 1 + 1 + 1 + 1) = completion n := by
  unfold completion
  omega

/-- Complete groups need no padding. -/
theorem completion_of_groups {n : ℕ} (h : n % 4 = 0) : completion n = 0 := by
  unfold completion
  omega

/-- Letters of sextets with the padding that completes them are a transcript of the octets in the
sextets, unless a letter is alone in its group. -/
theorem transcribes_octets : ∀ l : List ℕ, (∀ n ∈ l, n < 64) → l.length % 4 ≠ 1 →
    Transcribes (octets l) (l.map letter ++ List.replicate (completion l.length) pad)
  | [], _, _ => .nil
  | [_], _, hlength => absurd rfl hlength
  | [x, y], hl, _ => .of_two (hl x (by simp)) (hl y (by simp))
  | [x, y, z], hl, _ => .of_three (hl x (by simp)) (hl y (by simp)) (hl z (by simp))
  | x :: y :: z :: w :: l, hl, hlength => by
    simp only [List.forall_mem_cons] at hl
    obtain ⟨hx, hy, hz, hw, hl⟩ := hl
    simp only [List.length_cons] at hlength
    have hrest := transcribes_octets l hl (by omega)
    rw [List.length_cons, List.length_cons, List.length_cons, List.length_cons,
      completion_add_four]
    exact .of_four hx hy hz hw hrest

/-- A transcript is made of sextets, and the octets are those in the sextets. -/
theorem Transcribes.exists_sextets {d : Bytes} {t : Text} (h : Transcribes d t) :
    ∃ l : List ℕ, (∀ n ∈ l, n < 64) ∧ l.length % 4 ≠ 1 ∧ octets l = d ∧
      t = l.map letter ++ List.replicate (completion l.length) pad := by
  induction h with
  | nil => exact ⟨[], by simp, by decide, rfl, rfl⟩
  | one a hspare =>
    have ha := a.toNat_lt
    refine ⟨[a.toNat / 4, a.toNat % 4 * 16 + _], ?_, by simp, ?_, rfl⟩
    · simp only [List.forall_mem_cons]
      exact ⟨by omega, by omega, by simp⟩
    · rw [octets, ofNat_eq_of_toNat (by omega : _ = a.toNat)]
  | two a b hspare =>
    have ha := a.toNat_lt
    have hb := b.toNat_lt
    refine ⟨[a.toNat / 4, a.toNat % 4 * 16 + b.toNat / 16, b.toNat % 16 * 4 + _], ?_, by simp, ?_,
      rfl⟩
    · simp only [List.forall_mem_cons]
      exact ⟨by omega, by omega, by omega, by simp⟩
    · rw [octets, ofNat_eq_of_toNat (by omega : _ = a.toNat),
        ofNat_eq_of_toNat (by omega : _ = b.toNat)]
  | group a b c h ih =>
    have ha := a.toNat_lt
    have hb := b.toNat_lt
    have hc := c.toNat_lt
    obtain ⟨l, hl, hlength, rfl, rfl⟩ := ih
    refine ⟨a.toNat / 4 :: (a.toNat % 4 * 16 + b.toNat / 16) :: (b.toNat % 16 * 4 + c.toNat / 64) ::
      (c.toNat % 64) :: l, ?_, ?_, ?_, ?_⟩
    · simp only [List.forall_mem_cons]
      exact ⟨by omega, by omega, by omega, by omega, hl⟩
    · simp only [List.length_cons]
      omega
    · rw [octets, ofNat_eq_of_toNat (by omega : _ = a.toNat),
        ofNat_eq_of_toNat (by omega : _ = b.toNat), ofNat_eq_of_toNat (by omega : _ = c.toNat)]
    · simp only [List.map_cons, List.length_cons, List.cons_append, completion_add_four]

/-- What is written is a transcript: all bits left over are zero. -/
theorem transcribes_encode : ∀ d : Bytes, Transcribes d (encode d)
  | [] => .nil
  | [a] => .one a (by decide : 0 < 16)
  | [a, b] => .two a b (by decide : 0 < 4)
  | a :: b :: c :: rest => .group a b c (transcribes_encode rest)

/-- Overpadded text is made of sextets in complete groups, and of padding. -/
theorem Overpads.exists_sextets {d : Bytes} {t : Text} (h : Overpads d t) :
    ∃ (l : List ℕ) (k : ℕ), (∀ n ∈ l, n < 64) ∧ l.length % 4 = 0 ∧ l.length ≠ 0 ∧ 0 < k ∧
      octets l = d ∧ t = l.map letter ++ List.replicate k pad := by
  obtain ⟨t', k, htranscribes, hne, hgroups, hk, rfl⟩ := h
  obtain ⟨l, hl, hone, rfl, rfl⟩ := htranscribes.exists_sextets
  have hlength := length_octets l
  have hpos : 0 < (octets l).length := List.length_pos_iff.mpr hne
  refine ⟨l, k, hl, by omega, by omega, hk, rfl, ?_⟩
  rw [completion_of_groups (by omega), List.replicate_zero, List.append_nil]

/-- Letters with padding behind them are told apart by both. -/
theorem append_pads_inj {s s' : Text} {k k' : ℕ} (hs : AllLetters s) (hs' : AllLetters s')
    (h : s ++ List.replicate k pad = s' ++ List.replicate k' pad) : s = s' ∧ k = k' := by
  have hletters := congrArg letters h
  rw [letters_append, letters_append, letters_replicate_pad, letters_replicate_pad,
    List.append_nil, List.append_nil, hs.letters_eq, hs'.letters_eq] at hletters
  have hlength := congrArg List.length h
  simp only [hletters, List.length_append, List.length_replicate] at hlength
  exact ⟨hletters, by omega⟩

/-- Overpadded base64 is no base64. -/
theorem Overpads.not_transcribes {d : Bytes} {t : Text} (h : Overpads d t) (d' : Bytes) :
    ¬ Transcribes d' t := by
  obtain ⟨l, k, hl, hgroups, -, hk, -, rfl⟩ := h.exists_sextets
  intro h'
  obtain ⟨l', hl', -, -, hsame⟩ := h'.exists_sextets
  obtain ⟨hletters, hpads⟩ := append_pads_inj (allLetters_map_letter hl)
    (allLetters_map_letter hl') hsame
  -- the letters are the same in number, so no padding is asked for by either
  have hlengths : l.length = l'.length := by simpa using congrArg List.length hletters
  rw [← hlengths, completion_of_groups hgroups] at hpads
  omega

/-- Letters and padding are characters that can be written. -/
theorem allWritten_map_letter_append {l : List ℕ} (hl : ∀ n ∈ l, n < 64) (k : ℕ) :
    ∀ c ∈ l.map letter ++ List.replicate k pad, isWritten c = true := by
  intro c hc
  rcases List.mem_append.mp hc with hletter | hpad
  · simp [isWritten, allLetters_map_letter hl c hletter]
  · rw [List.eq_of_mem_replicate hpad]
    decide

theorem Transcribes.allWritten {d : Bytes} {t : Text} (h : Transcribes d t) :
    ∀ c ∈ t, isWritten c = true := by
  obtain ⟨l, hl, -, -, rfl⟩ := h.exists_sextets
  exact allWritten_map_letter_append hl _

theorem Overpads.allWritten {d : Bytes} {t : Text} (h : Overpads d t) :
    ∀ c ∈ t, isWritten c = true := by
  obtain ⟨l, k, hl, -, -, -, -, rfl⟩ := h.exists_sextets
  exact allWritten_map_letter_append hl k

/-! ### The strict reader -/

/-- The padding that goes with a number of letters completes the last group, unless it follows
complete groups. -/
theorem isPadding_iff {n k : ℕ} :
    isPadding n k = true ↔ n % 4 ≠ 1 ∧ (k = completion n ∨ n % 4 = 0 ∧ n ≠ 0) := by
  have hcases : n % 4 = 0 ∨ n % 4 = 1 ∨ n % 4 = 2 ∨ n % 4 = 3 := by omega
  unfold isPadding completion
  rcases hcases with h | h | h | h <;> rw [h]
  · simp [or_comm]
  · simp
  · simp
  · simp

theorem Transcribes.decode?_eq {d : Bytes} {t : Text} (h : Transcribes d t) :
    decode? t = some d := by
  obtain ⟨l, hl, hone, rfl, rfl⟩ := h.exists_sextets
  exact decode?_map_letter_append hl (isPadding_iff.mpr ⟨hone, Or.inl rfl⟩)

theorem Overpads.decode?_eq {d : Bytes} {t : Text} (h : Overpads d t) : decode? t = some d := by
  obtain ⟨l, k, hl, hgroups, hne, -, rfl, rfl⟩ := h.exists_sextets
  exact decode?_map_letter_append hl (isPadding_iff.mpr ⟨by omega, Or.inr ⟨hgroups, hne⟩⟩)

/-- **What the strict reader reads is a transcript or overpadded.** -/
theorem decode?_eq_some_iff_transcribes {t : Text} {d : Bytes} :
    decode? t = some d ↔ Transcribes d t ∨ Overpads d t := by
  constructor
  · intro h
    obtain ⟨s, k, rfl, hs, hpadding, rfl⟩ := decode?_eq_some_iff.mp h
    obtain ⟨hone, hcompletes⟩ := isPadding_iff.mp hpadding
    have hlength := length_filterMap_sextet? hs
    have htranscribes := transcribes_octets (s.filterMap sextet?)
      (fun n hn => lt_of_mem_filterMap_sextet? hn) (hlength ▸ hone)
    rw [map_letter_filterMap hs, hlength] at htranscribes
    by_cases hk : k = completion s.length
    · exact Or.inl (hk ▸ htranscribes)
    · -- the padding completes nothing, so it follows complete groups
      obtain ⟨hgroups, hne⟩ := hcompletes.resolve_left hk
      rw [completion_of_groups hgroups] at hk htranscribes
      rw [List.replicate_zero, List.append_nil] at htranscribes
      have hoctets := length_octets (s.filterMap sextet?)
      rw [hlength] at hoctets
      refine Or.inr ⟨s, k, htranscribes, ?_, by omega, by omega, rfl⟩
      rw [← List.length_pos_iff]
      omega
  · rintro (h | h)
    · exact h.decode?_eq
    · exact h.decode?_eq

end ValidationReport.Base64
