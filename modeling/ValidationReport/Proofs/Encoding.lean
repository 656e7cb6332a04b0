import Mathlib.Data.Nat.Digits.Lemmas
import ValidationReport.Der.Element
import ValidationReport.Proofs.Utf8

/-!
# Elements read back

The distinguished encoding leaves no choice, and the readers leave none either.  What
a reader takes from the front of octets is the encoding of what it gives, and it gives
this of every encoding, whatever follows.  This is told for digits first, then for the
parts of an element, and from them for the element.

Where an encoding has two forms, the number decides which one it has.  Tag numbers
from 31 on and lengths from 128 on are written in digits, seven bits or an octet each,
and of all digits that denote a number those count that do not begin with zero.

## Main definitions

* `ofDigits` — the number that digits denote.
* `Tag.IsEncodable`, `Element.IsEncodable` — what is not too large to be encoded.

## Main results

* `digits_eq_iff` — the digits of a number, by what they denote.
* `tag?_eq_some_iff`, `length?_eq_some_iff` — the two parts in front of a content.
* `element?_eq_some_iff` — **an element is read exactly if its encoding comes first.**
* `elements?_eq_some_iff`, `single?_eq_some_iff` — the same of several elements, and of
  one alone.
* `Element.IsEncodable.of_parts` — what stands inside an element can be encoded if the
  element can.
-/

namespace ValidationReport.Der

/-! ### Digits -/

/-- The number of digits that follow the digits of another number. -/
def ofDigits (base high : ℕ) (ds : List ℕ) : ℕ := ds.foldl (fun n d => n * base + d) high

section Digits

variable {base : ℕ}

theorem ofDigits_cons (base high d : ℕ) (ds : List ℕ) :
    ofDigits base high (d :: ds) = ofDigits base (high * base + d) ds := rfl

/-- The library counts digits from the other end. -/
theorem ofDigits_eq_ofDigits_reverse (base : ℕ) (ds : List ℕ) :
    ofDigits base 0 ds = Nat.ofDigits base ds.reverse := by
  rw [Nat.ofDigits_eq_foldr, List.foldr_reverse, ofDigits]
  simp only [Nat.cast_id, add_comm, mul_comm]

theorem digitsOnto_eq (hbase : 1 < base) : ∀ {fuel n : ℕ} {rest : List ℕ}, n < fuel → 0 < n →
    digitsOnto base fuel n rest = (Nat.digits base n).reverse ++ rest := by
  intro fuel
  induction fuel with
  | zero => intro n rest h; omega
  | succ fuel ih =>
    intro n rest h hn
    simp only [digitsOnto]
    split
    · next hlt =>
      rw [Nat.digits_of_lt base n hn.ne' hlt]
      rfl
    · next hle =>
      have hdiv : 0 < n / base := Nat.div_pos (by omega) (by omega)
      have hsmaller : n / base < n := Nat.div_lt_self hn hbase
      rw [ih (by omega) hdiv, Nat.digits_def' hbase hn, List.reverse_cons, List.append_assoc]
      rfl

theorem digits_eq_reverse (hbase : 1 < base) {n : ℕ} (hn : 0 < n) :
    digits base n = (Nat.digits base n).reverse := by
  unfold digits
  rw [digitsOnto_eq hbase (Nat.lt_succ_self n) hn, List.append_nil]

/-- **The digits of a number are the ones that denote it and do not begin with zero.** -/
theorem digits_eq_iff (hbase : 1 < base) {n : ℕ} (hn : 0 < n) {ds : List ℕ} :
    digits base n = ds ↔
      (∀ d ∈ ds, d < base) ∧ ds.head? ≠ some 0 ∧ ofDigits base 0 ds = n := by
  rw [digits_eq_reverse hbase hn, ofDigits_eq_ofDigits_reverse]
  constructor
  · rintro rfl
    refine ⟨fun d hd => Nat.digits_lt_base hbase (List.mem_reverse.mp hd), ?_, ?_⟩
    · rw [List.head?_reverse]
      intro hzero
      exact Nat.getLast_digit_ne_zero base hn.ne' (List.getLast_of_getLast?_eq_some hzero)
    · rw [List.reverse_reverse, Nat.ofDigits_digits]
  · rintro ⟨hlt, hhead, rfl⟩
    rw [Nat.digits_ofDigits base hbase, List.reverse_reverse]
    · exact fun d hd => hlt d (List.mem_reverse.mp hd)
    · intro hne hzero
      apply hhead
      rw [← List.getLast?_reverse, List.getLast?_eq_some_getLast hne, hzero]

theorem length_digits_le_iff (hbase : 1 < base) {n : ℕ} (hn : 0 < n) (k : ℕ) :
    (digits base n).length ≤ k ↔ n < base ^ k := by
  rw [digits_eq_reverse hbase hn, List.length_reverse, Nat.digits_length_le_iff hbase]

end Digits

/-! ### Tags -/

theorem encodeChain_cons {d : ℕ} {ds : List ℕ} (hne : ds ≠ []) :
    encodeChain (d :: ds) = .ofNat (0x80 + d) :: encodeChain ds := by
  cases ds with
  | nil => exact absurd rfl hne
  | cons d' ds => rfl

/-- Chains of seven-bit groups are told from what follows. -/
theorem chain?_eq_some_iff {high n : ℕ} {bytes rest : Bytes} :
    chain? high bytes = some (n, rest) ↔ ∃ ds : List ℕ, ds ≠ [] ∧ (∀ d ∈ ds, d < 0x80) ∧
      bytes = encodeChain ds ++ rest ∧ ofDigits 0x80 high ds = n := by
  constructor
  · intro h
    induction bytes generalizing high with
    | nil => cases h
    | cons b bytes ih =>
      have hb := b.toNat_lt
      unfold chain? at h
      split at h
      · next hlast =>
        cases h
        refine ⟨[b.toNat], List.cons_ne_nil _ _, by simpa using hlast, ?_, rfl⟩
        show b :: rest = .ofNat b.toNat :: rest
        rw [UInt8.ofNat_toNat]
      · next hmore =>
        -- the high bit says that a group follows, and the other seven are a digit
        obtain ⟨ds, hne, hlt, hbytes, hn⟩ := ih h
        refine ⟨(b.toNat - 0x80) :: ds, List.cons_ne_nil _ _, ?_, ?_, ?_⟩
        · exact List.forall_mem_cons.mpr ⟨by omega, hlt⟩
        · have hoctet : UInt8.ofNat (0x80 + (b.toNat - 0x80)) = b :=
            ofNat_eq_of_toNat (by omega)
          rw [encodeChain_cons hne, hoctet, hbytes]
          rfl
        · rw [ofDigits_cons, hn]
  · rintro ⟨ds, hne, hlt, rfl, hn⟩
    induction ds generalizing high with
    | nil => exact absurd rfl hne
    | cons d ds ih =>
      obtain ⟨hd, hds⟩ := List.forall_mem_cons.mp hlt
      cases ds with
      | nil =>
        have hval : (UInt8.ofNat d).toNat = d := toNat_ofNat_of_lt (by omega)
        show chain? high (.ofNat d :: rest) = _
        unfold chain?
        rw [hval, if_pos hd]
        exact congrArg (fun n => some (n, rest)) hn
      | cons d' ds =>
        have hne : d' :: ds ≠ [] := List.cons_ne_nil _ _
        have hval : (UInt8.ofNat (0x80 + d)).toNat = 0x80 + d := toNat_ofNat_of_lt (by omega)
        rw [encodeChain_cons hne, List.cons_append, chain?, hval, if_neg (by omega),
          Nat.add_sub_cancel_left]
        exact ih hne hds hn

/-- A chain begins with an empty group if its digits begin with zero. -/
theorem head?_encodeChain {ds : List ℕ} {rest : Bytes} (hne : ds ≠ []) (hlt : ∀ d ∈ ds, d < 0x80)
    (hpos : 0 < ofDigits 0x80 0 ds) :
    (encodeChain ds ++ rest).head? = some 0x80 ↔ ds.head? = some 0 := by
  obtain ⟨d, ds, rfl⟩ := List.exists_cons_of_ne_nil hne
  have hd : d < 0x80 := hlt d List.mem_cons_self
  have hoctet : ∀ n < 0x100, UInt8.ofNat n = 0x80 ↔ n = 0x80 := by
    intro n hn
    rw [← UInt8.toNat_inj, toNat_ofNat_of_lt hn]
    rfl
  rw [List.head?_cons, Option.some_inj]
  cases ds with
  | nil =>
    rw [ofDigits_cons, ofDigits, List.foldl_nil] at hpos
    show some (UInt8.ofNat d) = some 0x80 ↔ d = 0
    rw [Option.some_inj, hoctet d (by omega)]
    omega
  | cons d' ds =>
    rw [encodeChain_cons (List.cons_ne_nil _ _), List.cons_append, List.head?_cons,
      Option.some_inj, hoctet _ (by omega)]
    omega

/-- A number has one chain that does not begin with an empty group. -/
theorem chain?_zero_eq_some_iff {n : ℕ} (hn : 0 < n) {bytes rest : Bytes} :
    bytes.head? ≠ some 0x80 ∧ chain? 0 bytes = some (n, rest) ↔
      bytes = encodeChain (digits 0x80 n) ++ rest := by
  constructor
  · rintro ⟨hhead, hchain⟩
    obtain ⟨ds, hne, hlt, rfl, hds⟩ := chain?_eq_some_iff.mp hchain
    rw [ne_eq, head?_encodeChain hne hlt (by omega)] at hhead
    rw [(digits_eq_iff (by decide) hn).mpr ⟨hlt, hhead, hds⟩]
  · rintro rfl
    obtain ⟨hlt, hhead, hds⟩ := (digits_eq_iff (by decide) hn).mp (rfl : digits 0x80 n = _)
    have hne : digits 0x80 n ≠ [] := by
      intro hnil
      rw [hnil, ofDigits, List.foldl_nil] at hds
      omega
    rw [ne_eq, head?_encodeChain hne hlt (by omega)]
    exact ⟨hhead, chain?_eq_some_iff.mpr ⟨_, hne, hlt, rfl, hds⟩⟩

/-- A tag whose class is one of four and whose number has at most thirty-two bits. -/
def Tag.IsEncodable (t : Tag) : Prop := t.cls < 4 ∧ t.number < Nat.pow 2 32

instance (t : Tag) : Decidable t.IsEncodable := inferInstanceAs (Decidable (_ ∧ _))

/-- The number of the first octet of a tag that ends in some five bits. -/
def Tag.lead (t : Tag) (low : ℕ) : ℕ := t.cls * 0x40 + (if t.constructed then 0x20 else 0) + low

theorem Tag.encode_eq (t : Tag) : t.encode =
    if t.number < 31 then [.ofNat (t.lead t.number)]
    else .ofNat (t.lead 31) :: encodeChain (digits 0x80 t.number) := rfl

/-- The parts of a first octet are told from its number. -/
theorem Tag.octet_eq_lead_iff {t : Tag} {low : ℕ} {b : UInt8} (hcls : t.cls < 4)
    (hlow : low < 0x20) : UInt8.ofNat (t.lead low) = b ↔
      t.cls = b.toNat / 0x40 ∧ t.constructed = (b.toNat / 0x20 % 2 == 1) ∧
        low = b.toNat % 0x20 := by
  have hb := b.toNat_lt
  have hlead : t.lead low < 0x100 := by
    unfold lead
    split <;> omega
  -- class, form and the low bits are what division leaves of the octet
  rw [← UInt8.toNat_inj, toNat_ofNat_of_lt hlead, Bool.eq_iff_iff, beq_iff_eq]
  obtain ⟨cls, constructed, number⟩ := t
  cases constructed <;> simp only [lead, if_true, Bool.false_eq_true, if_false,
    false_iff, true_iff] at * <;> omega

theorem tag?_cons_of_ne {b : UInt8} (h : b.toNat % 0x20 ≠ 31) (bytes : Bytes) :
    tag? (b :: bytes) =
      some (⟨b.toNat / 0x40, b.toNat / 0x20 % 2 == 1, b.toNat % 0x20⟩, bytes) :=
  if_pos h

/-- A tag whose number does not fit into its first octet. -/
theorem tag?_cons_of_eq {b : UInt8} (h : b.toNat % 0x20 = 31) {t : Tag} {bytes rest : Bytes} :
    tag? (b :: bytes) = some (t, rest) ↔
      t.cls = b.toNat / 0x40 ∧ t.constructed = (b.toNat / 0x20 % 2 == 1) ∧
        (31 ≤ t.number ∧ t.number < Nat.pow 2 32) ∧
          bytes = encodeChain (digits 0x80 t.number) ++ rest := by
  rw [tag?, if_neg (not_not.mpr h), Option.ite_none_left_eq_some]
  constructor
  · rintro ⟨hhead, hread⟩
    split at hread
    · next number bytes' hchain =>
      obtain ⟨hnumber, htag⟩ := Option.ite_none_right_eq_some.mp hread
      obtain ⟨rfl, rfl⟩ := Prod.mk.inj (Option.some.inj htag)
      have hpos : 0 < number := by omega
      exact ⟨rfl, rfl, hnumber, (chain?_zero_eq_some_iff hpos).mp ⟨hhead, hchain⟩⟩
    · cases hread
  · rintro ⟨hcls, hconstructed, hnumber, hbytes⟩
    obtain ⟨hhead, hchain⟩ := (chain?_zero_eq_some_iff (by omega)).mpr hbytes
    refine ⟨hhead, ?_⟩
    rw [hchain, ← hcls, ← hconstructed]
    exact if_pos hnumber

/-- **The tag in front of octets.** -/
theorem tag?_eq_some_iff {t : Tag} {bytes rest : Bytes} :
    tag? bytes = some (t, rest) ↔ t.IsEncodable ∧ bytes = t.encode ++ rest := by
  rw [Tag.encode_eq]
  constructor
  · intro h
    cases bytes with
    | nil => cases h
    | cons b bytes =>
      have hb := b.toNat_lt
      -- five bits that are all set announce digits
      rcases eq_or_ne (b.toNat % 0x20) 31 with hlong | hshort
      · obtain ⟨hcls, hconstructed, hnumber, rfl⟩ := (tag?_cons_of_eq hlong).mp h
        have hlead : UInt8.ofNat (t.lead 31) = b :=
          (Tag.octet_eq_lead_iff (by omega) (by decide)).mpr ⟨hcls, hconstructed, hlong.symm⟩
        rw [if_neg (Nat.not_lt.mpr hnumber.1), hlead]
        exact ⟨⟨by omega, hnumber.2⟩, rfl⟩
      · rw [tag?_cons_of_ne hshort, Option.some_inj, Prod.mk.injEq] at h
        obtain ⟨rfl, rfl⟩ := h
        have hcls : b.toNat / 0x40 < 4 := by omega
        have hlow : b.toNat % 0x20 < 31 := by omega
        rw [if_pos hlow, (Tag.octet_eq_lead_iff hcls (by omega)).mpr ⟨rfl, rfl, rfl⟩]
        exact ⟨⟨hcls, lt_trans hlow (by decide)⟩, rfl⟩
  · rintro ⟨⟨hcls, hnumber⟩, rfl⟩
    split
    · next hshort =>
      have hlt : t.number < 0x20 := by omega
      obtain ⟨hcls', hconstructed, hlow⟩ := (Tag.octet_eq_lead_iff hcls hlt).mp rfl
      rw [List.singleton_append, tag?_cons_of_ne (by omega), ← hcls', ← hconstructed, ← hlow]
    · next hlong =>
      obtain ⟨hcls', hconstructed, hlow⟩ :=
        (Tag.octet_eq_lead_iff hcls (by decide : 31 < 0x20)).mp rfl
      exact (tag?_cons_of_eq hlow.symm).mpr
        ⟨hcls', hconstructed, ⟨Nat.not_lt.mp hlong, hnumber⟩, rfl⟩

/-! ### Lengths -/

theorem foldl_octets (bytes : Bytes) :
    bytes.foldl (fun n b => n * 0x100 + b.toNat) 0 = ofDigits 0x100 0 (bytes.map UInt8.toNat) := by
  rw [ofDigits, List.foldl_map]

/-- Octets are known by their numbers. -/
theorem map_ofNat_eq_iff {ds : List ℕ} (hlt : ∀ d ∈ ds, d < 0x100) {bytes : Bytes} :
    ds.map UInt8.ofNat = bytes ↔ ds = bytes.map UInt8.toNat := by
  constructor
  · rintro rfl
    rw [List.map_map]
    exact (List.map_id ds).symm.trans (List.map_congr_left fun d hd =>
      (toNat_ofNat_of_lt (hlt d hd)).symm)
  · rintro rfl
    rw [List.map_map]
    exact (List.map_congr_left fun b _ => UInt8.ofNat_toNat).trans (List.map_id bytes)

/-- The octets of a number are the ones that denote it and do not begin with zero. -/
theorem octets_digits_eq_iff {n : ℕ} (hn : 0 < n) {bytes : Bytes} :
    (digits 0x100 n).map UInt8.ofNat = bytes ↔
      bytes.head? ≠ some 0 ∧ bytes.foldl (fun n b => n * 0x100 + b.toNat) 0 = n := by
  obtain ⟨hlt, -, -⟩ := (digits_eq_iff (by decide) hn).mp (rfl : digits 0x100 n = _)
  have hhead : (bytes.map UInt8.toNat).head? ≠ some 0 ↔ bytes.head? ≠ some 0 := by
    cases bytes with
    | nil => simp
    | cons b bytes => simp [← UInt8.toNat_inj]
  rw [map_ofNat_eq_iff hlt, digits_eq_iff (by decide) hn, hhead, foldl_octets]
  refine and_iff_right fun d hd => ?_
  obtain ⟨b, -, rfl⟩ := List.mem_map.mp hd
  exact b.toNat_lt

/-- The octets of a number are told from what follows if they are counted. -/
theorem take_eq_octets_iff {n : ℕ} (hn : 0 < n) {count : ℕ} {bytes rest : Bytes} :
    ((count ≠ 0 ∧ count ≤ bytes.length ∧ bytes.head? ≠ some 0) ∧
        (bytes.take count).foldl (fun n b => n * 0x100 + b.toNat) 0 = n) ∧
        bytes.drop count = rest ↔
      count = (digits 0x100 n).length ∧ bytes = (digits 0x100 n).map UInt8.ofNat ++ rest := by
  constructor
  · rintro ⟨⟨⟨hcount, hlength, hhead⟩, hvalue⟩, rfl⟩
    -- what is taken are the digits of the number, so there are as many as it has
    have hdigits : (digits 0x100 n).map UInt8.ofNat = bytes.take count := by
      refine (octets_digits_eq_iff hn).mpr ⟨?_, hvalue⟩
      rwa [List.head?_take, if_neg hcount]
    have hlen : (digits 0x100 n).length = count := by
      rw [← List.length_map (f := UInt8.ofNat), hdigits, List.length_take, min_eq_left hlength]
    rw [hdigits, List.take_append_drop]
    exact ⟨hlen.symm, rfl⟩
  · rintro ⟨rfl, rfl⟩
    obtain ⟨hhead, hvalue⟩ := (octets_digits_eq_iff hn).mp (rfl : (digits 0x100 n).map _ = _)
    have hlen : (digits 0x100 n).length = ((digits 0x100 n).map UInt8.ofNat).length :=
      (List.length_map _).symm
    have hne : (digits 0x100 n).map UInt8.ofNat ≠ [] := by
      intro hnil
      rw [hnil] at hvalue
      exact hn.ne hvalue
    rw [hlen, List.take_left, List.drop_left, List.head?_append_of_ne_nil _ hne]
    refine ⟨⟨⟨?_, ?_, hhead⟩, hvalue⟩, rfl⟩
    · exact fun hzero => hne (List.length_eq_zero_iff.mp hzero)
    · rw [List.length_append]
      exact Nat.le_add_right _ _

/-- At most 127 octets tell a length. -/
theorem length_digits_le_iff_lt {n : ℕ} (hn : 0 < n) :
    (digits 0x100 n).length ≤ 127 ↔ n < Nat.pow 0x100 127 :=
  length_digits_le_iff (by decide) hn 127

theorem length?_cons_of_lt {b : UInt8} (h : b.toNat < 0x80) (rest : Bytes) :
    length? (b :: rest) = some (b.toNat, rest) := by
  rw [length?, if_pos h]

/-- A length after the octet that counts its octets. -/
theorem length?_cons_of_le {b : UInt8} (h : 0x80 ≤ b.toNat) {n : ℕ} {bytes rest : Bytes} :
    length? (b :: bytes) = some (n, rest) ↔ 0x80 ≤ n ∧ b.toNat - 0x80 = (digits 0x100 n).length ∧
      bytes = (digits 0x100 n).map UInt8.ofNat ++ rest := by
  rw [length?, if_neg (Nat.not_lt.mpr h)]
  simp only [Option.ite_none_left_eq_some, not_or, not_lt, Option.some_inj, Prod.mk.injEq]
  constructor
  · rintro ⟨⟨hcount, hlength, hhead, hlarge⟩, rfl, hrest⟩
    exact ⟨hlarge, (take_eq_octets_iff (by omega)).mp ⟨⟨⟨hcount, hlength, hhead⟩, rfl⟩, hrest⟩⟩
  · rintro ⟨hlarge, hoctets⟩
    obtain ⟨⟨⟨hcount, hlength, hhead⟩, hvalue⟩, hrest⟩ :=
      (take_eq_octets_iff (by omega)).mpr hoctets
    exact ⟨⟨hcount, hlength, hhead, hvalue ▸ hlarge⟩, hvalue, hrest⟩

/-- **The length in front of octets.** -/
theorem length?_eq_some_iff {n : ℕ} {bytes rest : Bytes} :
    length? bytes = some (n, rest) ↔
      n < Nat.pow 0x100 127 ∧ bytes = encodeLength n ++ rest := by
  rw [encodeLength]
  constructor
  · intro h
    cases bytes with
    | nil => cases h
    | cons b bytes =>
      have hb := b.toNat_lt
      rcases Nat.lt_or_ge b.toNat 0x80 with hshort | hlong
      · rw [length?_cons_of_lt hshort, Option.some_inj, Prod.mk.injEq] at h
        obtain ⟨rfl, rfl⟩ := h
        rw [if_pos hshort, UInt8.ofNat_toNat]
        exact ⟨lt_trans hshort (by decide), rfl⟩
      · obtain ⟨hn, hcount, hbytes⟩ := (length?_cons_of_le hlong).mp h
        have hoctet : UInt8.ofNat (0x80 + (digits 0x100 n).length) = b :=
          ofNat_eq_of_toNat (by omega)
        rw [if_neg (by omega), hoctet, ← length_digits_le_iff_lt (by omega), hbytes]
        exact ⟨by omega, rfl⟩
  · rintro ⟨hlt, rfl⟩
    split
    · next hshort =>
      have hval : (UInt8.ofNat n).toNat = n := toNat_ofNat_of_lt (by omega)
      rw [List.singleton_append, length?_cons_of_lt (hval.symm ▸ hshort), hval]
    · next hlong =>
      have hlen := (length_digits_le_iff_lt (by omega)).mpr hlt
      have hval : (UInt8.ofNat (0x80 + (digits 0x100 n).length)).toNat =
          0x80 + (digits 0x100 n).length := toNat_ofNat_of_lt (by omega)
      exact (length?_cons_of_le (by omega)).mpr ⟨by omega, by omega, rfl⟩

/-! ### Elements -/

/-- An element that has an encoding: its tag has one, and its length. -/
def Element.IsEncodable (e : Element) : Prop :=
  e.tag.IsEncodable ∧ e.content.length < Nat.pow 0x100 127

/-- **The element in front of octets.** -/
theorem element?_eq_some_iff {e : Element} {bytes rest : Bytes} :
    element? bytes = some (e, rest) ↔ e.IsEncodable ∧ bytes = e.encode ++ rest := by
  constructor
  · intro h
    unfold element? at h
    split at h
    · cases h
    · next tag bytes' htag =>
      obtain ⟨htagEncodable, rfl⟩ := tag?_eq_some_iff.mp htag
      split at h
      · cases h
      · next length content hlength =>
        obtain ⟨hlt, rfl⟩ := length?_eq_some_iff.mp hlength
        split at h
        · cases h
        · next hle =>
          have hlen : (content.take length).length = length := by
            rw [List.length_take]
            omega
          cases h
          refine ⟨⟨htagEncodable, hlen.symm ▸ hlt⟩, ?_⟩
          rw [Element.encode, hlen, List.append_assoc, List.append_assoc, List.take_append_drop]
  · rintro ⟨⟨htag, hlength⟩, rfl⟩
    have hread : tag? (e.tag.encode ++ (encodeLength e.content.length ++ (e.content ++ rest))) =
        some (e.tag, encodeLength e.content.length ++ (e.content ++ rest)) :=
      tag?_eq_some_iff.mpr ⟨htag, rfl⟩
    have hcount : length? (encodeLength e.content.length ++ (e.content ++ rest)) =
        some (e.content.length, e.content ++ rest) := length?_eq_some_iff.mpr ⟨hlength, rfl⟩
    rw [element?, Element.encode, List.append_assoc, List.append_assoc, hread]
    simp only [hcount]
    rw [if_neg (by rw [List.length_append]; omega), List.take_left, List.drop_left]

theorem Element.encode_ne_nil (e : Element) : e.encode ≠ [] := by
  rw [encode, Tag.encode_eq]
  split <;> exact List.cons_ne_nil _ _

/-- Every element takes an octet at least. -/
theorem length_le_length_encodeAll (es : List Element) : es.length ≤ (encodeAll es).length := by
  induction es with
  | nil => exact Nat.zero_le _
  | cons e es ih =>
    have hpos : 0 < e.encode.length := List.length_pos_iff.mpr e.encode_ne_nil
    rw [encodeAll_cons, List.length_append, List.length_cons]
    omega

theorem elementsUpTo_eq_some_iff {n : ℕ} {es : List Element} {bytes : Bytes} :
    elementsUpTo n bytes = some es ↔
      es.length ≤ n ∧ (∀ e ∈ es, e.IsEncodable) ∧ bytes = encodeAll es := by
  constructor
  · intro h
    induction n generalizing bytes es with
    | zero =>
      cases bytes with
      | nil =>
        obtain rfl : [] = es := Option.some.inj h
        exact ⟨le_rfl, List.forall_mem_nil _, rfl⟩
      | cons b bytes => cases h
    | succ n ih =>
      cases bytes with
      | nil =>
        obtain rfl : [] = es := Option.some.inj h
        exact ⟨Nat.zero_le _, List.forall_mem_nil _, rfl⟩
      | cons b bytes =>
        unfold elementsUpTo at h
        split at h
        · cases h
        · next e rest he =>
          obtain ⟨es', hes', rfl⟩ := Option.map_eq_some_iff.mp h
          obtain ⟨hencodable, hbytes⟩ := element?_eq_some_iff.mp he
          obtain ⟨hlength, hall, rfl⟩ := ih hes'
          exact ⟨Nat.succ_le_succ hlength, List.forall_mem_cons.mpr ⟨hencodable, hall⟩, hbytes⟩
  · rintro ⟨hlength, hall, rfl⟩
    induction es generalizing n with
    | nil => cases n <;> rfl
    | cons e es ih =>
      obtain ⟨n, rfl⟩ := Nat.exists_eq_succ_of_ne_zero (Nat.ne_of_gt (Nat.zero_lt_of_lt hlength))
      obtain ⟨hencodable, hall⟩ := List.forall_mem_cons.mp hall
      have hread : element? (e.encode ++ encodeAll es) = some (e, encodeAll es) :=
        element?_eq_some_iff.mpr ⟨hencodable, rfl⟩
      obtain ⟨b, bytes, hbytes⟩ := List.exists_cons_of_ne_nil
        (List.append_ne_nil_of_left_ne_nil e.encode_ne_nil (encodeAll es))
      rw [encodeAll_cons, hbytes, elementsUpTo, ← hbytes, hread]
      simp only
      rw [ih (Nat.le_of_succ_le_succ hlength) hall]
      rfl

/-- **Elements one after the other.** -/
theorem elements?_eq_some_iff {es : List Element} {bytes : Bytes} :
    elements? bytes = some es ↔ (∀ e ∈ es, e.IsEncodable) ∧ bytes = encodeAll es := by
  rw [elements?, elementsUpTo_eq_some_iff, and_iff_right_iff_imp]
  rintro ⟨-, rfl⟩
  exact length_le_length_encodeAll es

/-- **An element alone.** -/
theorem single?_eq_some_iff {e : Element} {bytes : Bytes} :
    single? bytes = some e ↔ e.IsEncodable ∧ bytes = e.encode := by
  have hread : element? bytes = some (e, []) ↔ e.IsEncodable ∧ bytes = e.encode := by
    rw [element?_eq_some_iff, List.append_nil]
  rw [← hread, single?]
  split
  · next h => simp [h]
  · next h =>
    refine iff_of_false (by simp) fun he => ?_
    exact h e he

/-! ### Elements inside elements -/

theorem Element.length_content_le (e : Element) : e.content.length ≤ e.encode.length := by
  rw [encode, List.length_append, List.length_append]
  omega

theorem length_encode_le_of_mem {e : Element} {es : List Element} (h : e ∈ es) :
    e.encode.length ≤ (encodeAll es).length := by
  obtain ⟨before, after, rfl⟩ := List.append_of_mem h
  rw [encodeAll, List.flatMap_append, List.flatMap_cons, List.length_append, List.length_append]
  omega

/-- What stands inside an element is not too long if the element is not. -/
theorem Element.IsEncodable.of_parts {tag : Tag} {es : List Element}
    (h : IsEncodable ⟨tag, encodeAll es⟩) (htags : ∀ e ∈ es, e.tag.IsEncodable) :
    ∀ e ∈ es, e.IsEncodable := fun e he =>
  ⟨htags e he, lt_of_le_of_lt (e.length_content_le.trans (length_encode_le_of_mem he)) h.2⟩

/-- The same of an element that alone is the content. -/
theorem Element.IsEncodable.of_content {tag : Tag} {e : Element} (h : IsEncodable ⟨tag, e.encode⟩)
    (htag : e.tag.IsEncodable) : e.IsEncodable :=
  ⟨htag, lt_of_le_of_lt e.length_content_le h.2⟩

end ValidationReport.Der
