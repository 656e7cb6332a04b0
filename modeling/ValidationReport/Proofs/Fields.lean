import Mathlib.Data.List.Forall2
import ValidationReport.Der.Content
import ValidationReport.Proofs.Encoding

/-!
# Structures read back

A structure is a sequence of fields, and its reader takes one field after the other.
For each step it is told here which elements it is that are taken.  What a reader of
this kind accepts is then found by going through its steps, and so is that it accepts
what was written for it.

A field that may be left out is the one place where a reader looks ahead.  It is passed
over if the next element has another tag, so what follows must not be mistaken for it.

## Main definitions

* `Element.optional` — a field that may be left out.
* `Fields.Lacks` — what follows is not mistaken for a field.

## Main results

* `Fields.of?_eq_some_iff` — a structure is read from the encodings of its fields.
* `Fields.take_eq_some_iff`, `Fields.optional_eq_some_iff`,
  `Fields.explicit_eq_some_iff` — the steps.
* `mapM_eq_some_iff_of_forall` — lists whose members are read exactly if they are
  written.
* `natural?_eq_some_iff_of_lt` — small numbers are written in one octet.
-/

namespace ValidationReport.Der

/-! ### Fields that may be left out -/

/-- An element of a tag if there is a content for it. -/
def Element.optional (tag : Tag) (content? : Option Bytes) : List Element :=
  (content?.map (Element.mk tag)).toList

theorem Element.isEncodable_tag_of_mem_optional {tag : Tag} (h : tag.IsEncodable)
    {content? : Option Bytes} : ∀ e ∈ optional tag content?, e.tag.IsEncodable := by
  cases content? with
  | none => exact List.forall_mem_nil _
  | some content => exact List.forall_mem_singleton.mpr h

/-- An element inside a tag of its own is not too long if the fields around it are not. -/
theorem Element.isEncodable_of_optional_subset {tag : Tag} {e? : Option Element}
    {fields : List Element} (hfields : ∀ e ∈ fields, e.IsEncodable)
    (hsubset : optional tag (e?.map encode) ⊆ fields) (htag : ∀ e ∈ e?, e.tag.IsEncodable) :
    ∀ e ∈ e?, e.IsEncodable := by
  rintro e rfl
  have houter : (Element.mk tag e.encode).IsEncodable := hfields _ (hsubset List.mem_cons_self)
  exact houter.of_content (htag e rfl)

/-! ### Lists -/

/-- Reading a list is reading each member. -/
theorem mapM_eq_some_iff {α β : Type} {f : α → Option β} : ∀ {l : List α} {l' : List β},
    l.mapM f = some l' ↔ List.Forall₂ (fun a b => f a = some b) l l' := by
  intro l
  induction l with
  | nil =>
    intro l'
    rw [List.forall₂_nil_left_iff, List.mapM_nil]
    exact ⟨fun h => (Option.some.inj h).symm, fun h => congrArg some h.symm⟩
  | cons a l ih =>
    intro l'
    rw [List.mapM_cons, List.forall₂_cons_left_iff]
    refine Option.bind_eq_some_iff.trans ⟨?_, ?_⟩
    · rintro ⟨b, hb, hrest⟩
      obtain ⟨bs, hbs, hl'⟩ := Option.bind_eq_some_iff.mp hrest
      exact ⟨b, bs, hb, ih.mp hbs, (Option.some.inj hl').symm⟩
    · rintro ⟨b, bs, hb, hbs, rfl⟩
      exact ⟨b, hb, Option.bind_eq_some_iff.mpr ⟨bs, ih.mpr hbs, rfl⟩⟩

/-- Members that are read exactly if they are written come from a list that is written. -/
theorem mapM_eq_some_iff_of_forall {α β γ : Type} {f : α → Option β} {write : γ → α} {keep : γ → β}
    {l : List α} {l' : List β}
    (h : ∀ a ∈ l, ∀ b, f a = some b ↔ ∃ x, a = write x ∧ b = keep x) :
    l.mapM f = some l' ↔ ∃ xs : List γ, l = xs.map write ∧ l' = xs.map keep := by
  rw [mapM_eq_some_iff]
  constructor
  · intro hall
    induction hall with
    | nil => exact ⟨[], rfl, rfl⟩
    | cons hab _ ih =>
      obtain ⟨hhead, htail⟩ := List.forall_mem_cons.mp h
      obtain ⟨x, rfl, rfl⟩ := (hhead _).mp hab
      obtain ⟨xs, rfl, rfl⟩ := ih htail
      exact ⟨x :: xs, rfl, rfl⟩
  · rintro ⟨xs, rfl, rfl⟩
    rw [List.forall₂_map_left_iff, List.forall₂_map_right_iff, List.forall₂_same]
    exact fun x hx => (h _ (List.mem_map_of_mem hx) _).mpr ⟨x, rfl, rfl⟩

/-! ### Small numbers -/

theorem le_ofDigits (high : ℕ) (ds : List ℕ) : high ≤ ofDigits 0x100 high ds := by
  induction ds generalizing high with
  | nil => exact le_rfl
  | cons d ds ih =>
    rw [ofDigits_cons]
    exact le_trans (by omega) (ih _)

/-- A number below 128 is written in one octet. -/
theorem natural?_eq_some_iff_of_lt {n : ℕ} (hn : n < 0x80) {content : Bytes} :
    natural? content = some n ↔ content = [.ofNat n] := by
  have hval : (UInt8.ofNat n).toNat = n := toNat_ofNat_of_lt (by omega)
  rw [natural?, Option.ite_none_right_eq_some, Option.some_inj, foldl_octets]
  constructor
  · rintro ⟨⟨hinteger, -⟩, hvalue⟩
    cases content with
    | nil => cases hinteger
    | cons a content =>
      cases content with
      | nil =>
        rw [List.map_singleton, ofDigits_cons, ofDigits, List.foldl_nil] at hvalue
        have hoctet : UInt8.ofNat n = a := ofNat_eq_of_toNat (by omega)
        rw [hoctet]
      | cons b rest =>
        -- with two octets the first is not zero, or the second is large
        rw [List.map_cons, List.map_cons, ofDigits_cons, ofDigits_cons] at hvalue
        have hle := le_ofDigits ((0 * 0x100 + a.toNat) * 0x100 + b.toNat) (rest.map UInt8.toNat)
        rcases Nat.eq_zero_or_pos a.toNat with ha | ha
        · obtain rfl : a = 0 := UInt8.toNat_inj.mp ha
          have hb : ¬ b.toNat < 0x80 := by
            intro hb
            simp [isInteger, hb] at hinteger
          omega
        · omega
  · rintro rfl
    refine ⟨⟨rfl, by simp [hval, hn]⟩, ?_⟩
    show 0 * 0x100 + (UInt8.ofNat n).toNat = n
    omega

/-! ### Fields -/

namespace Fields

variable {α β : Type}

theorem of?_eq_some_iff {fields : Fields α} {content : Bytes} {a : α} :
    fields.of? content = some a ↔ ∃ es : List Element,
      (∀ e ∈ es, e.IsEncodable) ∧ content = encodeAll es ∧ fields es = some (a, []) := by
  unfold of?
  constructor
  · intro h
    split at h
    · cases h
    · next es hes =>
      obtain ⟨hall, hcontent⟩ := elements?_eq_some_iff.mp hes
      split at h
      · next b hfields =>
        obtain rfl : b = a := Option.some.inj h
        exact ⟨es, hall, hcontent, hfields⟩
      · cases h
  · rintro ⟨es, hall, hcontent, hfields⟩
    rw [elements?_eq_some_iff.mpr ⟨hall, hcontent⟩]
    simp only [hfields]

@[simp] theorem bind_eq_some_iff {f : Fields α} {g : α → Fields β} {es : List Element}
    {r : β × List Element} :
    (f >>= g) es = some r ↔ ∃ a rest, f es = some (a, rest) ∧ g a rest = some r := by
  show (f es).bind (fun p => g p.1 p.2) = some r ↔ _
  rw [Option.bind_eq_some_iff, Prod.exists]

@[simp] theorem pure_eq_some_iff {a b : α} {es rest : List Element} :
    (pure a : Fields α) es = some (b, rest) ↔ a = b ∧ es = rest := by
  show some (a, es) = some (b, rest) ↔ _
  rw [Option.some_inj, Prod.mk.injEq]

@[simp] theorem require_eq_some_iff {b : Bool} {u : Unit} {es rest : List Element} :
    require b es = some (u, rest) ↔ b = true ∧ es = rest := by
  cases b <;> simp [require]

@[simp] theorem some?_eq_some_iff {a? : Option α} {a : α} {es rest : List Element} :
    some? a? es = some (a, rest) ↔ a? = some a ∧ es = rest := by
  cases a? <;> simp [some?]

theorem map_eq_some_iff {f : α → β} {a? : Option α} {b : β} {es rest : List Element} :
    (f <$> some? a?) es = some (b, rest) ↔ ∃ a, a? = some a ∧ f a = b ∧ es = rest := by
  cases a? with
  | none => exact iff_of_false (by rintro ⟨⟩) (by rintro ⟨_, ⟨⟩, _⟩)
  | some a =>
    show some (f a, es) = some (b, rest) ↔ _
    simp

@[simp] theorem next_eq_some_iff {e : Element} {es rest : List Element} :
    next es = some (e, rest) ↔ es = e :: rest := by
  cases es <;> simp [next]

@[simp] theorem take_eq_some_iff {tag : Tag} {content : Bytes} {es rest : List Element} :
    take tag es = some (content, rest) ↔ es = ⟨tag, content⟩ :: rest := by
  cases es with
  | nil => simp [take]
  | cons e es =>
    obtain ⟨tag', content'⟩ := e
    simp only [take, Option.ite_none_right_eq_some, Option.some_inj, Prod.mk.injEq, List.cons.injEq,
      Element.mk.injEq, and_assoc]

/-- What comes next has another tag. -/
def Lacks (tag : Tag) (es : List Element) : Prop := ∀ e ∈ es.head?, e.tag ≠ tag

@[simp] theorem lacks_nil (tag : Tag) : Lacks tag [] := by
  rintro e ⟨⟩

@[simp] theorem lacks_cons {tag : Tag} {e : Element} {es : List Element} :
    Lacks tag (e :: es) ↔ e.tag ≠ tag := by
  simp [Lacks]

theorem lacks_optional {tag tag' : Tag} (hne : tag' ≠ tag) {content? : Option Bytes}
    {es : List Element} (h : Lacks tag es) : Lacks tag (Element.optional tag' content? ++ es) := by
  cases content? with
  | none => exact h
  | some content => exact lacks_cons.mpr hne

theorem lacks_optional_last {tag tag' : Tag} (hne : tag' ≠ tag) {content? : Option Bytes} :
    Lacks tag (Element.optional tag' content?) := by
  cases content? with
  | none => exact lacks_nil tag
  | some content => exact lacks_cons.mpr hne

@[simp] theorem optional_eq_some_iff {tag : Tag} {content? : Option Bytes}
    {es rest : List Element} :
    optional tag es = some (content?, rest) ↔
      es = Element.optional tag content? ++ rest ∧ (content? = none → Lacks tag rest) := by
  constructor
  · intro h
    cases es with
    | nil =>
      obtain ⟨rfl, rfl⟩ := Prod.mk.inj (Option.some.inj h)
      exact ⟨rfl, fun _ => lacks_nil tag⟩
    | cons e es =>
      rw [optional] at h
      split at h
      · next htag =>
        obtain ⟨rfl, rfl⟩ := Prod.mk.inj (Option.some.inj h)
        subst htag
        exact ⟨rfl, by rintro ⟨⟩⟩
      · next htag =>
        -- nothing is taken, and the next element is the reason
        obtain ⟨rfl, rfl⟩ := Prod.mk.inj (Option.some.inj h)
        refine ⟨rfl, fun _ e' he' => ?_⟩
        obtain rfl := Option.some.inj he'
        exact htag
  · rintro ⟨rfl, hlacks⟩
    cases content? with
    | none =>
      cases rest with
      | nil => rfl
      | cons e rest => exact if_neg (hlacks rfl e rfl)
    | some content => exact if_pos rfl

@[simp] theorem explicit_eq_some_iff {number : ℕ} {e? : Option Element}
    {es rest : List Element} :
    explicit number es = some (e?, rest) ↔
      es = Element.optional (Tag.explicit number) (e?.map Element.encode) ++ rest ∧
        (∀ e ∈ e?, e.IsEncodable) ∧ (e? = none → Lacks (Tag.explicit number) rest) := by
  rw [explicit, bind_eq_some_iff]
  constructor
  · rintro ⟨content?, rest', hoptional, h⟩
    obtain ⟨rfl, hlacks⟩ := optional_eq_some_iff.mp hoptional
    cases content? with
    | none =>
      obtain ⟨rfl, rfl⟩ := pure_eq_some_iff.mp h
      exact ⟨rfl, by rintro _ ⟨⟩, fun _ => hlacks rfl⟩
    | some content =>
      obtain ⟨e, hread, rfl, rfl⟩ := map_eq_some_iff.mp h
      obtain ⟨hencodable, rfl⟩ := single?_eq_some_iff.mp hread
      refine ⟨rfl, ?_, by rintro ⟨⟩⟩
      rintro _ ⟨⟩
      exact hencodable
  · rintro ⟨rfl, hencodable, hlacks⟩
    cases e? with
    | none =>
      exact ⟨none, rest, optional_eq_some_iff.mpr ⟨rfl, fun _ => hlacks rfl⟩,
        pure_eq_some_iff.mpr ⟨rfl, rfl⟩⟩
    | some e =>
      have hread := single?_eq_some_iff.mpr ⟨hencodable e rfl, rfl⟩
      exact ⟨some e.encode, rest, optional_eq_some_iff.mpr ⟨rfl, by rintro ⟨⟩⟩,
        map_eq_some_iff.mpr ⟨e, hread, rfl, rfl⟩⟩

end Fields

end ValidationReport.Der
