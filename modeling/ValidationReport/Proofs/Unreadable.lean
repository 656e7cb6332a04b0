import Mathlib.Data.List.TakeWhile
import ValidationReport.Endpoint
import ValidationReport.Proofs.Answers

/-!
# Facts that cannot be read

Whatever is wrong with a payload, it is refused as malformed, with one exception.
An integer with more digits than are read is no malformed text, and a reader that
meets one stops with a fault of its own.  It meets one exactly where a value may
begin and nothing before it is at fault, and there is one only in a text with as
many digits in a row.

## Main definitions

* `Text.HasLongNumeral` — a text has more digits in a row than an integer may have.
* `Json.MeetsLongInteger` — the reader of a text comes upon such an integer.
* `Payload.text?` — the text that a payload is read from.
* `Response.malformed` — the answer to facts that are malformed.

## Main results

* `Json.Token.hasLongNumeral_of_mem_scan` — long integers come from long numerals.
* `Json.read_eq_integerTooLong_iff` — when reading stops at a long integer.
* `outcome_of_load_iff` — **a payload is read or refused as malformed unless its
  reader comes upon a long integer.**
* `load_longSize_not_malformed` — facts with a long integer are refused otherwise.
-/

namespace ValidationReport

/-- A text has more digits in a row than an integer may have. -/
def Text.HasLongNumeral (t : Text) : Prop :=
  ∃ digits, digits <:+: t ∧ (∀ c ∈ digits, c.isDigit = true) ∧ Json.digitLimit < digits.length

theorem Text.HasLongNumeral.of_suffix {t u : Text} (h : t.HasLongNumeral) (hsuffix : t <:+ u) :
    u.HasLongNumeral := by
  obtain ⟨digits, hinfix, hdigits, hlong⟩ := h
  exact ⟨digits, hinfix.trans hsuffix.isInfix, hdigits, hlong⟩

namespace Json

/-! ### Where tokens end -/

namespace Token

theorem suffix_of_hexQuad? {t rest : Text} {n : ℕ} (h : hexQuad? t = some (n, rest)) :
    rest <:+ t := by
  unfold hexQuad? at h
  split at h
  · next a b c d after =>
    simp only [Option.bind_eq_bind, Option.bind_eq_some_iff, Option.pure_def, Option.some.injEq,
      Prod.mk.injEq] at h
    obtain ⟨-, -, -, -, -, -, -, -, -, rfl⟩ := h
    exact List.suffix_append [a, b, c, d] after
  · cases h

theorem suffix_of_lowEscape? {t rest : Text} {c : Code} (h : lowEscape? t = some (c, rest)) :
    rest <:+ t := by
  unfold lowEscape? at h
  split at h
  · next a b after =>
    split at h
    · split at h
      · next n rest' hquad =>
        split at h
        · obtain ⟨-, rfl⟩ := Prod.mk.inj (Option.some.inj h)
          exact (suffix_of_hexQuad? hquad).trans (List.suffix_append [a, b] after)
        · cases h
      · cases h
    · cases h
  · cases h

/-- A code point put in front of a string leaves the text after the string as it is. -/
theorem read_of_map_cons {x : Option (Text × Text)} {c : Code} {u rest : Text}
    (h : (x.map fun (t, rest) => (c :: t, rest)) = some (u, rest)) : ∃ t, x = some (t, rest) := by
  obtain ⟨⟨t, rest'⟩, hx, heq⟩ := Option.map_eq_some_iff.mp h
  obtain ⟨-, rfl⟩ := Prod.mk.inj heq
  exact ⟨t, hx⟩

/-- After a string follows a suffix of the text.  The induction is on the bound of the steps. -/
theorem suffix_of_string? : ∀ {fuel : ℕ} {t u rest : Text}, string? fuel t = some (u, rest) →
    rest <:+ t := by
  intro fuel
  induction fuel with
  | zero => intro t u rest h; cases h
  | succ fuel ih =>
    intro t u rest h
    cases t with
    | nil => cases h
    | cons c t =>
      unfold string? at h
      split at h
      · obtain ⟨-, rfl⟩ := Prod.mk.inj (Option.some.inj h)
        exact List.suffix_cons c t
      split at h
      · cases h
      split at h
      · cases t with
        | nil => cases h
        | cons e t =>
          have htail : t <:+ c :: e :: t := List.suffix_append [c, e] t
          simp only at h
          split at h
          · split at h
            · cases h
            · next n after hquad =>
              have hafter := (suffix_of_hexQuad? hquad).trans htail
              split at h
              · next low after' hlow =>
                obtain ⟨v, hv⟩ := read_of_map_cons h
                split at hlow
                · exact (ih hv).trans ((suffix_of_lowEscape? hlow).trans hafter)
                · cases hlow
              · obtain ⟨v, hv⟩ := read_of_map_cons h
                exact (ih hv).trans hafter
          · split at h
            · cases h
            · obtain ⟨v, hv⟩ := read_of_map_cons h
              exact (ih hv).trans htail
      · obtain ⟨v, hv⟩ := read_of_map_cons h
        exact (ih hv).trans (List.suffix_cons c t)

theorem append_of_digits? {t digits rest : Text} (h : digits? t = some (digits, rest)) :
    t = digits ++ rest ∧ ∀ c ∈ digits, c.isDigit = true := by
  unfold digits? at h
  simp only at h
  split at h
  · cases h
  · obtain ⟨rfl, rfl⟩ := Prod.mk.inj (Option.some.inj h)
    exact ⟨List.takeWhile_append_dropWhile.symm, fun c hc => List.mem_takeWhile_imp hc⟩

theorem suffix_of_digits? {t digits rest : Text} (h : digits? t = some (digits, rest)) :
    rest <:+ t := by
  rw [(append_of_digits? h).1]
  exact List.suffix_append digits rest

theorem suffix_of_places? {t digits rest : Text} (h : places? t = some (digits, rest)) :
    rest <:+ t := by
  cases t with
  | nil => cases h
  | cons c t =>
    rw [places?] at h
    split at h
    · exact (suffix_of_digits? h).trans (List.suffix_cons c t)
    · cases h

theorem suffix_of_exponent? {t rest : Text} {e : Int} (h : exponent? t = some (e, rest)) :
    rest <:+ t := by
  cases t with
  | nil => cases h
  | cons c t =>
    rw [exponent?.eq_def] at h
    simp only at h
    split at h
    · cases t with
      | nil => cases h
      | cons s t =>
        have hdigits : ∀ {after : Text} {value : Text × Text → Int × Text},
            (∀ p, (value p).2 = p.2) → after <:+ c :: s :: t →
            (digits? after).map value = some (e, rest) → rest <:+ c :: s :: t := by
          intro after value hvalue hafter hmap
          obtain ⟨⟨digits, rest'⟩, hread, heq⟩ := Option.map_eq_some_iff.mp hmap
          obtain rfl : rest' = rest := (hvalue (digits, rest')).symm.trans (congrArg Prod.snd heq)
          exact (suffix_of_digits? hread).trans hafter
        have htail : t <:+ c :: s :: t := List.suffix_append [c, s] t
        simp only at h
        split at h
        · exact hdigits (fun _ => rfl) htail h
        · split at h
          · exact hdigits (fun _ => rfl) htail h
          · exact hdigits (fun _ => rfl) (List.suffix_cons c (s :: t)) h
    · cases h

/-- What follows an optional part of a text. -/
theorem suffix_of_elim {α : Type} {x : Option (α × Text)} {t : Text}
    (h : ∀ p, x = some p → p.2 <:+ t) : x.elim t Prod.snd <:+ t := by
  cases x with
  | none => exact List.suffix_rfl
  | some p => exact h p rfl

theorem append_of_whole? {t whole rest : Text} (h : whole? t = some (whole, rest)) :
    t = whole ++ rest ∧ ∀ c ∈ whole, c.isDigit = true := by
  cases t with
  | nil => cases h
  | cons c t =>
    rw [whole?] at h
    split at h
    · next hzero =>
      obtain ⟨rfl, rfl⟩ := Prod.mk.inj (Option.some.inj h)
      refine ⟨rfl, fun d hd => ?_⟩
      rw [List.mem_singleton.mp hd, hzero]
      decide
    · exact append_of_digits? h

/-- After a number follows a suffix of the text, and a long integer is a long numeral. -/
theorem spec_of_number? {negative : Bool} {t rest : Text} {token : Token}
    (h : number? negative t = some (token, rest)) :
    rest <:+ t ∧ (token = .longInteger → t.HasLongNumeral) := by
  unfold number? at h
  split at h
  · cases h
  · next whole after hwhole =>
    obtain ⟨happend, hdigits⟩ := append_of_whole? hwhole
    have hafter : after <:+ t := by
      rw [happend]
      exact List.suffix_append whole after
    split at h
    · split at h
      · next hlong =>
        obtain ⟨rfl, rfl⟩ := Prod.mk.inj (Option.some.inj h)
        refine ⟨hafter, fun _ => ⟨whole, ?_, hdigits, hlong⟩⟩
        rw [happend]
        exact (List.prefix_append whole _).isInfix
      · obtain ⟨rfl, rfl⟩ := Prod.mk.inj (Option.some.inj h)
        exact ⟨hafter, by simp⟩
    · next hfraction =>
      simp only [Option.some.injEq, Prod.mk.injEq] at h
      obtain ⟨rfl, rfl⟩ := h
      refine ⟨?_, by simp⟩
      have hplaces : (places? after).elim after Prod.snd <:+ after :=
        suffix_of_elim fun p hp => suffix_of_places? hp
      refine List.IsSuffix.trans ?_ (hplaces.trans hafter)
      exact suffix_of_elim fun p hp => suffix_of_exponent? hp

theorem suffix_of_word? {t rest : Text} {token : Token} (h : word? t = some (token, rest)) :
    rest <:+ t ∧ token ≠ .longInteger := by
  unfold word? at h
  obtain ⟨w, -, heq⟩ := Option.map_eq_some_iff.mp h
  obtain ⟨rfl, rfl⟩ := Prod.mk.inj heq
  exact ⟨List.drop_suffix _ t, by simp⟩

theorem ne_longInteger_of_punctuation? {c : Code} {token : Token}
    (h : punctuation? c = some token) : token ≠ .longInteger := by
  unfold punctuation? at h
  rintro rfl
  repeat' split at h
  all_goals cases h

/-- After a token follows a suffix of the text, and a long integer is a long numeral. -/
theorem spec_of_first? {c : Code} {t rest : Text} {token : Token}
    (h : first? c t = some (token, rest)) :
    rest <:+ c :: t ∧ (token = .longInteger → Text.HasLongNumeral (c :: t)) := by
  have htail : t <:+ c :: t := List.suffix_cons c t
  unfold first? at h
  split at h
  · next hpunctuation =>
    obtain ⟨rfl, rfl⟩ := Prod.mk.inj (Option.some.inj h)
    exact ⟨htail, fun hlong => absurd hlong (ne_longInteger_of_punctuation? hpunctuation)⟩
  · split at h
    · obtain ⟨⟨u, rest'⟩, hstring, heq⟩ := Option.map_eq_some_iff.mp h
      obtain ⟨rfl, rfl⟩ := Prod.mk.inj heq
      exact ⟨(suffix_of_string? hstring).trans htail, by simp⟩
    · split at h
      · next hword =>
        obtain rfl := Option.some.inj h
        obtain ⟨hsuffix, hne⟩ := suffix_of_word? hword
        exact ⟨hsuffix, fun hlong => absurd hlong hne⟩
      · split at h
        · obtain ⟨hsuffix, hlong⟩ := spec_of_number? h
          exact ⟨hsuffix.trans htail, fun heq => (hlong heq).of_suffix htail⟩
        · exact spec_of_number? h

theorem hasLongNumeral_of_mem_scanUpTo : ∀ {fuel : ℕ} {t : Text},
    .longInteger ∈ scanUpTo fuel t → t.HasLongNumeral := by
  intro fuel
  induction fuel with
  | zero => intro t h; cases h
  | succ fuel ih =>
    intro t h
    cases t with
    | nil => cases h
    | cons c t =>
      rw [scanUpTo] at h
      split at h
      · exact (ih h).of_suffix (List.suffix_cons c t)
      · split at h
        · next token rest hfirst =>
          obtain ⟨hsuffix, hlong⟩ := spec_of_first? hfirst
          rcases List.mem_cons.mp h with heq | hrest
          · exact hlong heq.symm
          · exact (ih hrest).of_suffix hsuffix
        · simp at h

/-- A long integer among the tokens of a text is a long numeral in the text. -/
theorem hasLongNumeral_of_mem_scan {t : Text} (h : .longInteger ∈ scan t) : t.HasLongNumeral :=
  hasLongNumeral_of_mem_scanUpTo h

end Token

/-! ### Where reading stops -/

/-- The reader of a text comes upon an integer with too many digits: where a value may begin, and
nothing is at fault before. -/
def MeetsLongInteger (t : Text) : Prop :=
  ∃ before after s mayClose, Token.scan t = before ++ .longInteger :: after ∧
    before.foldlM State.step State.initial = .ok s ∧ s.phase = .value mayClose

/-- Steps over a list that pass a state on fail with the first member that fails. -/
theorem foldlM_eq_error_iff {α σ ε : Type} {f : σ → α → Except ε σ} {e : ε} :
    ∀ {l : List α} {s : σ}, l.foldlM f s = .error e ↔ ∃ before a after s',
      l = before ++ a :: after ∧ before.foldlM f s = .ok s' ∧ f s' a = .error e := by
  intro l
  induction l with
  | nil => simp [pure, Except.pure]
  | cons c l ih =>
    intro s
    rw [List.foldlM_cons, bind_eq_error_iff]
    constructor
    · rintro (hc | ⟨s', hs', hrest⟩)
      · exact ⟨[], c, l, s, rfl, rfl, hc⟩
      · obtain ⟨before, a, after, s'', rfl, hbefore, ha⟩ := ih.mp hrest
        refine ⟨c :: before, a, after, s'', rfl, ?_, ha⟩
        rw [List.foldlM_cons, hs']
        exact hbefore
    · rintro ⟨before, a, after, s', hsplit, hbefore, ha⟩
      cases before with
      | nil =>
        obtain ⟨rfl, rfl⟩ := List.cons.inj hsplit
        cases hbefore
        exact Or.inl ha
      | cons b before =>
        obtain ⟨rfl, rfl⟩ := List.cons.inj hsplit
        rw [List.foldlM_cons] at hbefore
        obtain ⟨s'', hs'', hbefore⟩ := bind_eq_ok_iff.mp hbefore
        exact Or.inr ⟨s'', hs'', ih.mpr ⟨before, a, after, s', rfl, hbefore, ha⟩⟩

namespace State

theorem enter_ne_integerTooLong (s : State) (frame : Frame) (phase : Phase) :
    s.enter frame phase ≠ .error .integerTooLong := by
  unfold enter
  split <;> simp

/-- A step stops at a long integer only where a value may begin. -/
theorem step_eq_integerTooLong_iff {s : State} {token : Token} :
    s.step token = .error .integerTooLong ↔
      token = .longInteger ∧ ∃ mayClose, s.phase = .value mayClose := by
  constructor
  · intro h
    unfold step at h
    split at h
    · next mayClose hphase =>
      unfold stepValue at h
      split at h
      · exact absurd h (s.enter_ne_integerTooLong _ _)
      · exact absurd h (s.enter_ne_integerTooLong _ _)
      · split at h <;> cases h
      · cases h
      · cases h
      · exact ⟨rfl, mayClose, hphase⟩
      · cases h
    · unfold stepKey at h
      split at h <;> [split at h; split at h; skip] <;> cases h
    · split at h <;> cases h
    · unfold stepAfter at h
      split at h <;> cases h
  · rintro ⟨rfl, mayClose, hphase⟩
    unfold step
    rw [hphase]
    rfl

theorem result_ne_integerTooLong (s : State) : s.result ≠ .error .integerTooLong := by
  unfold result
  split <;> simp

end State

/-- Reading stops at a long integer exactly if the reader comes upon one. -/
theorem read_eq_integerTooLong_iff (t : Text) :
    read t = .error .integerTooLong ↔ MeetsLongInteger t := by
  unfold read MeetsLongInteger
  rw [bind_eq_error_iff, foldlM_eq_error_iff]
  simp only [State.step_eq_integerTooLong_iff]
  constructor
  · rintro (⟨before, token, after, s, hsplit, hbefore, rfl, mayClose, hphase⟩ | ⟨s, -, hresult⟩)
    · exact ⟨before, after, s, mayClose, hsplit, hbefore, hphase⟩
    · exact absurd hresult s.result_ne_integerTooLong
  · rintro ⟨before, after, s, mayClose, hsplit, hbefore, hphase⟩
    exact Or.inl ⟨before, _, after, s, hsplit, hbefore, rfl, mayClose, hphase⟩

theorem MeetsLongInteger.hasLongNumeral {t : Text} (h : MeetsLongInteger t) :
    t.HasLongNumeral := by
  obtain ⟨before, after, s, mayClose, hsplit, -, -⟩ := h
  apply Token.hasLongNumeral_of_mem_scan
  rw [hsplit]
  simp

end Json

/-! ### Payloads -/

namespace Payload

/-- The text that a payload is read from, if it is text in any form. -/
def text? : Payload → Option Text
  | .bytes octets => Text.ofUtf8? octets
  | .text t => some t
  | .value (.str t) => some t
  | .value _ => none

theorem ofValue_ne_integerTooLong (j : Json) : ofValue j ≠ .error .integerTooLong := by
  unfold ofValue
  split <;> simp

theorem ofText_eq_integerTooLong_iff (t : Text) :
    ofText t = .error .integerTooLong ↔ Json.MeetsLongInteger t := by
  unfold ofText
  rw [← Json.read_eq_integerTooLong_iff]
  cases h : Json.read t with
  | error fault => simp [Except.bind]
  | ok j => simpa [Except.bind] using ofValue_ne_integerTooLong j

/-- Reading a payload stops at a long integer exactly if the reader of its text comes upon one. -/
theorem load_eq_integerTooLong_iff (p : Payload) :
    p.load = .error .integerTooLong ↔ ∃ t, p.text? = some t ∧ Json.MeetsLongInteger t := by
  cases p with
  | text t => simp [load, text?, ofText_eq_integerTooLong_iff]
  | bytes octets =>
    simp only [load, text?]
    cases Text.ofUtf8? octets with
    | none => simp
    | some t => simp [ofText_eq_integerTooLong_iff]
  | value j =>
    cases j with
    | str t => simp [load, text?, ofText_eq_integerTooLong_iff]
    | _ => simp [load, text?, ofValue_ne_integerTooLong]

end Payload

/-! ### Answers to clients -/

/-- The answer to facts that are malformed. -/
def Response.malformed : Response :=
  .object 400 (.obj [("code", .str "DOCUMENT_MALFORMED"),
    ("message", .str "Document malformed or not matching documentType"), ("status", .int 400)])

/-- The answer to facts that are malformed, and the breakdown at a long integer. -/
theorem Response.ofObstacle_ofFault (fault : Json.Fault) :
    ofObstacle (.ofFault fault) = if fault = .malformed then malformed else broken := by
  cases fault <;> rfl

/-- An endpoint reads a payload that comes with a form: the form has no faults, and the policy is
known where one is asked for. -/
def Endpoint.Reads (settings : Settings) (f : Form) (p : Payload) : Endpoint → Prop
  | .validate => ∃ r policy, f.request f.reportType = .ok r ∧ r.facts = p ∧
    standardPolicies.lookup (policyKey r.policy settings.defaultPolicy) = some policy
  | .report => ∃ r policy, f.request (.ok .simple) = .ok r ∧ r.facts = p ∧
    standardPolicies.lookup (policyKey r.policy settings.defaultPolicy) = some policy
  | .dataFiles => ∃ u, f.file "facts" = .ok u ∧ p = .bytes u.content

/-- The answer to facts that cannot be read is the same at every endpoint. -/
theorem Endpoint.Reads.answer_eq {settings : Settings} {layout : PageLayout} {now : Moment}
    {f : Form} {p : Payload} {e : Endpoint} {fault : Json.Fault} (h : e.Reads settings f p)
    (hfault : p.load = .error fault) :
    e.answer settings layout now f = if fault = .malformed then .malformed else .broken := by
  rw [← Response.ofObstacle_ofFault]
  cases e with
  | validate =>
    obtain ⟨r, policy, hr, rfl, hpolicy⟩ := h
    unfold answer
    rw [hr]
    simp only [validate_of_fault hpolicy hfault, layerResponse]
    rfl
  | report =>
    obtain ⟨r, policy, hr, rfl, hpolicy⟩ := h
    unfold answer
    rw [hr]
    simp only [validate_of_fault hpolicy hfault, protocolResponse]
  | dataFiles =>
    obtain ⟨u, hu, rfl⟩ := h
    unfold answer dataFileReport Payload.facts
    rw [hu]
    simp only [hfault]
    rfl

/-! ### Outcomes -/

/-- **A payload is read or refused as malformed exactly if its reader comes upon no long
integer.**  One that does has as many digits in a row, and stops with a fault of its own.  Endpoints
tell malformed facts alike, and break down at a long integer, whatever the layout of pages. -/
theorem outcome_of_load_iff (p : Payload) :
    ((∃ facts, p.load = .ok facts) ∨ p.load = .error .malformed ↔
      ¬ ∃ t, p.text? = some t ∧ Json.MeetsLongInteger t) ∧
    (∀ t, p.text? = some t → Json.MeetsLongInteger t →
      t.HasLongNumeral ∧ p.load = .error .integerTooLong) ∧
    ∀ (settings : Settings) (layout : PageLayout) (now : Moment) (f : Form) (e : Endpoint),
      e.Reads settings f p →
        (p.load = .error .malformed → e.answer settings layout now f = .malformed) ∧
        (p.load = .error .integerTooLong → e.answer settings layout now f = .broken) := by
  refine ⟨?_, ?_, ?_⟩
  · rw [← p.load_eq_integerTooLong_iff]
    cases p.load with
    | ok facts => simp
    | error fault => cases fault <;> simp
  · intro t ht hmeets
    exact ⟨hmeets.hasLongNumeral, p.load_eq_integerTooLong_iff.mpr ⟨t, ht, hmeets⟩⟩
  · intro settings layout now f e hreads
    exact ⟨hreads.answer_eq, hreads.answer_eq⟩

/-- Facts in which the size of a data file has one digit too many. -/
def Payload.longSize : Payload :=
  .text (("\x7b\x22document_format\x22: \x22DDOC\x22, \x22data_files\x22: " : Text) ++
    ("[\x7b\x22name\x22: \x22a\x22, \x22size\x22: " : Text) ++
    List.replicate 4301 ('1' : Code) ++ ("\x7d]\x7d" : Text))

/-- Facts with a long size are neither read nor refused as malformed. -/
theorem load_longSize_not_malformed :
    ¬ ∀ p : Payload, (∃ facts, p.load = .ok facts) ∨ p.load = .error .malformed := by
  have hcheck : (Payload.longSize.load matches .error .integerTooLong) = true := by decide +kernel
  intro h
  rcases h .longSize with ⟨facts, hfacts⟩ | hmalformed
  · rw [hfacts] at hcheck
    cases hcheck
  · rw [hmalformed] at hcheck
    cases hcheck

end ValidationReport
