import Mathlib.Data.List.Forall2
import ValidationReport.Proofs.Isolation
import ValidationReport.Proofs.Verdict

/-!
# Policies of different strictness

A policy has a say in an entry only after everything else is settled: it may add
a warning to a signature that the engine passed, or turn the signature down with
an error.  A policy that admits more levels therefore passes at least the same
signatures, and no two policies disagree on more than the verdict and one message
of either kind.

## Main definitions

* `Policy.AtLeastAsStrict` — a policy passes no level that another one refuses.
* `Measured` — what measuring a level can make of an outcome.
* `Assembly.unmeasured` — the outcome of a signature before its level is measured.
* `SignatureEntry.SameButLevel` — two entries that differ at most by what a level
  decides.

## Main results

* `Assembly.entry_withPolicy` — the policy is left out of account until the
  verdict and the messages.
* `Assembly.sameButLevel_entryOrFailure` — no two policies disagree on more.
* `indications_of_policies` — **a policy that is no stricter passes at least the
  same signatures, and two policies differ in nothing but verdicts and one final
  message of either kind.**
-/

namespace ValidationReport

/-! ### Strictness -/

/-- The levels with which a signature may pass, if only with a warning. -/
def Policy.levels (p : Policy) : List Text := p.accepted ++ p.warned

/-- The other policy asks for no level, or both ask for one and the other one passes every level
that this one passes. -/
def Policy.AtLeastAsStrict (p q : Policy) : Prop :=
  q.accepted = [] ∨ p.accepted ≠ [] ∧ q.accepted ≠ [] ∧ p.levels ⊆ q.levels

/-- A level that a policy admits is admitted by every policy that is no stricter. -/
theorem Policy.AtLeastAsStrict.admits {p q : Policy} (h : p.AtLeastAsStrict q) {level : Text}
    (hadmits : p.Admits level) : q.Admits level := by
  rcases h with hnone | ⟨hrequired, -, hlevels⟩
  · exact Or.inl hnone
  · have hmem : level ∈ p.levels := List.mem_append.mpr (hadmits.resolve_left hrequired)
    exact Or.inr (List.mem_append.mp (hlevels hmem))

/-! ### Outcomes before and after -/

/-- What measuring a level can make of an outcome.  Only a passed signature is touched. -/
inductive Measured (o : Outcome) : Outcome → Prop
  /-- The outcome stands. -/
  | kept : Measured o o
  /-- The level deserves a warning. -/
  | warned (hpassed : o.indication = .passed) :
    Measured o { o with warnings := o.warnings ++ [levelWarning] }
  /-- The level is turned down. -/
  | refused (hpassed : o.indication = .passed) :
    Measured o { o with indication := .failed, errors := o.errors ++ [levelError] }

theorem measured_applyPolicy (o : Outcome) (level : Text) (policy : Policy) :
    Measured o (o.applyPolicy level policy) := by
  unfold Outcome.applyPolicy
  split
  · exact .kept
  · next hmeasured =>
    rw [not_or, not_not] at hmeasured
    split
    · exact .kept
    · split
      · exact .warned hmeasured.1
      · exact .refused hmeasured.1

namespace Measured

variable {o o' : Outcome}

/-- Measuring keeps the reason. -/
theorem subIndication_eq (h : Measured o o') : o'.subIndication = o.subIndication := by
  cases h <;> rfl

/-- What has not passed stands as it is. -/
theorem eq_of_ne_passed (h : Measured o o') (hne : o.indication ≠ .passed) : o' = o := by
  cases h with
  | kept => rfl
  | warned hpassed => exact absurd hpassed hne
  | refused hpassed => exact absurd hpassed hne

/-- What is undecided afterwards was undecided before, and stands as it is. -/
theorem eq_of_indeterminate (h : Measured o o') (hopen : o'.indication = .indeterminate) :
    o' = o := by
  cases h with
  | kept => rfl
  | warned hpassed =>
    rw [show o.indication = .indeterminate from hopen] at hpassed
    cases hpassed
  | refused => cases hopen

theorem warnings_cases (h : Measured o o') :
    o'.warnings = o.warnings ∨ o'.warnings = o.warnings ++ [levelWarning] := by
  cases h with
  | kept => exact Or.inl rfl
  | warned => exact Or.inr rfl
  | refused => exact Or.inl rfl

theorem errors_cases (h : Measured o o') :
    o'.errors = o.errors ∨ o'.errors = o.errors ++ [levelError] := by
  cases h with
  | kept => exact Or.inl rfl
  | warned => exact Or.inl rfl
  | refused => exact Or.inr rfl

end Measured

/-! ### Entries under two policies -/

/-- Both lists are one list, each perhaps with a message at its end. -/
def DifferAtMostBy (message : Text) (l l' : List Text) : Prop :=
  ∃ shared, (l = shared ∨ l = shared ++ [message]) ∧ (l' = shared ∨ l' = shared ++ [message])

/-- Two entries that differ at most by what a level decides. -/
structure SignatureEntry.SameButLevel (e e' : SignatureEntry) : Prop where
  /-- Everything but the verdict and the messages is the same. -/
  rest : { e' with indication := e.indication, warnings := e.warnings, errors := e.errors } = e
  warnings : DifferAtMostBy levelWarning e.warnings e'.warnings
  errors : DifferAtMostBy levelError e.errors e'.errors
  eq_of_indeterminate : e.indication = .indeterminate → e' = e

namespace Assembly

/-- The same assembly under another policy. -/
def withPolicy (a : Assembly) (policy : Policy) : Assembly := { a with policy := policy }

/-- The verdict on a signature, with its reason, before its level is measured. -/
def classified (a : Assembly) (s : SignatureFacts) : Indication × Text :=
  classify (a.format.verdict a.facts s) (a.format.reason a.facts s) (!a.containerErrors.isEmpty)

/-- The outcome of a signature before its level is measured. -/
def unmeasured (a : Assembly) (s : SignatureFacts) : Outcome :=
  ⟨(a.classified s).1, (a.classified s).2, [], []⟩

section

variable (a : Assembly) (policy : Policy) (s : SignatureFacts)

/-- The policy has no say in the outcome before its level is measured. -/
theorem unmeasured_withPolicy : (a.withPolicy policy).unmeasured s = a.unmeasured s := rfl

/-- Without levels nothing is measured. -/
theorem outcome_of_not_appliesLevels (h : a.format.appliesLevels = false) :
    a.outcome s = a.unmeasured s := by
  unfold outcome unmeasured classified resolveOutcome
  generalize classify _ _ _ = classified
  rw [h]
  rfl

/-- With levels the outcome is measured against the policy. -/
theorem outcome_of_appliesLevels (h : a.format.appliesLevels = true) :
    a.outcome s = (a.unmeasured s).applyPolicy (a.format.level a.facts s) a.policy := by
  unfold outcome unmeasured classified resolveOutcome
  generalize classify _ _ _ = classified
  rw [h]
  rfl

theorem measured_outcome : Measured (a.unmeasured s) (a.outcome s) := by
  cases h : a.format.appliesLevels with
  | false =>
    rw [a.outcome_of_not_appliesLevels s h]
    exact .kept
  | true =>
    rw [a.outcome_of_appliesLevels s h]
    exact measured_applyPolicy (a.unmeasured s) _ a.policy

/-- The reason in an entry is the one before the level is measured, for a signature that passed has
none. -/
theorem reason_eq_unmeasured :
    (if a.indication s = .passed then [] else (a.outcome s).subIndication) =
      (a.unmeasured s).subIndication := by
  rw [← (a.measured_outcome s).subIndication_eq]
  split
  · next hpassed =>
    have houtcome := ((a.indication_eq_passed_iff' s).mp hpassed).1
    exact ((a.judgement_outcome s).of_passed houtcome).2.symm
  · rfl

/-- **The policy is left out of account until the verdict and the messages.** -/
theorem entry_withPolicy :
    (a.withPolicy policy).entry s = (a.entry s).map fun e =>
      { e with
        indication := (a.withPolicy policy).indication s
        warnings := (a.withPolicy policy).warnings s
        errors := (a.withPolicy policy).errors s } := by
  have hcertificates : (a.withPolicy policy).certificates s = a.certificates s := rfl
  have hinfo : (a.withPolicy policy).info s = a.info s := rfl
  unfold entry
  rw [hcertificates, hinfo, reason_eq_unmeasured, reason_eq_unmeasured, unmeasured_withPolicy]
  cases a.certificates s with
  | error failure => rfl
  | ok certificates =>
    cases subjectName s.signingCertificate with
    | error failure => rfl
    | ok subject =>
      cases Moment.utcText? s.claimedSigningTime with
      | error failure => rfl
      | ok claimedSigningTime => cases a.info s <;> rfl

/-- Whether an entry can be made does not depend on the policy. -/
theorem fails_entry_withPolicy_iff : Fails ((a.withPolicy policy).entry s) ↔ Fails (a.entry s) := by
  rw [entry_withPolicy, fails_map_iff]

theorem differAtMostBy_warnings :
    DifferAtMostBy levelWarning (a.warnings s) ((a.withPolicy policy).warnings s) := by
  refine ⟨a.format.warnings s ++ (a.unmeasured s).warnings, ?_, ?_⟩
  · unfold warnings
    rw [List.append_assoc]
    exact (a.measured_outcome s).warnings_cases.imp (congrArg _) (congrArg _)
  · unfold warnings
    rw [List.append_assoc, ← a.unmeasured_withPolicy policy s]
    exact ((a.withPolicy policy).measured_outcome s).warnings_cases.imp (congrArg _) (congrArg _)

theorem differAtMostBy_errors :
    DifferAtMostBy levelError (a.errors s) ((a.withPolicy policy).errors s) := by
  refine ⟨a.format.errors s ++
    a.containerErrors.filter (fun e => !(a.format.errors s).contains e) ++
    (a.unmeasured s).errors, ?_, ?_⟩
  · unfold errors
    rw [List.append_assoc _ (a.unmeasured s).errors]
    exact (a.measured_outcome s).errors_cases.imp (congrArg _) (congrArg _)
  · unfold errors
    rw [List.append_assoc _ (a.unmeasured s).errors, ← a.unmeasured_withPolicy policy s]
    exact ((a.withPolicy policy).measured_outcome s).errors_cases.imp (congrArg _) (congrArg _)

/-- Where the outcomes are the same, so are the entries. -/
theorem agreesOn_withPolicy (h : a.outcome s = (a.withPolicy policy).outcome s) :
    a.AgreesOn (a.withPolicy policy) s where
  format := rfl
  containerErrors := rfl
  outcome := h
  level := rfl
  signatureFormat := rfl
  dataFileNames := rfl

/-- A signature that one policy leaves undecided has the same entry under every other one. -/
theorem entryOrFailure_withPolicy_of_indeterminate
    (h : (a.entryOrFailure s).indication = .indeterminate) :
    (a.withPolicy policy).entryOrFailure s = a.entryOrFailure s := by
  obtain ⟨-, hopen⟩ := (a.indication_entryOrFailure_iff s (by decide)).mp h
  have houtcome : (a.outcome s).indication = .indeterminate := by
    obtain ⟨hsound, hword⟩ := (a.indication_eq_indeterminate_iff s).mp hopen
    exact (a.judgement_outcome s).indication_eq_indeterminate_iff.mpr ⟨by simp [hsound], hword⟩
  have hkept := (a.measured_outcome s).eq_of_indeterminate houtcome
  have hne : (a.unmeasured s).indication ≠ .passed := by
    rw [← hkept, houtcome]
    decide
  have hkept' := ((a.withPolicy policy).measured_outcome s).eq_of_ne_passed hne
  exact (a.agreesOn_withPolicy policy s (hkept.trans hkept'.symm)).entryOrFailure_eq.symm

/-- No two policies disagree on more of an entry than what a level decides. -/
theorem sameButLevel_entryOrFailure :
    (a.entryOrFailure s).SameButLevel ((a.withPolicy policy).entryOrFailure s) := by
  have hopen := a.entryOrFailure_withPolicy_of_indeterminate policy s
  have hentry := a.entry_withPolicy policy s
  rcases a.entryOrFailure_cases s with ⟨e, hok, he, hdescribes⟩ | ⟨⟨failure, hfails⟩, he⟩
  · have he' : (a.withPolicy policy).entryOrFailure s =
        { e with
          indication := (a.withPolicy policy).indication s
          warnings := (a.withPolicy policy).warnings s
          errors := (a.withPolicy policy).errors s } := by
      unfold entryOrFailure
      rw [hentry, hok]
      rfl
    refine ⟨?_, ?_, ?_, hopen⟩
    · rw [he, he']
    · rw [he, he', hdescribes.warnings]
      exact a.differAtMostBy_warnings policy s
    · rw [he, he', hdescribes.errors]
      exact a.differAtMostBy_errors policy s
  · have he' : (a.withPolicy policy).entryOrFailure s = a.failedEntry s := by
      unfold entryOrFailure
      rw [hentry, hfails]
      rfl
    rw [he, he']
    exact ⟨rfl, ⟨_, Or.inl rfl, Or.inl rfl⟩, ⟨_, Or.inl rfl, Or.inl rfl⟩, fun _ => rfl⟩

/-- Without levels all policies give the same entry. -/
theorem entryOrFailure_withPolicy_of_not_appliesLevels (h : a.format.appliesLevels = false) :
    (a.withPolicy policy).entryOrFailure s = a.entryOrFailure s := by
  have houtcome : a.outcome s = (a.withPolicy policy).outcome s := by
    rw [a.outcome_of_not_appliesLevels s h, (a.withPolicy policy).outcome_of_not_appliesLevels s h]
    rfl
  exact (a.agreesOn_withPolicy policy s houtcome).entryOrFailure_eq.symm

/-- A signature that passes under a policy passes under every policy that is no stricter. -/
theorem indication_withPolicy_of_atLeastAsStrict {p q : Policy} (h : p.AtLeastAsStrict q)
    (hpassed : ((a.withPolicy p).entryOrFailure s).indication = .passed) :
    ((a.withPolicy q).entryOrFailure s).indication = .passed := by
  rw [indication_entryOrFailure_iff _ s (by decide), fails_entry_withPolicy_iff,
    indication_eq_passed_iff] at hpassed ⊢
  obtain ⟨hmade, hsound, hword, hown, hlevel⟩ := hpassed
  exact ⟨hmade, hsound, hword, hown, fun happlies => h.admits (hlevel happlies)⟩

end

/-! ### Conclusions under two policies -/

section

variable (a : Assembly) (p q : Policy) (time : Text)

/-- A signature that passes under a policy passes at the same place under every policy that is no
stricter. -/
theorem exists_passed_of_atLeastAsStrict (h : p.AtLeastAsStrict q) {i : ℕ} {e : SignatureEntry}
    (he : ((a.withPolicy p).conclusionAt time).signatures[i]? = some e)
    (hpassed : e.indication = .passed) :
    ∃ e', ((a.withPolicy q).conclusionAt time).signatures[i]? = some e' ∧
      e'.indication = .passed := by
  obtain ⟨s, hs, rfl⟩ := Option.map_eq_some_iff.mp (List.getElem?_map.symm.trans he)
  refine ⟨_, List.getElem?_map.trans (Option.map_eq_some_iff.mpr ⟨s, hs, rfl⟩), ?_⟩
  exact a.indication_withPolicy_of_atLeastAsStrict s h hpassed

theorem validSignaturesCount_le_of_atLeastAsStrict (h : p.AtLeastAsStrict q) :
    ((a.withPolicy p).conclusionAt time).validSignaturesCount ≤
      ((a.withPolicy q).conclusionAt time).validSignaturesCount := by
  show (List.countP _ (a.facts.signatures.map _)) ≤ List.countP _ (a.facts.signatures.map _)
  rw [List.countP_map, List.countP_map]
  refine List.countP_mono_left fun s _ hpassed => ?_
  simp only [Function.comp_apply, decide_eq_true_eq] at hpassed ⊢
  exact a.indication_withPolicy_of_atLeastAsStrict s h hpassed

theorem sameButLevel_conclusionAt :
    List.Forall₂ SignatureEntry.SameButLevel ((a.withPolicy p).conclusionAt time).signatures
      ((a.withPolicy q).conclusionAt time).signatures := by
  show List.Forall₂ _ (a.facts.signatures.map _) (a.facts.signatures.map _)
  rw [List.forall₂_map_left_iff, List.forall₂_map_right_iff, List.forall₂_same]
  intro s _
  exact (a.withPolicy p).sameButLevel_entryOrFailure q s

theorem signatures_conclusionAt_of_not_appliesLevels (h : a.format.appliesLevels = false) :
    ((a.withPolicy p).conclusionAt time).signatures =
      ((a.withPolicy q).conclusionAt time).signatures := by
  apply List.map_congr_left
  intro s _
  exact (a.withPolicy q).entryOrFailure_withPolicy_of_not_appliesLevels p s h

end

end Assembly

/-! ### A sample -/

/-- A policy that accepts qualified electronic signatures and nothing else. -/
def qualifiedPolicy : Policy := { qesPolicy with accepted := ["QES"], warned := [] }

/-- A signature with a level that the engine passed. -/
def SignatureFacts.ofLevel (id level : Text) : SignatureFacts :=
  { ofWord id "PASSED" with qualification := some level }

/-- Two signatures with levels, the second one below the first. -/
def Facts.twoLevels : Facts :=
  .ofSignatures "pdf" [.ofLevel "S0" "QES", .ofLevel "S1" "ADESIG_QC"] []

/-! ### Reports under two policies -/

/-- **A policy that is no stricter passes at least the same signatures, and two policies differ in
nothing but verdicts and one final message of either kind.**  They agree on every signature that
one of them leaves undecided, and on every signature of a digidoc container. -/
theorem indications_of_policies (settings : Settings) (facts : Facts) (document : Document)
    (type : ReportType) {time : Moment} (h : time.InRange) :
    ∃ report : Policy → Conclusion,
      (∀ p, ∃ l, (Assembly.ofFacts facts document p settings.reportSignatureEnabled).layers type
          time = .ok l ∧
        l.simple.conclusion = report p ∧ l.detailed.conclusion = report p ∧
        l.diagnostic.conclusion = report p) ∧
      (∀ p q, p.AtLeastAsStrict q →
        (∀ (i : ℕ) (e : SignatureEntry), (report p).signatures[i]? = some e →
          e.indication = .passed →
          ∃ e', (report q).signatures[i]? = some e' ∧ e'.indication = .passed) ∧
        (report p).validSignaturesCount ≤ (report q).validSignaturesCount) ∧
      (∀ p q, (report p).signatures.length = facts.signatures.length ∧
        List.Forall₂ SignatureEntry.SameButLevel (report p).signatures (report q).signatures ∧
        { report q with policy := p, signatures := (report p).signatures } = report p) ∧
      (normalized facts.documentFormat = "DDOC" →
        ∀ p q, (report p).signatures = (report q).signatures) := by
  obtain ⟨c, -, htext⟩ := h.exists_utcText
  generalize hstart : Assembly.ofFacts facts document qesPolicy settings.reportSignatureEnabled = a
  have hpolicy : ∀ p, Assembly.ofFacts facts document p settings.reportSignatureEnabled =
      a.withPolicy p := by
    intro p
    rw [← hstart]
    rfl
  have hsignatures : facts.signatures = a.facts.signatures := by
    rw [← hstart]
    rfl
  have hformat : a.format = facts.format := by
    rw [← hstart]
    rfl
  refine ⟨fun p => (a.withPolicy p).conclusionAt c.utcText, ?_, ?_, ?_, ?_⟩
  · intro p
    refine ⟨(a.withPolicy p).layersAt c.utcText type, ?_, rfl, rfl, rfl⟩
    rw [hpolicy, Assembly.layers_eq, htext]
    rfl
  · intro p q hstrict
    exact ⟨fun i e => a.exists_passed_of_atLeastAsStrict p q c.utcText hstrict,
      a.validSignaturesCount_le_of_atLeastAsStrict p q c.utcText hstrict⟩
  · intro p q
    refine ⟨?_, a.sameButLevel_conclusionAt p q c.utcText, rfl⟩
    rw [hsignatures]
    exact List.length_map _
  · intro hname p q
    apply a.signatures_conclusionAt_of_not_appliesLevels p q c.utcText
    rw [hformat]
    unfold Facts.format formatOf
    rw [hname]
    decide

/-- The stricter policy passes one of the two signatures, and the other policy both. -/
theorem indications_of_policies_twoLevels :
    Moment.noon.InRange ∧ qualifiedPolicy.AtLeastAsStrict qesPolicy ∧
      ∃ l l', (Assembly.ofFacts Facts.twoLevels ⟨[], [], none, []⟩ qualifiedPolicy false).layers
          .simple Moment.noon = .ok l ∧
        (Assembly.ofFacts Facts.twoLevels ⟨[], [], none, []⟩ qesPolicy false).layers
          .simple Moment.noon = .ok l' ∧
        l.simple.conclusion.validSignaturesCount ≤ l'.simple.conclusion.validSignaturesCount ∧
        ∃ e₀ e₁ e₀' e₁', l.simple.conclusion.signatures = [e₀, e₁] ∧
          l'.simple.conclusion.signatures = [e₀', e₁'] ∧
          e₀.indication = .passed ∧ e₀'.indication = .passed ∧
          e₁.indication = .failed ∧ e₁'.indication = .passed ∧ e₁.SameButLevel e₁' := by
  have hnoon : Moment.noon.InRange := by decide
  have hstrict : qualifiedPolicy.AtLeastAsStrict qesPolicy := by
    refine Or.inr ⟨?_, ?_, ?_⟩ <;> decide
  obtain ⟨report, hmade, hpasses, hdiffer, -⟩ := indications_of_policies .standard
    Facts.twoLevels ⟨[], [], none, []⟩ .simple hnoon
  obtain ⟨l, hl, hreport, -⟩ := hmade qualifiedPolicy
  obtain ⟨l', hl', hreport', -⟩ := hmade qesPolicy
  obtain ⟨hpass, hcount⟩ := hpasses qualifiedPolicy qesPolicy hstrict
  obtain ⟨-, hsame, -⟩ := hdiffer qualifiedPolicy qesPolicy
  rw [← hreport, ← hreport'] at hpass hcount hsame
  have hentries := (Assembly.conclusion_of_layers hl).2.2
  have hentries' := (Assembly.conclusion_of_layers hl').2.2
  rw [hentries, hentries'] at hsame
  obtain ⟨-, hrest⟩ := List.forall₂_cons.mp hsame
  obtain ⟨hsecond, -⟩ := List.forall₂_cons.mp hrest
  have hverdict := Assembly.indication_entryOrFailure_ofFacts Facts.twoLevels
    ⟨[], [], none, []⟩ qualifiedPolicy false
  have hverdict' := Assembly.indication_entryOrFailure_ofFacts Facts.twoLevels
    ⟨[], [], none, []⟩ qesPolicy false
  have hpassed := (hverdict (.ofLevel "S0" "QES")).1.mpr
    ⟨by decide, not_fails_iff.mpr ⟨_, rfl⟩, by decide⟩
  obtain ⟨e₀', he₀', hpassed'⟩ := hpass 0 _ (by rw [hentries]; rfl) hpassed
  have hrefused := (hverdict (.ofLevel "S1" "ADESIG_QC")).2.2.mpr
    fun hfor => absurd hfor.2.2 (by decide)
  have hadmitted := (hverdict' (.ofLevel "S1" "ADESIG_QC")).1.mpr
    ⟨by decide, not_fails_iff.mpr ⟨_, rfl⟩, by decide⟩
  rw [hentries'] at he₀'
  cases he₀'
  exact ⟨hnoon, hstrict, l, l', hl, hl', hcount, _, _, _, _, hentries, hentries', hpassed, hpassed',
    hrefused, hadmitted, hsecond⟩

end ValidationReport
