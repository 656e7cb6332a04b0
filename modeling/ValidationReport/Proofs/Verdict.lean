import ValidationReport.Proofs.Coherence
import ValidationReport.Service

/-!
# The verdict on a signature, end to end

What decides on a signature is spread over the format of the document, the
engine's word, its simple report, the container, the level of the signature and
the policy.  Here the verdict in a report is told in terms of the facts alone,
for every format at once.

## Main definitions

* `Facts.Sound` — the container has no fault.
* `Facts.levelOf` — the level of a signature, by the format of the document.
* `Facts.Merits`, `Facts.LeavesOpen` — the facts speak for a signature, or leave
  it undecided.

## Main results

* `isPassed_verdict`, `isIndeterminate_verdict_timemark`, `verdict_digidoc` — the
  word that is judged, by the format.
* `indication_of_validate` — **the verdict on every signature of a report.**
-/

namespace ValidationReport

/-! ### The word that is judged -/

/-- The errors of a digidoc signature are those of another number than the harmless one. -/
theorem digidoc_errors_eq_nil_iff (s : SignatureFacts) :
    Format.digidoc.errors s = [] ↔ ∀ i ∈ s.errors, i.code = some 173 := by
  simp [Format.errors, Issue.isHarmless, missingNamespace]

theorem errors_eq_nil_iff_of_ne_digidoc {format : Format} (h : format ≠ .digidoc)
    (s : SignatureFacts) : format.errors s = [] ↔ s.errors = [] := by
  cases format with
  | digidoc => exact absurd rfl h
  | _ => simp [Format.errors]

theorem isPassed_failedWord : isPassed failedWord = false := by decide

theorem isPassed_passedWord : isPassed passedWord = true := by decide

theorem isIndeterminate_failedWord : isIndeterminate failedWord = false := by decide

theorem isIndeterminate_passedWord : isIndeterminate passedWord = false :=
  isIndeterminate_eq_false_of_isPassed isPassed_passedWord

/-- With time marks the simple report cannot make a signature pass. -/
theorem isPassed_verdict {format : Format} (h : format ≠ .digidoc) (f : Facts)
    (s : SignatureFacts) : isPassed (format.verdict f s) = isPassed s.indication := by
  cases format with
  | digidoc => exact absurd rfl h
  | generic => rfl
  | detached => rfl
  | timemark =>
    simp only [Format.verdict]
    cases hpassed : isPassed s.indication with
    | true => rw [if_pos rfl, hpassed]
    | false =>
      rw [if_neg Bool.false_ne_true]
      cases f.simpleEntry? s with
      | none => exact isPassed_failedWord
      | some entry =>
        simp only
        split
        · next hopen =>
          rw [← Bool.not_eq_true]
          intro hentry
          rw [isIndeterminate_eq_false_of_isPassed hentry] at hopen
          cases hopen
        · exact isPassed_failedWord

/-- With time marks the simple report may leave a signature undecided that the engine failed. -/
theorem isIndeterminate_verdict_timemark (f : Facts) (s : SignatureFacts) :
    isIndeterminate (Format.timemark.verdict f s) = true ↔
      isPassed s.indication = false ∧
        ∃ entry ∈ f.simpleReports.lookup s.id, isIndeterminate entry.indication = true := by
  simp only [Format.verdict, Facts.simpleEntry?]
  cases hpassed : isPassed s.indication with
  | true => simp [isIndeterminate_eq_false_of_isPassed hpassed]
  | false =>
    rw [if_neg Bool.false_ne_true]
    cases f.simpleReports.lookup s.id with
    | none => simp [isIndeterminate_failedWord]
    | some entry =>
      by_cases hopen : isIndeterminate entry.indication = true
      · simp [hopen]
      · simp [hopen, isIndeterminate_failedWord]

theorem verdict_digidoc (f : Facts) (s : SignatureFacts) :
    Format.digidoc.verdict f s =
      if Format.digidoc.errors s = [] then passedWord else failedWord := by
  simp [Format.verdict]

/-! ### What the facts say -/

namespace Facts

/-- The engine found no fault in the container, and neither did the check of its files. -/
def Sound (f : Facts) : Prop := f.containerErrors = [] ∧ f.containerCheck.run = []

/-- The names of formats with time marks. -/
def timemarkNames : List Text := ["BDOC", "ASICE_TM"]

/-- The level of a signature: with time marks that of its entry in the simple report, elsewhere its
own, and empty where there is none. -/
def levelOf (f : Facts) (s : SignatureFacts) : Text :=
  if normalized f.documentFormat ∈ timemarkNames then
    match f.simpleReports.lookup s.id with
    | some entry => entry.qualification.getD []
    | none => []
  else s.qualification.getD []

/-- The facts speak for a signature under a policy.  A digidoc signature has none but harmless
errors; any other one was passed by the engine, has no errors, and a level that is admitted. -/
def Merits (f : Facts) (policy : Policy) (s : SignatureFacts) : Prop :=
  if normalized f.documentFormat = "DDOC" then ∀ i ∈ s.errors, i.code = some 173
  else isPassed s.indication = true ∧ s.errors = [] ∧ policy.Admits (f.levelOf s)

/-- The facts leave a signature undecided.  No digidoc signature is left so; with time marks the
simple report says it of a signature that the engine has not passed, elsewhere the engine itself. -/
def LeavesOpen (f : Facts) (s : SignatureFacts) : Prop :=
  if normalized f.documentFormat = "DDOC" then False
  else if normalized f.documentFormat ∈ timemarkNames then
    isPassed s.indication = false ∧
      ∃ entry ∈ f.simpleReports.lookup s.id, normalized entry.indication = "INDETERMINATE"
  else normalized s.indication = "INDETERMINATE"

instance (f : Facts) : Decidable f.Sound := inferInstanceAs (Decidable (_ ∧ _))

instance (f : Facts) (policy : Policy) (s : SignatureFacts) : Decidable (f.Merits policy s) :=
  inferInstanceAs (Decidable (ite _ _ _))

instance (f : Facts) (s : SignatureFacts) : Decidable (f.LeavesOpen s) :=
  inferInstanceAs (Decidable (ite _ _ _))

/-- The format of a document by the normalised name of its format. -/
theorem format_cases (f : Facts) :
    (normalized f.documentFormat = "DDOC" ∧ f.format = .digidoc) ∨
    (normalized f.documentFormat ≠ "DDOC" ∧ normalized f.documentFormat ∈ timemarkNames ∧
      f.format = .timemark) ∨
    (normalized f.documentFormat ≠ "DDOC" ∧ normalized f.documentFormat ∉ timemarkNames ∧
      (f.format = .generic ∨ f.format = .detached)) := by
  unfold format formatOf
  generalize normalized f.documentFormat = name
  simp only [timemarkNames, List.mem_cons, List.not_mem_nil, or_false]
  by_cases hdigidoc : name = "DDOC"
  · refine Or.inl ⟨hdigidoc, ?_⟩
    subst hdigidoc
    decide
  · by_cases htimemark : name = "BDOC" ∨ name = "ASICE_TM"
    · exact Or.inr (Or.inl ⟨hdigidoc, htimemark, if_pos htimemark⟩)
    · refine Or.inr (Or.inr ⟨hdigidoc, htimemark, ?_⟩)
      rw [if_neg htimemark, if_neg hdigidoc]
      split
      · exact Or.inr rfl
      · exact Or.inl rfl

/-- What the facts speak for is what the assembly of the format passes. -/
theorem merits_iff (f : Facts) (policy : Policy) (s : SignatureFacts) :
    f.Merits policy s ↔
      isPassed (f.format.verdict f s) = true ∧ f.format.errors s = [] ∧
        (f.format.appliesLevels = true → policy.Admits (f.format.level f s)) := by
  unfold Merits levelOf
  rcases f.format_cases with ⟨hname, hformat⟩ | ⟨hname, htimemark, hformat⟩ |
    ⟨hname, htimemark, hformat⟩
  · rw [if_pos hname, hformat, verdict_digidoc, ← digidoc_errors_eq_nil_iff]
    by_cases herrors : Format.digidoc.errors s = []
    · simp [herrors, Format.appliesLevels, isPassed_passedWord]
    · simp [herrors]
  · have hne : f.format ≠ .digidoc := by rw [hformat]; decide
    rw [if_neg hname, if_pos htimemark, isPassed_verdict hne, errors_eq_nil_iff_of_ne_digidoc hne,
      hformat]
    simp only [Format.appliesLevels, Format.level, Facts.simpleEntry?, forall_const]
    cases f.simpleReports.lookup s.id <;> rfl
  · have hne : f.format ≠ .digidoc := by rcases hformat with h | h <;> rw [h] <;> decide
    rw [if_neg hname, if_neg htimemark, isPassed_verdict hne, errors_eq_nil_iff_of_ne_digidoc hne]
    rcases hformat with h | h <;> rw [h] <;> simp [Format.appliesLevels, Format.level]

/-- What the facts leave open is what the assembly of the format does not decide. -/
theorem leavesOpen_iff (f : Facts) (s : SignatureFacts) :
    f.LeavesOpen s ↔ isIndeterminate (f.format.verdict f s) = true := by
  unfold LeavesOpen
  rcases f.format_cases with ⟨hname, hformat⟩ | ⟨hname, htimemark, hformat⟩ |
    ⟨hname, htimemark, hformat⟩
  · rw [if_pos hname, hformat, verdict_digidoc]
    split <;> simp [isIndeterminate_failedWord, isIndeterminate_passedWord]
  · rw [if_neg hname, if_pos htimemark, hformat, isIndeterminate_verdict_timemark]
    simp only [isIndeterminate_iff, indeterminateWord]
  · rw [if_neg hname, if_neg htimemark]
    rcases hformat with h | h <;> rw [h] <;> exact isIndeterminate_iff.symm

end Facts

/-! ### A sample -/

/-- Two signatures with time marks, of which the engine passed the first. -/
def Facts.twoTimemarks : Facts :=
  .ofSignatures "bdoc" [.ofWord "S0" " passed ", .ofWord "S1" "FAILED"]
    [("S0", .qualified), ("S1", ⟨"Indeterminate", none, none⟩)]

/-! ### The verdict -/

namespace Assembly

variable (facts : Facts) (document : Document) (policy : Policy) (hashed : Bool)
  (s : SignatureFacts)

theorem containerErrors_ofFacts_eq_nil_iff :
    (ofFacts facts document policy hashed).containerErrors = [] ↔ facts.Sound :=
  mergedErrors_eq_nil_iff facts facts.containerCheck.run

theorem indication_ofFacts_eq_passed_iff :
    (ofFacts facts document policy hashed).indication s = .passed ↔
      facts.Sound ∧ facts.Merits policy s := by
  rw [indication_eq_passed_iff, containerErrors_ofFacts_eq_nil_iff, facts.merits_iff policy s]
  rfl

theorem indication_ofFacts_eq_indeterminate_iff :
    (ofFacts facts document policy hashed).indication s = .indeterminate ↔
      facts.Sound ∧ facts.LeavesOpen s := by
  rw [indication_eq_indeterminate_iff, containerErrors_ofFacts_eq_nil_iff, facts.leavesOpen_iff s]
  rfl

/-- The verdict of an entry in terms of the facts, and of whether the entry can be made. -/
theorem indication_entryOrFailure_ofFacts :
    (((ofFacts facts document policy hashed).entryOrFailure s).indication = .passed ↔
      facts.Sound ∧ ¬ Fails ((ofFacts facts document policy hashed).entry s) ∧
        facts.Merits policy s) ∧
    (((ofFacts facts document policy hashed).entryOrFailure s).indication = .indeterminate ↔
      facts.Sound ∧ ¬ Fails ((ofFacts facts document policy hashed).entry s) ∧
        facts.LeavesOpen s) ∧
    (((ofFacts facts document policy hashed).entryOrFailure s).indication = .failed ↔
      ¬ (facts.Sound ∧ ¬ Fails ((ofFacts facts document policy hashed).entry s) ∧
        (facts.Merits policy s ∨ facts.LeavesOpen s))) := by
  have hpassed := (ofFacts facts document policy hashed).indication_entryOrFailure_iff s
    (show Indication.passed ≠ .failed by decide)
  have hopen := (ofFacts facts document policy hashed).indication_entryOrFailure_iff s
    (show Indication.indeterminate ≠ .failed by decide)
  rw [indication_ofFacts_eq_passed_iff, and_left_comm] at hpassed
  rw [indication_ofFacts_eq_indeterminate_iff, and_left_comm] at hopen
  refine ⟨hpassed, hopen, ?_⟩
  rw [and_or_left, and_or_left, ← hpassed, ← hopen]
  cases ((ofFacts facts document policy hashed).entryOrFailure s).indication <;> simp

end Assembly

/-- A request whose policy is known and whose facts can be read is answered with the layers that
are assembled from them. -/
theorem validate_eq_ok {settings : Settings} {table : PolicyTable} {time : Moment} {r : Request}
    {policy : Policy} {facts : Facts} {l : Layers}
    (hpolicy : resolvePolicy r.policy table settings.defaultPolicy = .ok policy)
    (hfacts : r.facts.facts = .ok facts)
    (hlayers : (Assembly.ofFacts facts r.document policy settings.reportSignatureEnabled).layers
      r.reportType time = .ok l) :
    validate settings table time r = .ok l := by
  unfold validate policyFor
  rw [hpolicy, hfacts]
  simp only [Except.mapError, bind, Except.bind]
  rw [hlayers]

/-- **The verdict on every signature of a report.**  A signature passes if the container is sound,
its entry can be made, and the facts speak for it; it is undecided if the facts leave it so in a
sound container; and it fails otherwise.  The layers are those that the service answers with to
every request that carries the facts and names the policy. -/
theorem indication_of_validate (settings : Settings) (policy : Policy) (facts : Facts)
    (document : Document) (type : ReportType) {time : Moment} (h : time.InRange) :
    ∃ l, (Assembly.ofFacts facts document policy settings.reportSignatureEnabled).layers type
        time = .ok l ∧
      (∀ (table : PolicyTable) (r : Request), r.document = document → r.reportType = type →
        r.facts.facts = .ok facts →
        resolvePolicy r.policy table settings.defaultPolicy = .ok policy →
        validate settings table time r = .ok l) ∧
      l.detailed.conclusion = l.simple.conclusion ∧
      l.diagnostic.conclusion = l.simple.conclusion ∧
      l.simple.conclusion.signatures.length = facts.signatures.length ∧
      ∀ (i : ℕ) (s : SignatureFacts), facts.signatures[i]? = some s →
        ∃ e, l.simple.conclusion.signatures[i]? = some e ∧
          (e.indication = .passed ↔ facts.Sound ∧
            ¬ Fails ((Assembly.ofFacts facts document policy
              settings.reportSignatureEnabled).entry s) ∧
            facts.Merits policy s) ∧
          (e.indication = .indeterminate ↔ facts.Sound ∧
            ¬ Fails ((Assembly.ofFacts facts document policy
              settings.reportSignatureEnabled).entry s) ∧
            facts.LeavesOpen s) ∧
          (e.indication = .failed ↔ ¬ (facts.Sound ∧
            ¬ Fails ((Assembly.ofFacts facts document policy
              settings.reportSignatureEnabled).entry s) ∧
            (facts.Merits policy s ∨ facts.LeavesOpen s))) := by
  obtain ⟨l, hl⟩ := (Assembly.exists_layers_iff (Assembly.ofFacts facts document policy
    settings.reportSignatureEnabled) type time).mpr h
  obtain ⟨hdetailed, hdiagnostic, hentries⟩ := Assembly.conclusion_of_layers hl
  refine ⟨l, hl, ?_, hdetailed, hdiagnostic, ?_, ?_⟩
  · rintro table r rfl rfl hfacts hpolicy
    exact validate_eq_ok hpolicy hfacts hl
  · rw [hentries, List.length_map]
    rfl
  · intro i s hs
    refine ⟨_, ?_, Assembly.indication_entryOrFailure_ofFacts facts document policy
      settings.reportSignatureEnabled s⟩
    rw [hentries, List.getElem?_map]
    exact congrArg (Option.map _) hs

/-- One of the two signatures passes, and the simple report leaves the other one undecided. -/
theorem indication_of_validate_twoTimemarks :
    Moment.noon.InRange ∧
      ∃ l, (Assembly.ofFacts Facts.twoTimemarks ⟨[], [], none, []⟩ qesPolicy false).layers .simple
          Moment.noon = .ok l ∧
        ∃ e₀ e₁, l.simple.conclusion.signatures[0]? = some e₀ ∧ e₀.indication = .passed ∧
          l.simple.conclusion.signatures[1]? = some e₁ ∧ e₁.indication = .indeterminate := by
  have hnoon : Moment.noon.InRange := by decide
  obtain ⟨l, hl, -, -, -, -, hentries⟩ := indication_of_validate .standard qesPolicy
    Facts.twoTimemarks ⟨[], [], none, []⟩ .simple hnoon
  obtain ⟨e₀, he₀, hpassed, -⟩ := hentries 0 (.ofWord "S0" " passed ") rfl
  obtain ⟨e₁, he₁, -, hopen, -⟩ := hentries 1 (.ofWord "S1" "FAILED") rfl
  refine ⟨hnoon, l, hl, e₀, e₁, he₀, ?_, he₁, ?_⟩
  · exact hpassed.mpr ⟨by decide, not_fails_iff.mpr ⟨_, rfl⟩, by decide⟩
  · exact hopen.mpr ⟨by decide, not_fails_iff.mpr ⟨_, rfl⟩, by decide⟩

end ValidationReport
