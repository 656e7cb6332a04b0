import ValidationReport.Proofs.Text

/-!
# What an outcome is made of

The engine's word is classified, and a passed signature is then measured
against the levels of a policy.  The two steps together have six cases, and a
case fixes the whole outcome: the verdict, its reason and its messages.
Everything else about verdicts is read off the cases.

## Main definitions

* `Policy.Admits` — a level with which a signature may pass.
* `Judgement` — the six cases, each with its outcome.

## Main results

* `judgement_resolveOutcome` — **the outcome of both steps is that of one of the
  six cases.**
* `Judgement.indication_eq_passed_iff`, `Judgement.indication_eq_indeterminate_iff`
  — when a signature passes, and when it stays undecided.
-/

namespace ValidationReport

/-! ### The six cases -/

/-- The policy asks for no level, or the level is one that passes, if only with a warning. -/
def Policy.Admits (p : Policy) (level : Text) : Prop :=
  p.accepted = [] ∨ level ∈ p.accepted ∨ level ∈ p.warned

instance (p : Policy) (level : Text) : Decidable (p.Admits level) :=
  inferInstanceAs (Decidable (_ ∨ _))

/-- The outcomes that a word with its reason can come to, in a container that may be faulty and
under a policy whose levels may count. -/
inductive Judgement (level word : Text) (reason : Option Text) (faulty : Bool) (policy : Policy)
    (measured : Bool) : Outcome → Prop
  /-- Whatever the word, the container is faulty. -/
  | faulty (hfaulty : faulty = true) :
    Judgement level word reason faulty policy measured ⟨.failed, reason.getD [], [], []⟩
  /-- The signature passed, and its level does not count or is accepted. -/
  | passed (hsound : faulty = false) (hword : isPassed word = true)
      (hlevel : measured = true → policy.accepted = [] ∨ level ∈ policy.accepted) :
    Judgement level word reason faulty policy measured ⟨.passed, [], [], []⟩
  /-- The signature passed with a level that deserves a warning. -/
  | warned (hsound : faulty = false) (hword : isPassed word = true) (hmeasured : measured = true)
      (hrequired : policy.accepted ≠ []) (haccepted : level ∉ policy.accepted)
      (hwarned : level ∈ policy.warned) :
    Judgement level word reason faulty policy measured ⟨.passed, [], [levelWarning], []⟩
  /-- The engine passed the signature, but its level is turned down. -/
  | refused (hsound : faulty = false) (hword : isPassed word = true) (hmeasured : measured = true)
      (hrequired : policy.accepted ≠ []) (haccepted : level ∉ policy.accepted)
      (hwarned : level ∉ policy.warned) :
    Judgement level word reason faulty policy measured ⟨.failed, [], [], [levelError]⟩
  /-- The engine gave no verdict. -/
  | undecided (hsound : faulty = false) (hword : isIndeterminate word = true) :
    Judgement level word reason faulty policy measured ⟨.indeterminate, reason.getD [], [], []⟩
  /-- The engine failed the signature, or said something that is no verdict. -/
  | failed (hsound : faulty = false) (hpassed : isPassed word = false)
      (hword : isIndeterminate word = false) :
    Judgement level word reason faulty policy measured ⟨.failed, reason.getD [], [], []⟩

/-- The three ways in which a word is classified. -/
theorem classify_cases (word : Text) (reason : Option Text) (faulty : Bool) :
    (faulty = false ∧ isPassed word = true ∧ classify word reason faulty = (.passed, [])) ∨
    (faulty = false ∧ isIndeterminate word = true ∧
      classify word reason faulty = (.indeterminate, reason.getD [])) ∨
    ((faulty = true ∨ isPassed word = false ∧ isIndeterminate word = false) ∧
      classify word reason faulty = (.failed, reason.getD [])) := by
  unfold classify
  rw [isPassed_normalized]
  cases faulty with
  | true => simp
  | false =>
    cases hpassed : isPassed word with
    | true => simp
    | false => cases hword : isIndeterminate word <;> simp

/-- Only a passed signature can lose by its level. -/
theorem applyPolicy_of_ne_passed {o : Outcome} (h : o.indication ≠ .passed) (level : Text)
    (policy : Policy) : o.applyPolicy level policy = o := by
  unfold Outcome.applyPolicy
  rw [if_pos (Or.inl h)]

/-- A word that does not pass is not measured. -/
theorem resolveOutcome_of_ne_passed {word : Text} {reason : Option Text} {faulty : Bool}
    {verdict : Indication} {why : Text} (h : classify word reason faulty = (verdict, why))
    (hne : verdict ≠ .passed) (level : Text) (policy : Policy) (measured : Bool) :
    resolveOutcome level word reason faulty policy measured = ⟨verdict, why, [], []⟩ := by
  unfold resolveOutcome
  rw [h]
  cases measured with
  | false => rfl
  | true => exact applyPolicy_of_ne_passed (o := ⟨verdict, why, [], []⟩) hne level policy

/-- **The outcome of both steps is that of one of the six cases.** -/
theorem judgement_resolveOutcome (level word : Text) (reason : Option Text) (faulty : Bool)
    (policy : Policy) (measured : Bool) :
    Judgement level word reason faulty policy measured
      (resolveOutcome level word reason faulty policy measured) := by
  rcases classify_cases word reason faulty with
    ⟨hsound, hword, h⟩ | ⟨hsound, hword, h⟩ | ⟨hcause, h⟩
  · unfold resolveOutcome
    rw [h]
    cases measured with
    | false => exact .passed hsound hword (by simp)
    | true =>
      simp only [reduceIte, Outcome.applyPolicy, ne_eq, not_true_eq_false, false_or,
        List.contains_iff_mem]
      split
      · next hrequired =>
        refine .passed hsound hword fun _ => Or.inl ?_
        simpa [Policy.requiresLevel] using hrequired
      · next hrequired =>
        have hne : policy.accepted ≠ [] := by simpa [Policy.requiresLevel] using hrequired
        split
        · next haccepted => exact .passed hsound hword fun _ => Or.inr haccepted
        · next haccepted =>
          split
          · next hwarned => exact .warned hsound hword rfl hne haccepted hwarned
          · next hwarned => exact .refused hsound hword rfl hne haccepted hwarned
  · rw [resolveOutcome_of_ne_passed h (by simp)]
    exact .undecided hsound hword
  · rw [resolveOutcome_of_ne_passed h (by simp)]
    rcases hcause with hfaulty | ⟨hpassed, hword⟩
    · exact .faulty hfaulty
    · cases hfaulty : faulty with
      | true => exact .faulty rfl
      | false => exact .failed rfl hpassed hword

/-! ### The verdict of an outcome -/

section

variable {level word : Text} {reason : Option Text} {faulty : Bool} {policy : Policy}
  {measured : Bool} {o : Outcome}

/-- A signature passes if the container is sound, the engine passed it, and its level does not
count or is admitted. -/
theorem Judgement.indication_eq_passed_iff
    (h : Judgement level word reason faulty policy measured o) :
    o.indication = .passed ↔
      faulty = false ∧ isPassed word = true ∧ (measured = true → policy.Admits level) := by
  cases h with
  | faulty hfaulty => simp [hfaulty]
  | passed hsound hword hlevel =>
    refine iff_of_true rfl ⟨hsound, hword, fun hmeasured => ?_⟩
    rcases hlevel hmeasured with hnone | haccepted
    · exact Or.inl hnone
    · exact Or.inr (Or.inl haccepted)
  | warned hsound hword hmeasured hrequired haccepted hwarned =>
    exact iff_of_true rfl ⟨hsound, hword, fun _ => Or.inr (Or.inr hwarned)⟩
  | refused hsound hword hmeasured hrequired haccepted hwarned =>
    refine iff_of_false (by simp) ?_
    rintro ⟨-, -, hadmits⟩
    rcases hadmits hmeasured with hnone | hin | hin
    · exact hrequired hnone
    · exact haccepted hin
    · exact hwarned hin
  | undecided hsound hword =>
    refine iff_of_false (by simp) ?_
    rintro ⟨-, hpassed, -⟩
    rw [isIndeterminate_eq_false_of_isPassed hpassed] at hword
    cases hword
  | failed hsound hpassed hword => simp [hpassed]

/-- A signature stays undecided if the container is sound and the engine gave no verdict. -/
theorem Judgement.indication_eq_indeterminate_iff
    (h : Judgement level word reason faulty policy measured o) :
    o.indication = .indeterminate ↔ faulty = false ∧ isIndeterminate word = true := by
  cases h with
  | faulty hfaulty => simp [hfaulty]
  | undecided hsound hword => exact iff_of_true rfl ⟨hsound, hword⟩
  | failed hsound hpassed hword => simp [hword]
  | passed hsound hword => simp [isIndeterminate_eq_false_of_isPassed hword]
  | warned hsound hword => simp [isIndeterminate_eq_false_of_isPassed hword]
  | refused hsound hword => simp [isIndeterminate_eq_false_of_isPassed hword]

/-- An outcome that passed has no error and no reason. -/
theorem Judgement.of_passed (h : Judgement level word reason faulty policy measured o)
    (hpassed : o.indication = .passed) : o.errors = [] ∧ o.subIndication = [] := by
  cases h with
  | passed => exact ⟨rfl, rfl⟩
  | warned => exact ⟨rfl, rfl⟩
  | faulty => cases hpassed
  | refused => cases hpassed
  | undecided => cases hpassed
  | failed => cases hpassed

/-- In a faulty container no level is measured, and no error comes of it. -/
theorem Judgement.errors_eq_nil_of_faulty (h : Judgement level word reason true policy measured o) :
    o.errors = [] := by
  cases h with
  | faulty => rfl
  | passed hsound => cases hsound
  | warned hsound => cases hsound
  | refused hsound => cases hsound
  | undecided hsound => cases hsound
  | failed hsound => cases hsound

end

end ValidationReport
