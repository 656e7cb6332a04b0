import Mathlib.Data.List.TakeWhile
import ValidationReport.Proofs.Strictness

/-!
# Levels measured one after the other

An outcome may be measured against several levels, each time as the measurement
before has left it.  As long as the levels pass, the outcome passes and gathers
warnings.  The first level that the policy does not list ends this: the outcome is
turned down with an error, and nothing touches it from then on.  So the verdict and
the errors tell only whether all levels are listed, while the warnings also tell how
far the measurements came.

## Main definitions

* `Outcome.applyLevels` — an outcome measured against levels in order.
* `Policy.listedPart` — the levels before the first one that a policy does not list.
* `Policy.DeservesWarning` — a level that passes with a warning.

## Main results

* `applyLevels_of_settled` — what has not passed stays as it is.
* `applyLevels_of_listed` — a run over levels that pass.
* `outcome_of_levels` — **the outcome after any run of levels.**
-/

namespace ValidationReport

/-- An outcome measured against levels in order, each on the result of the one before. -/
def Outcome.applyLevels (o : Outcome) (levels : List Text) (policy : Policy) : Outcome :=
  levels.foldl (fun o level => o.applyPolicy level policy) o

namespace Policy

/-- A level that passes with a warning.  A level that is accepted as well needs none. -/
def DeservesWarning (p : Policy) (level : Text) : Prop := level ∈ p.warned ∧ level ∉ p.accepted

instance (p : Policy) (level : Text) : Decidable (p.DeservesWarning level) :=
  inferInstanceAs (Decidable (_ ∧ _))

/-- The levels before the first one that is neither accepted nor passed with a warning. -/
def listedPart (p : Policy) (levels : List Text) : List Text :=
  levels.takeWhile p.levels.contains

/-- The warnings for levels that pass: one for each that deserves it. -/
def warningsFor (p : Policy) (levels : List Text) : List Text :=
  (levels.filter fun level => p.DeservesWarning level).map fun _ => levelWarning

theorem warningsFor_cons (p : Policy) (level : Text) (levels : List Text) :
    p.warningsFor (level :: levels) =
      (if p.DeservesWarning level then [levelWarning] else []) ++ p.warningsFor levels := by
  unfold warningsFor
  by_cases h : p.DeservesWarning level <;> simp [h]

/-- If not all levels are listed, there is a first one that is not. -/
theorem exists_not_listed {p : Policy} {levels : List Text}
    (h : ¬ ∀ level ∈ levels, level ∈ p.levels) :
    ∃ level after, levels = p.listedPart levels ++ level :: after ∧ level ∉ p.levels := by
  cases hrest : levels.dropWhile p.levels.contains with
  | nil => exact absurd (by simpa using List.dropWhile_eq_nil_iff.mp hrest) h
  | cons level after =>
    have hhead := List.head?_dropWhile_not p.levels.contains levels
    rw [hrest] at hhead
    refine ⟨level, after, ?_, by simpa using hhead⟩
    rw [← hrest]
    exact List.takeWhile_append_dropWhile.symm

theorem listedPart_eq_self_iff {p : Policy} {levels : List Text} :
    p.listedPart levels = levels ↔ ∀ level ∈ levels, level ∈ p.levels := by
  simp [listedPart, List.takeWhile_eq_self_iff]

end Policy

section

variable {o : Outcome} {policy : Policy}

theorem applyLevels_append (o : Outcome) (before after : List Text) (policy : Policy) :
    o.applyLevels (before ++ after) policy =
      (o.applyLevels before policy).applyLevels after policy :=
  List.foldl_append

/-! ### One level -/

/-- A policy that asks for no level measures nothing. -/
theorem applyPolicy_of_not_requiresLevel (h : policy.requiresLevel = false) (o : Outcome)
    (level : Text) : o.applyPolicy level policy = o := by
  unfold Outcome.applyPolicy
  rw [if_pos (Or.inr h)]

/-- What has passed is measured if a level is required. -/
theorem applyPolicy_of_passed (hpassed : o.indication = .passed)
    (hrequired : policy.requiresLevel = true) (level : Text) :
    o.applyPolicy level policy =
      if level ∈ policy.accepted then o
      else if level ∈ policy.warned then { o with warnings := o.warnings ++ [levelWarning] }
      else { o with indication := .failed, errors := o.errors ++ [levelError] } := by
  unfold Outcome.applyPolicy
  simp [hpassed, hrequired]

/-- A listed level leaves a passed outcome passed, perhaps with a warning. -/
theorem applyPolicy_of_listed (hpassed : o.indication = .passed)
    (hrequired : policy.requiresLevel = true) {level : Text} (h : level ∈ policy.levels) :
    o.applyPolicy level policy =
      { o with warnings := o.warnings ++
        if policy.DeservesWarning level then [levelWarning] else [] } := by
  rw [applyPolicy_of_passed hpassed hrequired]
  by_cases haccepted : level ∈ policy.accepted
  · simp [haccepted, Policy.DeservesWarning]
  · have hwarned : level ∈ policy.warned := (List.mem_append.mp h).resolve_left haccepted
    simp [haccepted, hwarned, Policy.DeservesWarning]

/-- A level that is not listed turns a passed outcome down. -/
theorem applyPolicy_of_not_listed (hpassed : o.indication = .passed)
    (hrequired : policy.requiresLevel = true) {level : Text} (h : level ∉ policy.levels) :
    o.applyPolicy level policy =
      { o with indication := .failed, errors := o.errors ++ [levelError] } := by
  obtain ⟨haccepted, hwarned⟩ : level ∉ policy.accepted ∧ level ∉ policy.warned := by
    simpa [Policy.levels] using h
  rw [applyPolicy_of_passed hpassed hrequired, if_neg haccepted, if_neg hwarned]

/-! ### Runs of levels -/

/-- What has not passed is neither changed nor raised by any run. -/
theorem applyLevels_of_settled (h : o.indication ≠ .passed ∨ policy.requiresLevel = false)
    (levels : List Text) : o.applyLevels levels policy = o := by
  have hstep : ∀ level, o.applyPolicy level policy = o := by
    intro level
    rcases h with hsettled | hfree
    · exact applyPolicy_of_ne_passed hsettled level policy
    · exact applyPolicy_of_not_requiresLevel hfree o level
  induction levels with
  | nil => rfl
  | cons level levels ih =>
    unfold Outcome.applyLevels at ih ⊢
    rw [List.foldl_cons, hstep, ih]

/-- A run over listed levels only gathers warnings.  The outcome stays passed throughout, which is
what carries the induction. -/
theorem applyLevels_of_listed (hrequired : policy.requiresLevel = true) :
    ∀ (levels : List Text) (o : Outcome), o.indication = .passed →
      (∀ level ∈ levels, level ∈ policy.levels) → o.applyLevels levels policy =
        { o with warnings := o.warnings ++ policy.warningsFor levels } := by
  intro levels
  induction levels with
  | nil =>
    intro o _ _
    simp [Outcome.applyLevels, Policy.warningsFor]
  | cons level levels ih =>
    intro o hpassed hlisted
    have hlevel : level ∈ policy.levels := hlisted level List.mem_cons_self
    have hlevels : ∀ l ∈ levels, l ∈ policy.levels := fun l hl =>
      hlisted l (List.mem_cons_of_mem level hl)
    have hfirst := applyPolicy_of_listed hpassed hrequired hlevel
    have hrest := ih (o.applyPolicy level policy) (by rw [hfirst]; exact hpassed) hlevels
    rw [hfirst] at hrest
    unfold Outcome.applyLevels at hrest ⊢
    rw [List.foldl_cons, hfirst, hrest, Policy.warningsFor_cons, List.append_assoc]

/-- A run that comes upon a level that is not listed ends there. -/
theorem applyLevels_of_not_listed (hpassed : o.indication = .passed)
    (hrequired : policy.requiresLevel = true) {before after : List Text} {level : Text}
    (hbefore : ∀ l ∈ before, l ∈ policy.levels) (hlevel : level ∉ policy.levels) :
    o.applyLevels (before ++ level :: after) policy =
      { o with
        indication := .failed
        warnings := o.warnings ++ policy.warningsFor before
        errors := o.errors ++ [levelError] } := by
  have hrun := applyLevels_of_listed hrequired before o hpassed hbefore
  have hstep := applyPolicy_of_not_listed
    (o := { o with warnings := o.warnings ++ policy.warningsFor before }) hpassed hrequired hlevel
  have hcons : ∀ o' : Outcome, o'.applyLevels (level :: after) policy =
      (o'.applyPolicy level policy).applyLevels after policy := fun _ => rfl
  -- the outcome is turned down here, and what is left of the run does not touch it
  rw [applyLevels_append, hrun, hcons, hstep]
  exact applyLevels_of_settled (Or.inl (by simp)) after

/-- **What a run makes of a passed outcome.**  If not all levels are listed, it ends with the first
one that is not. -/
theorem applyLevels_eq (hpassed : o.indication = .passed)
    (hrequired : policy.requiresLevel = true) (levels : List Text) :
    o.applyLevels levels policy =
      if policy.listedPart levels = levels then
        { o with warnings := o.warnings ++ policy.warningsFor (policy.listedPart levels) }
      else
        { o with
          indication := .failed
          warnings := o.warnings ++ policy.warningsFor (policy.listedPart levels)
          errors := o.errors ++ [levelError] } := by
  split
  · next hall =>
    rw [hall]
    exact applyLevels_of_listed hrequired levels o hpassed (Policy.listedPart_eq_self_iff.mp hall)
  · next hunlisted =>
    rw [Policy.listedPart_eq_self_iff] at hunlisted
    have hpart : ∀ level ∈ policy.listedPart levels, level ∈ policy.levels := fun level hlevel =>
      List.contains_iff_mem.mp (List.mem_takeWhile_imp hlevel)
    obtain ⟨level, after, hsplit, hlevel⟩ := Policy.exists_not_listed hunlisted
    conv_lhs => rw [hsplit]
    exact applyLevels_of_not_listed hpassed hrequired hpart hlevel

end

/-- **The outcome after any run of levels.**  A passed outcome under a policy that asks for a level
keeps its reason and gathers a warning for each level of the listed part that deserves one; it
passes if that part is all of the levels, and is turned down with one error otherwise.  Verdict and
errors are the same in every order, and whatever has not passed after some of the levels is left
alone by the others. -/
theorem outcome_of_levels (o : Outcome) (policy : Policy) (levels : List Text) :
    (o.indication ≠ .passed ∨ policy.requiresLevel = false → o.applyLevels levels policy = o) ∧
    (o.indication = .passed → policy.requiresLevel = true →
      (o.applyLevels levels policy).subIndication = o.subIndication ∧
      (o.applyLevels levels policy).warnings =
        o.warnings ++ policy.warningsFor (policy.listedPart levels) ∧
      (policy.listedPart levels = levels →
        (o.applyLevels levels policy).indication = .passed ∧
          (o.applyLevels levels policy).errors = o.errors) ∧
      (policy.listedPart levels ≠ levels →
        (o.applyLevels levels policy).indication = .failed ∧
          (o.applyLevels levels policy).errors = o.errors ++ [levelError])) ∧
    (∀ levels', levels.Perm levels' →
      (o.applyLevels levels policy).indication = (o.applyLevels levels' policy).indication ∧
        (o.applyLevels levels policy).errors = (o.applyLevels levels' policy).errors) ∧
    (∀ before after, levels = before ++ after → (o.applyLevels before policy).indication ≠ .passed →
      o.applyLevels levels policy = o.applyLevels before policy) := by
  refine ⟨fun hsettled => applyLevels_of_settled hsettled levels, ?_, ?_, ?_⟩
  · intro hpassed hrequired
    rw [applyLevels_eq hpassed hrequired]
    split
    · next hall => exact ⟨rfl, rfl, fun _ => ⟨hpassed, rfl⟩, fun hpart => absurd hall hpart⟩
    · next hpart => exact ⟨rfl, rfl, fun hall => absurd hall hpart, fun _ => ⟨rfl, rfl⟩⟩
  · intro levels' hperm
    by_cases hsettled : o.indication ≠ .passed ∨ policy.requiresLevel = false
    · rw [applyLevels_of_settled hsettled, applyLevels_of_settled hsettled]
      exact ⟨rfl, rfl⟩
    · rw [not_or, not_not, Bool.not_eq_false] at hsettled
      -- whether all levels are listed does not depend on their order
      have hsame : policy.listedPart levels = levels ↔ policy.listedPart levels' = levels' := by
        simp only [Policy.listedPart_eq_self_iff, hperm.mem_iff]
      rw [applyLevels_eq hsettled.1 hsettled.2, applyLevels_eq hsettled.1 hsettled.2]
      simp only [hsame]
      split <;> exact ⟨rfl, rfl⟩
  · rintro before after rfl hsettled
    rw [applyLevels_append]
    exact applyLevels_of_settled (Or.inl hsettled) after

/-- A level among both kinds is accepted, and nothing after the third level counts. -/
example : (Outcome.mk .passed [] [] []).applyLevels ["B", "A", "C", "B"]
    ⟨[], [], [], ["A"], ["A", "B"]⟩ = ⟨.failed, [], [levelWarning], [levelError]⟩ := by
  decide

end ValidationReport
