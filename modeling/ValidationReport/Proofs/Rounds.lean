import Mathlib.Logic.Function.Iterate
import ValidationReport.Proofs.Verdict

/-!
# Words normalised again

Before a word of the engine is classified it is normalised once or twice, and with
time marks it has been looked at before, when the word that is judged was chosen.
None of this may change the verdict.  It could only if a round of trimming and
putting into capitals made a word of the engine out of something that was none after
the round before; but what a round leaves has neither blanks around it nor letters
whose capitals are ASCII, so the next round finds nothing to do that counts.

With time marks this settles that the simple report cannot speak a signature free:
the word chosen for it passes exactly if the engine's own word does.

## Main results

* `iterate_normalized_eq_iff` — **the rounds after the first do not change whether a
  word is a plain one.**
* `classify_iterate_normalized` — nor what it comes to.
* `indication_of_rounds` — **the verdict is that of one round, and no simple report
  makes a signature pass.**
-/

namespace ValidationReport

/-! ### Rounds -/

/-- **The rounds after the first do not change whether a word is a plain one.** -/
theorem iterate_normalized_eq_iff {word plain : Text} (hplain : plain.IsPlain) (n : ℕ) :
    normalized^[n + 1] word = plain ↔ normalized word = plain := by
  induction n with
  | zero => rfl
  | succ n ih =>
    -- the last round follows another one, so it can be left out
    rw [Function.iterate_succ_apply', Function.iterate_succ_apply',
      normalized_normalized_eq_iff hplain, ← Function.iterate_succ_apply' normalized, ih]

theorem isPassed_iterate_normalized (word : Text) (n : ℕ) :
    isPassed (normalized^[n] word) = isPassed word := by
  induction n with
  | zero => rfl
  | succ n ih => rw [Function.iterate_succ_apply', isPassed_normalized, ih]

theorem isIndeterminate_iterate_normalized (word : Text) (n : ℕ) :
    isIndeterminate (normalized^[n] word) = isIndeterminate word := by
  have hplain : indeterminateWord.IsPlain := by decide
  rw [Bool.eq_iff_iff, isIndeterminate_iff, isIndeterminate_iff,
    ← Function.iterate_succ_apply' normalized, iterate_normalized_eq_iff hplain]

/-- A word that was normalised before comes to the same. -/
theorem classify_iterate_normalized (word : Text) (reason : Option Text) (faulty : Bool) (n : ℕ) :
    classify (normalized^[n] word) reason faulty = classify word reason faulty := by
  unfold classify
  rw [isPassed_normalized, isPassed_normalized, isPassed_iterate_normalized,
    isIndeterminate_iterate_normalized]

/-! ### What a word comes to -/

/-- A word passes in a sound container if one round finds it passed. -/
theorem classify_eq_passed_iff (word : Text) (reason : Option Text) (faulty : Bool) :
    (classify word reason faulty).1 = .passed ↔ faulty = false ∧ isPassed word = true := by
  -- where levels do not count, the outcome has the verdict that the word comes to
  have hjudged := judgement_resolveOutcome [] word reason faulty adesPolicy false
  refine hjudged.indication_eq_passed_iff.trans ?_
  simp

/-- A word is undecided in a sound container if one round finds it so. -/
theorem classify_eq_indeterminate_iff (word : Text) (reason : Option Text) (faulty : Bool) :
    (classify word reason faulty).1 = .indeterminate ↔
      faulty = false ∧ isIndeterminate word = true :=
  (judgement_resolveOutcome [] word reason faulty adesPolicy false).indication_eq_indeterminate_iff

/-- **The verdict is that of one round, and no simple report makes a signature pass.**  A missing
word is an empty one.  However often a word was normalised before, it comes to the same.  With time
marks the word that is judged comes to a pass exactly if the engine passed the signature, whatever
the simple report says of it, and the outcome passes only then. -/
theorem indication_of_rounds (raw reason : Option Text) (f : Facts) (s : SignatureFacts) :
    ((classify (raw.getD []) reason false).1 = .passed ↔ isPassed (raw.getD []) = true) ∧
    ((classify (raw.getD []) reason false).1 = .indeterminate ↔
      (raw.getD []).trim.upper = "INDETERMINATE") ∧
    (∀ n, isPassed (normalized^[n] (raw.getD [])) = isPassed (raw.getD []) ∧
      classify (normalized^[n] (raw.getD [])) reason false = classify (raw.getD []) reason false) ∧
    ((classify (Format.timemark.verdict f s) reason false).1 = .passed ↔
      isPassed s.indication = true) ∧
    ∀ (level : Text) (faulty : Bool) (policy : Policy) (measured : Bool),
      (resolveOutcome level (Format.timemark.verdict f s) reason faulty policy
          measured).indication = .passed ↔
        faulty = false ∧ isPassed s.indication = true ∧
          (measured = true → policy.Admits level) := by
  have hverdict : isPassed (Format.timemark.verdict f s) = isPassed s.indication :=
    isPassed_verdict (by decide) f s
  refine ⟨?_, ?_, fun n => ⟨?_, ?_⟩, ?_, fun level faulty policy measured => ?_⟩
  · rw [classify_eq_passed_iff]
    exact and_iff_right rfl
  · rw [classify_eq_indeterminate_iff, isIndeterminate_iff]
    exact and_iff_right rfl
  · exact isPassed_iterate_normalized _ n
  · exact classify_iterate_normalized _ reason false n
  · rw [classify_eq_passed_iff, hverdict]
    exact and_iff_right rfl
  · rw [(judgement_resolveOutcome level _ reason faulty policy measured).indication_eq_passed_iff,
      hverdict]

/-- The long s has an ASCII capital, so a word may pass whose letters are none of the engine's. -/
example : isPassed " paſſed " = true ∧ normalized " paſſed " = "PASSED" := by decide

end ValidationReport
