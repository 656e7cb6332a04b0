import Mathlib.Data.List.Basic
import ValidationReport.Proofs.Strictness

/-!
# The messages of an entry

Messages come from three sources: the engine speaks about the signature, the
container has faults, and the level may fall short of what the policy asks for.
In a digidoc container the engine's errors are shared out between errors and
warnings.  On the way no message is lost, and none is made up but the one about
the level: every text stands in an entry as often as its sources have it, and a
fault of the container that is an error of the signature already is not told
twice.

## Main definitions

* `Issue.StaysError` — an error of the engine that is reported as one.
* `Format.keptErrors`, `Format.movedErrors` — the engine's errors, shared out.
* `Assembly.LevelRefused`, `Assembly.LevelWarned` — the level brings in a message.
* `Assembly.Relays` — an entry has the messages of its sources and no others.

## Main results

* `Format.count_keptErrors_add` — sharing out keeps every message.
* `Assembly.messages_outcome` — the message about the level.
* `Assembly.errors_eq_append`, `Assembly.warnings_eq_append` — the sources in order.
* `messages_of_entry` — **an entry that could be made relays its messages.**
-/

namespace ValidationReport

/-! ### Errors that are shared out -/

/-- An error of the engine is reported as one unless it is the harmless one of a digidoc
container. -/
def Issue.StaysError (format : Format) (i : Issue) : Prop :=
  format = .digidoc → i.code ≠ some 173

instance (format : Format) (i : Issue) : Decidable (i.StaysError format) :=
  inferInstanceAs (Decidable (_ → _))

theorem Issue.decide_staysError_digidoc (i : Issue) :
    decide (i.StaysError .digidoc) = !i.isHarmless := by
  by_cases h : i.code = some 173 <;> simp [StaysError, isHarmless, missingNamespace, h]

namespace Format

/-- The engine's errors that are reported as errors. -/
def keptErrors (format : Format) (s : SignatureFacts) : List Text :=
  (s.errors.filter fun i => i.StaysError format).map Issue.message

/-- The engine's errors that are reported as warnings. -/
def movedErrors (format : Format) (s : SignatureFacts) : List Text :=
  (s.errors.filter fun i => !decide (i.StaysError format)).map Issue.message

variable (format : Format) (s : SignatureFacts)

theorem errors_eq_keptErrors : format.errors s = format.keptErrors s := by
  cases format with
  | digidoc => simp only [errors, keptErrors, Issue.decide_staysError_digidoc]
  | _ => simp [errors, keptErrors, Issue.StaysError]

theorem warnings_eq_append_movedErrors :
    format.warnings s = s.warnings.map Issue.message ++ format.movedErrors s := by
  cases format with
  | digidoc => simp only [warnings, movedErrors, Issue.decide_staysError_digidoc, Bool.not_not]
  | _ => simp [warnings, movedErrors, Issue.StaysError]

/-- Sharing out the engine's errors keeps every one of them. -/
theorem count_keptErrors_add (m : Text) :
    (format.keptErrors s).count m + (format.movedErrors s).count m =
      (s.errors.map Issue.message).count m := by
  unfold keptErrors movedErrors
  rw [← List.count_append, ← List.map_append]
  exact ((List.filter_append_perm _ s.errors).map Issue.message).count_eq m

end Format

/-! ### The message about the level -/

namespace Assembly

variable (a : Assembly) (s : SignatureFacts)

/-- The level counts if the format has levels, the policy asks for one, and the signature is
classified as passed. -/
def LevelCounts : Prop :=
  a.format.appliesLevels = true ∧ a.policy.requiresLevel = true ∧ (a.classified s).1 = .passed

/-- The level counts, and the policy turns it down. -/
def LevelRefused : Prop :=
  a.LevelCounts s ∧ a.format.level a.facts s ∉ a.policy.accepted ∧
    a.format.level a.facts s ∉ a.policy.warned

/-- The level counts, and the policy lets it pass with a warning. -/
def LevelWarned : Prop :=
  a.LevelCounts s ∧ a.format.level a.facts s ∉ a.policy.accepted ∧
    a.format.level a.facts s ∈ a.policy.warned

instance : Decidable (a.LevelCounts s) := inferInstanceAs (Decidable (_ ∧ _))

instance : Decidable (a.LevelRefused s) := inferInstanceAs (Decidable (_ ∧ _))

instance : Decidable (a.LevelWarned s) := inferInstanceAs (Decidable (_ ∧ _))

/-- An outcome has the message about the level and no other. -/
theorem messages_outcome :
    (a.outcome s).errors = (if a.LevelRefused s then [levelError] else []) ∧
      (a.outcome s).warnings = if a.LevelWarned s then [levelWarning] else [] := by
  cases happlies : a.format.appliesLevels with
  | false =>
    rw [a.outcome_of_not_appliesLevels s happlies]
    simp [LevelRefused, LevelWarned, LevelCounts, happlies, unmeasured]
  | true =>
    rw [a.outcome_of_appliesLevels s happlies]
    unfold Outcome.applyPolicy unmeasured
    by_cases hcounts : a.LevelCounts s
    · obtain ⟨-, hrequired, hpassed⟩ := hcounts
      by_cases haccepted : a.format.level a.facts s ∈ a.policy.accepted
      · simp [LevelRefused, LevelWarned, hrequired, hpassed, haccepted]
      · by_cases hwarned : a.format.level a.facts s ∈ a.policy.warned <;>
          simp [LevelRefused, LevelWarned, LevelCounts, happlies, hrequired, hpassed, haccepted,
            hwarned]
    · have hkept : (a.classified s).1 ≠ .passed ∨ a.policy.requiresLevel = false := by
        by_contra hmeasured
        rw [not_or, not_not, Bool.not_eq_false] at hmeasured
        exact hcounts ⟨happlies, hmeasured.2, hmeasured.1⟩
      simp [LevelRefused, LevelWarned, hcounts, hkept]

/-- The policy does not both turn a level down and let it pass. -/
theorem not_levelRefused_and_levelWarned : ¬ (a.LevelRefused s ∧ a.LevelWarned s) := by
  rintro ⟨⟨-, -, hrefused⟩, -, -, hwarned⟩
  exact hrefused hwarned

/-! ### The messages of an entry -/

/-- All errors of a signature, by their sources. -/
theorem errors_eq_append : a.errors s = a.format.keptErrors s ++
    a.containerErrors.filter (fun m => m ∉ a.format.keptErrors s) ++
      if a.LevelRefused s then [levelError] else [] := by
  unfold errors
  rw [(a.messages_outcome s).1, a.format.errors_eq_keptErrors s]
  simp

/-- All warnings about a signature, by their sources. -/
theorem warnings_eq_append : a.warnings s = s.warnings.map Issue.message ++
    a.format.movedErrors s ++ if a.LevelWarned s then [levelWarning] else [] := by
  unfold warnings
  rw [(a.messages_outcome s).2, a.format.warnings_eq_append_movedErrors s]

/-- An entry has the messages of its signature, then the faults of the container that are not
among them, then the message about the level, and every message as often as its sources have
it. -/
structure Relays (e : SignatureEntry) : Prop where
  errors : e.errors = a.format.keptErrors s ++
    a.containerErrors.filter (fun m => m ∉ a.format.keptErrors s) ++
      if a.LevelRefused s then [levelError] else []
  warnings : e.warnings = s.warnings.map Issue.message ++ a.format.movedErrors s ++
    if a.LevelWarned s then [levelWarning] else []
  not_both : ¬ (a.LevelRefused s ∧ a.LevelWarned s)
  /-- The errors of the engine are all told, as errors or as warnings. -/
  count_shared : ∀ m, (a.format.keptErrors s).count m + (a.format.movedErrors s).count m =
    (s.errors.map Issue.message).count m
  /-- What is an error of the signature and a fault of the container is not told for both. -/
  count_errors : ∀ m, e.errors.count m =
    max ((a.format.keptErrors s).count m) (a.containerErrors.count m) +
      if a.LevelRefused s ∧ m = levelError then 1 else 0
  count_warnings : ∀ m, e.warnings.count m =
    (s.warnings.map Issue.message).count m + (a.format.movedErrors s).count m +
      if a.LevelWarned s ∧ m = levelWarning then 1 else 0
  /-- A text that the engine alone gives is told as often as it was given. -/
  count_given : ∀ m, m ∉ a.containerErrors → ¬ (a.LevelRefused s ∧ m = levelError) →
    ¬ (a.LevelWarned s ∧ m = levelWarning) → e.errors.count m + e.warnings.count m =
      (s.errors.map Issue.message).count m + (s.warnings.map Issue.message).count m

/-- A message that is added under a condition counts once if the condition holds. -/
theorem count_ite_singleton (p : Prop) [Decidable p] (m m' : Text) :
    (if p then [m'] else []).count m = if p ∧ m = m' then 1 else 0 := by
  by_cases hp : p
  · by_cases hm : m = m' <;> simp [hp, hm, eq_comm]
  · simp [hp]

theorem count_errors_eq (hfaults : a.containerErrors.Nodup) (m : Text) : (a.errors s).count m =
    max ((a.format.keptErrors s).count m) (a.containerErrors.count m) +
      if a.LevelRefused s ∧ m = levelError then 1 else 0 := by
  rw [errors_eq_append, List.count_append, count_ite_singleton,
    count_append_filter_notMem _ hfaults]

theorem count_warnings_eq (m : Text) : (a.warnings s).count m =
    (s.warnings.map Issue.message).count m + (a.format.movedErrors s).count m +
      if a.LevelWarned s ∧ m = levelWarning then 1 else 0 := by
  rw [warnings_eq_append, List.count_append, List.count_append, count_ite_singleton]

end Assembly

/-! ### Samples -/

/-- A signature of a digidoc container with an error that is harmless and one that is told
twice. -/
def SignatureFacts.withHarmless : SignatureFacts :=
  { ofWord "S0" [] with
    errors := [⟨"namespace", some 173⟩, ⟨"digest", none⟩, ⟨"digest", some 5⟩]
    warnings := [⟨"weak", none⟩] }

/-- A signature with an error and a level that the policy turns down. -/
def SignatureFacts.ofLowLevel : SignatureFacts :=
  { ofLevel "S0" "NA" with errors := [⟨"digest", none⟩] }

/-! ### Relayed messages -/

/-- **An entry that could be made relays its messages: none is lost, and none is made up but the
one about the level.** -/
theorem messages_of_entry (format : Format) (facts : Facts) (document : Document) (policy : Policy)
    (hashed : Bool) (extra : List Text) (s : SignatureFacts) (e : SignatureEntry)
    (h : (Assembly.ofParts format facts document policy hashed extra).entry s = .ok e) :
    (mergedErrors facts extra).Nodup ∧
      (Assembly.ofParts format facts document policy hashed extra).Relays s e := by
  have hnodup : (mergedErrors facts extra).Nodup := (mergesFirst_mergedErrors facts extra).nodup
  generalize ha : Assembly.ofParts format facts document policy hashed extra = a at h ⊢
  have hfaults : a.containerErrors.Nodup := by
    rw [← ha]
    exact hnodup
  have hdescribes := Assembly.describes_of_entry h
  have herrors := hdescribes.errors.trans (a.errors_eq_append s)
  have hwarnings := hdescribes.warnings.trans (a.warnings_eq_append s)
  have hcount := a.count_errors_eq s hfaults
  have hcount' := a.count_warnings_eq s
  rw [← hdescribes.errors] at hcount
  rw [← hdescribes.warnings] at hcount'
  have hshared := a.format.count_keptErrors_add s
  refine ⟨hnodup, herrors, hwarnings, a.not_levelRefused_and_levelWarned s, hshared, hcount,
    hcount', ?_⟩
  intro m hfault hrefused hwarned
  have hnone : a.containerErrors.count m = 0 := List.count_eq_zero.mpr hfault
  rw [hcount m, hcount' m, if_neg hrefused, if_neg hwarned, hnone, ← hshared m]
  omega

/-- In the digidoc container the harmless error is a warning, and the error that the container has
as well is told twice and not three times.  Elsewhere the level adds its error at the end. -/
theorem messages_of_entry_samples :
    (∃ e, (Assembly.ofParts .digidoc (.ofSignatures "ddoc" [] []) ⟨[], [], none, []⟩ qesPolicy false
        ["entry", "digest", "entry"]).entry .withHarmless = .ok e ∧
      e.errors = ["digest", "digest", "entry"] ∧ e.warnings = ["weak", "namespace"]) ∧
    ∃ e, (Assembly.ofParts .generic (.ofSignatures "pdf" [] []) ⟨[], [], none, []⟩ qesPolicy false
        []).entry .ofLowLevel = .ok e ∧
      e.errors = [("digest" : Text), levelError] ∧ e.warnings = [] := by
  constructor
  · obtain ⟨e, he⟩ : ∃ e, (Assembly.ofParts .digidoc (.ofSignatures "ddoc" [] [])
        ⟨[], [], none, []⟩ qesPolicy false ["entry", "digest", "entry"]).entry .withHarmless =
          .ok e := ⟨_, rfl⟩
    obtain ⟨-, hrelays⟩ := messages_of_entry _ _ _ _ _ _ _ e he
    refine ⟨e, he, ?_, ?_⟩
    · rw [hrelays.errors]
      decide
    · rw [hrelays.warnings]
      decide
  · obtain ⟨e, he⟩ : ∃ e, (Assembly.ofParts .generic (.ofSignatures "pdf" [] [])
        ⟨[], [], none, []⟩ qesPolicy false []).entry .ofLowLevel = .ok e := ⟨_, rfl⟩
    obtain ⟨-, hrelays⟩ := messages_of_entry _ _ _ _ _ _ _ e he
    refine ⟨e, he, ?_, ?_⟩
    · rw [hrelays.errors]
      decide
    · rw [hrelays.warnings]
      decide

end ValidationReport
