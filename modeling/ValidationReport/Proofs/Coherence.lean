import Mathlib.Data.List.Nodup
import ValidationReport.Proofs.Assembly

/-!
# Verdicts agree with messages

Errors reach an entry from four sources: the engine's errors on the signature,
its faults of the container, the faults that other checks find, and the level of
the signature.  Some arrive after the verdict, and the entry of a signature that
could not be processed is made apart from the others; still no report contains a
signature that passed with an error.

## Main definitions

* `MergesFirst` — a list of the members of two lists, each once, by their first
  occurrence.
* `SignatureEntry.Coherent`, `Conclusion.Coherent` — the invariant of an entry
  and of a conclusion, given the faults of the container.

## Main results

* `mergesFirst_mergedErrors` — the faults of a container are merged so.
* `Assembly.coherent_entryOrFailure` — every entry is coherent.
* `coherent_layers` — **every report is coherent, in any format and with any
  further faults.**
-/

namespace ValidationReport

/-! ### First occurrences -/

section

variable {α : Type} [DecidableEq α]

theorem mem_firstOccurrences_iff {a : α} : ∀ {l seen : List α},
    a ∈ firstOccurrences seen l ↔ a ∈ l ∧ a ∉ seen := by
  intro l
  induction l with
  | nil => simp [firstOccurrences]
  | cons c l ih =>
    intro seen
    unfold firstOccurrences
    split
    · next hc =>
      rw [ih, List.mem_cons]
      constructor
      · rintro ⟨ha, hseen⟩
        exact ⟨Or.inr ha, hseen⟩
      · rintro ⟨rfl | ha, hseen⟩
        · exact absurd hc hseen
        · exact ⟨ha, hseen⟩
    · next hc =>
      rw [List.mem_cons, ih, List.mem_cons, List.mem_cons, not_or]
      constructor
      · rintro (rfl | ⟨ha, -, hseen⟩)
        · exact ⟨Or.inl rfl, hc⟩
        · exact ⟨Or.inr ha, hseen⟩
      · rintro ⟨ha, hseen⟩
        by_cases hac : a = c
        · exact Or.inl hac
        · exact Or.inr ⟨ha.resolve_left hac, hac, hseen⟩

/-- First occurrences stand in the order of the places where their members first occur. -/
theorem pairwise_idxOf_firstOccurrences [BEq α] [LawfulBEq α] : ∀ (l seen : List α),
    (firstOccurrences seen l).Pairwise fun a b => l.idxOf a < l.idxOf b := by
  intro l
  induction l with
  | nil => simp [firstOccurrences]
  | cons c l ih =>
    intro seen
    -- a member kept from the tail differs from the head, so its place moves by one
    have hshift : ∀ seen' : List α, (∀ a ∈ firstOccurrences seen' l, a ≠ c) →
        (firstOccurrences seen' l).Pairwise fun a b => (c :: l).idxOf a < (c :: l).idxOf b := by
      intro seen' hne
      refine (ih seen').imp_of_mem fun {a b} ha hb hlt => ?_
      rw [List.idxOf_cons_ne l (hne a ha).symm, List.idxOf_cons_ne l (hne b hb).symm]
      exact Nat.succ_lt_succ hlt
    unfold firstOccurrences
    split
    · next hc =>
      refine hshift seen fun a ha => ?_
      rintro rfl
      exact (mem_firstOccurrences_iff.mp ha).2 hc
    · next hc =>
      have hne : ∀ a ∈ firstOccurrences (c :: seen) l, a ≠ c := by
        rintro a ha rfl
        exact (mem_firstOccurrences_iff.mp ha).2 List.mem_cons_self
      refine List.pairwise_cons.mpr ⟨fun a ha => ?_, hshift (c :: seen) hne⟩
      rw [List.idxOf_cons_self, List.idxOf_cons_ne l (hne a ha).symm]
      exact Nat.succ_pos _

end

/-- A list has the members of two lists, each once, in the order of their first occurrence in the
one followed by the other. -/
structure MergesFirst (first second merged : List Text) : Prop where
  nodup : merged.Nodup
  mem_iff : ∀ m, m ∈ merged ↔ m ∈ first ∨ m ∈ second
  ordered : merged.Pairwise fun m n => (first ++ second).idxOf m < (first ++ second).idxOf n

/-- The faults of a container are merged by their first occurrence. -/
theorem mergesFirst_mergedErrors (f : Facts) (extra : List Text) :
    MergesFirst (f.containerErrors.map Issue.message) extra (mergedErrors f extra) := by
  have hordered := pairwise_idxOf_firstOccurrences (f.containerErrors.map Issue.message ++ extra) []
  refine ⟨?_, ?_, hordered⟩
  · exact hordered.imp fun hlt heq => absurd hlt (by rw [heq]; exact lt_irrefl _)
  · intro m
    unfold mergedErrors
    rw [mem_firstOccurrences_iff, List.mem_append]
    simp

theorem mergedErrors_eq_nil_iff (f : Facts) (extra : List Text) :
    mergedErrors f extra = [] ↔ f.containerErrors = [] ∧ extra = [] := by
  have hmem := (mergesFirst_mergedErrors f extra).mem_iff
  constructor
  · intro h
    simp only [h, List.not_mem_nil, false_iff, not_or, List.mem_map, not_exists, not_and] at hmem
    refine ⟨List.eq_nil_iff_forall_not_mem.mpr fun i hi => (hmem i.message).1 i hi rfl, ?_⟩
    exact List.eq_nil_iff_forall_not_mem.mpr fun m => (hmem m).2
  · rintro ⟨hcontainer, hextra⟩
    simp [mergedErrors, firstOccurrences, hcontainer, hextra]

/-- A list that is followed by the members of another one that it lacks has each member as often
as either of them. -/
theorem count_append_filter_notMem (own : List Text) {faults : List Text} (h : faults.Nodup)
    (m : Text) : (own ++ faults.filter fun e => e ∉ own).count m =
      max (own.count m) (faults.count m) := by
  have hfaults : faults.count m ≤ 1 := List.nodup_iff_count_le_one.mp h m
  rw [List.count_append]
  by_cases hown : m ∈ own
  · -- its own occurrences keep the fault out
    have hout : (faults.filter fun e => e ∉ own).count m = 0 := by
      rw [List.count_eq_zero]
      simp [hown]
    have hpos : 0 < own.count m := List.count_pos_iff.mpr hown
    omega
  · have hin : (faults.filter fun e => e ∉ own).count m = faults.count m :=
      List.count_filter (by simpa using hown)
    have hnone : own.count m = 0 := List.count_eq_zero.mpr hown
    omega

/-! ### The invariant -/

/-- What holds between the verdict and the messages of an entry, in a container with given
faults. -/
structure SignatureEntry.Coherent (faults : List Text) (e : SignatureEntry) : Prop where
  errors_of_passed : e.indication = .passed → e.errors = []
  reason_of_passed : e.indication = .passed → e.subIndication = []
  not_passed_of_errors : e.errors ≠ [] → e.indication ≠ .passed
  failed_of_faults : faults ≠ [] → e.indication = .failed
  mem_errors_of_faults : ∀ m ∈ faults, m ∈ e.errors

/-- What holds between the entries and the counts of a conclusion on a number of signatures. -/
structure Conclusion.Coherent (faults : List Text) (signatures : ℕ) (c : Conclusion) : Prop where
  entries : ∀ e ∈ c.signatures, e.Coherent faults
  signaturesCount : c.signaturesCount = signatures
  validSignaturesCount :
    c.validSignaturesCount = (c.signatures.filter fun e => e.indication = .passed).length
  valid_le : c.validSignaturesCount ≤ c.signaturesCount
  none_valid_of_faults : faults ≠ [] → c.validSignaturesCount = 0

/-- The last two conditions on a conclusion follow from the others. -/
theorem Conclusion.coherent_of_entries {faults : List Text} {c : Conclusion}
    (h : ∀ e ∈ c.signatures, e.Coherent faults) : c.Coherent faults c.signatures.length where
  entries := h
  signaturesCount := rfl
  validSignaturesCount := by
    unfold validSignaturesCount
    rw [List.countP_eq_length_filter]
  valid_le := List.countP_le_length
  none_valid_of_faults := by
    intro hfaults
    unfold validSignaturesCount
    rw [List.countP_eq_zero]
    intro e he
    simp [(h e he).failed_of_faults hfaults]

namespace Assembly

/-- In a faulty container every signature fails. -/
theorem indication_of_faults {a : Assembly} (h : a.containerErrors ≠ []) (s : SignatureFacts) :
    a.indication s = .failed := by
  cases hverdict : a.indication s with
  | failed => rfl
  | passed => exact absurd ((a.indication_eq_passed_iff s).mp hverdict).1 h
  | indeterminate => exact absurd ((a.indication_eq_indeterminate_iff s).mp hverdict).1 h

theorem coherent_of_describes {a : Assembly} {s : SignatureFacts} {e : SignatureEntry}
    (h : a.Describes s e) : e.Coherent a.containerErrors := by
  have herrors : e.indication = .passed → e.errors = [] := by
    intro hpassed
    rw [h.indication] at hpassed
    rw [h.errors]
    exact ((a.indication_eq_passed_iff' s).mp hpassed).2
  refine ⟨herrors, ?_, fun hne hpassed => hne (herrors hpassed), ?_, ?_⟩
  · intro hpassed
    rw [h.indication] at hpassed
    rw [h.subIndication, if_pos hpassed]
  · intro hfaults
    rw [h.indication]
    exact indication_of_faults hfaults s
  · intro m hm
    rw [h.errors]
    exact mem_errors_of_mem_containerErrors hm s

theorem coherent_failedEntry (a : Assembly) (s : SignatureFacts) :
    (a.failedEntry s).Coherent a.containerErrors where
  errors_of_passed := by intro h; cases h
  reason_of_passed := by intro h; cases h
  not_passed_of_errors := by intro _ h; cases h
  failed_of_faults _ := rfl
  mem_errors_of_faults _ hm := List.mem_cons_of_mem processingError hm

/-- Every entry is coherent, whether or not its signature could be processed. -/
theorem coherent_entryOrFailure (a : Assembly) (s : SignatureFacts) :
    (a.entryOrFailure s).Coherent a.containerErrors := by
  rcases a.entryOrFailure_cases s with ⟨e, -, he, hdescribes⟩ | ⟨-, he⟩
  · rw [he]
    exact coherent_of_describes hdescribes
  · rw [he]
    exact a.coherent_failedEntry s

end Assembly

/-- **Every report is coherent: no signature passes with an error, a faulty container fails them
all, and the counts are those of the entries.**  A report is made at every time in range. -/
theorem coherent_layers (format : Format) (facts : Facts) (document : Document) (policy : Policy)
    (hashed : Bool) (extra : List Text) (type : ReportType) (time : Moment) :
    MergesFirst (facts.containerErrors.map Issue.message) extra (mergedErrors facts extra) ∧
      ((∃ l, (Assembly.ofParts format facts document policy hashed extra).layers type time = .ok l) ↔
        time.InRange) ∧
      ∀ l, (Assembly.ofParts format facts document policy hashed extra).layers type time = .ok l →
        l.detailed.conclusion = l.simple.conclusion ∧
        l.diagnostic.conclusion = l.simple.conclusion ∧
        l.simple.conclusion.Coherent (mergedErrors facts extra) facts.signatures.length := by
  generalize ha : Assembly.ofParts format facts document policy hashed extra = a
  have hfaults : a.containerErrors = mergedErrors facts extra := by rw [← ha]; rfl
  have hfacts : a.facts = facts := by rw [← ha]; rfl
  refine ⟨mergesFirst_mergedErrors facts extra, a.exists_layers_iff type time, fun l hl => ?_⟩
  obtain ⟨hdetailed, hdiagnostic, hentries⟩ := Assembly.conclusion_of_layers hl
  refine ⟨hdetailed, hdiagnostic, ?_⟩
  have hcoherent : ∀ e ∈ l.simple.conclusion.signatures, e.Coherent (mergedErrors facts extra) := by
    intro e he
    rw [hentries] at he
    obtain ⟨s, -, rfl⟩ := List.mem_map.mp he
    rw [← hfaults]
    exact a.coherent_entryOrFailure s
  have hlength : l.simple.conclusion.signatures.length = facts.signatures.length := by
    rw [hentries, List.length_map, hfacts]
  rw [← hlength]
  exact Conclusion.coherent_of_entries hcoherent

end ValidationReport
