import ValidationReport.Proofs.Text
import ValidationReport.Settings

/-!
# The policy that an identifier asks for

An identifier is trimmed before it is looked up, so blanks around it never matter.
Where nothing is left the default is looked up instead, and that one is not trimmed:
it comes from the settings as it stands there.  So a default with blanks around it
is another key than the identifier of the same spelling, and asking for the default
by its name need not give what asking for nothing gives.

## Main definitions

* `SameResolution` — two look-ups that end with the same policy, or are both refused.

## Main results

* `policyKey_blank`, `policyKey_padded` — the key of a blank identifier, and of one
  among blanks.
* `sameResolution_default_iff` — when the default and its name agree in a table.
* `resolvePolicy_of_default` — **the default and its name agree in every table
  exactly if no blanks surround the name.**
-/

namespace ValidationReport

/-! ### Blank texts -/

namespace Text

theorem trim_eq_nil_iff {t : Text} : t.trim = [] ↔ t.AllBlank := by
  constructor
  · intro h
    have hsqueeze : t.squeeze = [] := by rw [← squeeze_trim, h, squeeze_nil]
    intro c hc
    simpa using List.filter_eq_nil_iff.mp hsqueeze c hc
  · intro h
    simpa using trim_append_left h []

theorem allBlank_nil : AllBlank [] := by
  intro c hc
  cases hc

theorem isTrimmed_iff {t : Text} : t.IsTrimmed ↔ t.trim = t :=
  ⟨IsTrimmed.trim_eq, fun h => h ▸ isTrimmed_trim t⟩

end Text

/-! ### Keys -/

/-- Two look-ups end with the same policy, or are both refused. -/
def SameResolution (a b : Except Text Policy) : Prop := a.toOption = b.toOption

instance (a b : Except Text Policy) : Decidable (SameResolution a b) :=
  inferInstanceAs (Decidable (_ = _))

theorem toOption_resolvePolicy (identifier : Option Text) (table : PolicyTable) (standard : Text) :
    (resolvePolicy identifier table standard).toOption =
      table.lookup (policyKey identifier standard) := by
  unfold resolvePolicy
  cases table.lookup (policyKey identifier standard) <;> rfl

/-- A blank identifier asks for the default. -/
theorem policyKey_blank (identifier : Option Text) (h : (identifier.getD []).AllBlank)
    (standard : Text) : policyKey identifier standard = standard := by
  unfold policyKey
  rw [Text.trim_eq_nil_iff.mpr h]
  rfl

/-- Any other identifier asks for itself without the blanks around it. -/
theorem policyKey_of_not_blank {identifier : Text} (h : ¬ identifier.AllBlank) (standard : Text) :
    policyKey (some identifier) standard = identifier.trim := by
  have hne : identifier.trim ≠ [] := mt Text.trim_eq_nil_iff.mp h
  unfold policyKey
  simp [hne]

/-- Blanks around an identifier do not count. -/
theorem policyKey_padded {lead trail : Text} (hlead : lead.AllBlank) (htrail : trail.AllBlank)
    (identifier standard : Text) :
    policyKey (some (lead ++ (identifier ++ trail))) standard =
      policyKey (some identifier) standard := by
  unfold policyKey
  rw [Option.getD_some, Option.getD_some, Text.trim_append_left hlead,
    Text.trim_append_right _ htrail]

/-! ### The default by its name -/

/-- **The default and its name agree in a table** if nothing is left of the name, or if the table
has the same policy, or none, under the name without the blanks around it. -/
theorem sameResolution_default_iff (blank : Option Text) (h : (blank.getD []).AllBlank)
    (table : PolicyTable) (standard : Text) :
    SameResolution (resolvePolicy blank table standard)
        (resolvePolicy (some standard) table standard) ↔
      standard.AllBlank ∨ table.lookup standard = table.lookup standard.trim := by
  unfold SameResolution
  rw [toOption_resolvePolicy, toOption_resolvePolicy, policyKey_blank blank h]
  by_cases hstandard : standard.AllBlank
  · rw [policyKey_blank (some standard) hstandard]
    exact iff_of_true rfl (Or.inl hstandard)
  · rw [policyKey_of_not_blank hstandard]
    simp [hstandard]

/-- In a table with the name as its only key, the name without its blanks is not found. -/
theorem lookup_trim_singleton_ne {name : Text} (h : name.trim ≠ name) (policy : Policy) :
    List.lookup name [(name, policy)] ≠ List.lookup name.trim [(name, policy)] := by
  have hself : List.lookup name [(name, policy)] = some policy := by simp
  have htrimmed : List.lookup name.trim [(name, policy)] = none := by
    rw [List.lookup_eq_none_iff]
    simpa using h
  simp [hself, htrimmed]

/-- **The default and its name agree in every table exactly if no blanks surround the name**, or
nothing else is in it.  In one table they agree if it has the same policy, or none, under the name
with its blanks and without.  Blanks around an identifier never matter. -/
theorem resolvePolicy_of_default (standard : Text) :
    ((∀ (table : PolicyTable) (blank : Option Text), (blank.getD []).AllBlank →
        SameResolution (resolvePolicy blank table standard)
          (resolvePolicy (some standard) table standard)) ↔
      standard.IsTrimmed ∨ standard.AllBlank) ∧
    (∀ (table : PolicyTable) (blank : Option Text), (blank.getD []).AllBlank →
      (SameResolution (resolvePolicy blank table standard)
          (resolvePolicy (some standard) table standard) ↔
        standard.AllBlank ∨ table.lookup standard = table.lookup standard.trim)) ∧
    ∀ (table : PolicyTable) (lead identifier trail : Text), lead.AllBlank → trail.AllBlank →
      SameResolution (resolvePolicy (some (lead ++ (identifier ++ trail))) table standard)
        (resolvePolicy (some identifier) table standard) := by
  refine ⟨⟨?_, ?_⟩, fun table blank h => sameResolution_default_iff blank h table standard, ?_⟩
  · intro h
    have hsingle := h [(standard, adesPolicy)] none Text.allBlank_nil
    rcases (sameResolution_default_iff none Text.allBlank_nil _ standard).mp hsingle with
      hblank | hlookup
    · exact Or.inr hblank
    · refine Or.inl (Text.isTrimmed_iff.mpr ?_)
      by_contra hne
      exact lookup_trim_singleton_ne hne adesPolicy hlookup
  · rintro (htrimmed | hblank) table blank h
    · rw [sameResolution_default_iff blank h, htrimmed.trim_eq]
      exact Or.inr rfl
    · exact (sameResolution_default_iff blank h table standard).mpr (Or.inl hblank)
  · intro table lead identifier trail hlead htrail
    unfold SameResolution
    rw [toOption_resolvePolicy, toOption_resolvePolicy, policyKey_padded hlead htrail]

/-- A default with blanks around it can be set, and is no policy, but its name is one. -/
theorem not_sameResolution_padded :
    Settings.read? [("SIGREPORT_DEFAULT_POLICY", " POLv3 ")] =
        some { Settings.standard with defaultPolicy := " POLv3 " } ∧
      resolvePolicy none standardPolicies " POLv3 " = .error " POLv3 " ∧
      resolvePolicy (some " POLv3 ") standardPolicies " POLv3 " = .ok adesPolicy ∧
      ¬ SameResolution (resolvePolicy none standardPolicies " POLv3 ")
        (resolvePolicy (some " POLv3 ") standardPolicies " POLv3 ") := by
  have hdefault : resolvePolicy none standardPolicies " POLv3 " = .error " POLv3 " := rfl
  have hname : resolvePolicy (some " POLv3 ") standardPolicies " POLv3 " = .ok adesPolicy := rfl
  refine ⟨by decide, hdefault, hname, ?_⟩
  rw [hdefault, hname]
  simp [SameResolution, Except.toOption]

end ValidationReport
