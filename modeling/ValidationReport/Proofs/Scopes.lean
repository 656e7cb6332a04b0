import Mathlib.Data.List.Forall2
import Mathlib.Data.List.ReduceOption
import ValidationReport.Proofs.Influence
import ValidationReport.Proofs.Percent

/-!
# What a signature covers

A signature covers the data files that its references encode, one scope for each
reference, in their order.  Names of data files count as a set: it does not
matter in which order they are known or how often.  Where they are known from
depends on the format, for a signature apart from its files does not hold them.

## Main definitions

* `Facts.coverable` — the names that a signature may cover.
* `Refers` — a reference names a data file, or leads elsewhere.

## Main results

* `signedScopes_of_refers` — **the scopes are the files that the references name,
  in order and as often.**
* `name_mem_of_mem_signedScopes` — **no other name is ever covered.**
* `signedScopes_congr`, `signedScopes_append` — names are a set, references a
  list.
* `scopes_of_validate` — **what every signature of a report covers.**
-/

namespace ValidationReport

/-- The names that a signature may cover: those of the files handed in, for a signature apart from
its files, and those in the container otherwise. -/
def Facts.coverable (f : Facts) (d : Document) : List Text :=
  if normalized f.documentFormat = "HASHCODE" then d.dataFiles else f.dataFiles.map DataFile.name

theorem Facts.dataFileNames_format (f : Facts) (d : Document) :
    f.format.dataFileNames f d = f.coverable d := by
  unfold coverable
  split
  · next h =>
    rw [format, formatOf_eq_detached_iff.mpr h]
    rfl
  · next h =>
    have hne : f.format ≠ .detached := fun hformat => h (formatOf_eq_detached_iff.mp hformat)
    cases hformat : f.format with
    | detached => exact absurd hformat hne
    | _ => rfl

/-! ### References -/

/-- A reference encodes the name of a data file, or is decoded to something that is none. -/
inductive Refers (names : List Text) : Text → Option Text → Prop
  | file {reference name : Text} :
      reference.PercentEncodes name → name ∈ names → Refers names reference (some name)
  | elsewhere {reference : Text} :
      reference.decodePercent ∉ names → Refers names reference none

theorem signedScopes_cons (reference : Text) (references names : List Text) :
    signedScopes (reference :: references) names =
      (if reference.decodePercent ∈ names then [Scope.full reference.decodePercent] else []) ++
        signedScopes references names := by
  unfold signedScopes
  rw [List.map_cons, List.filter_cons]
  by_cases h : reference.decodePercent ∈ names <;> simp [h]

/-- **The scopes are the files that the references name, in order and as often.** -/
theorem signedScopes_of_refers {references names : List Text} {files : List (Option Text)}
    (h : List.Forall₂ (Refers names) references files) :
    signedScopes references names = files.reduceOption.map Scope.full := by
  induction h with
  | nil => rfl
  | cons hfirst _ ih =>
    rw [signedScopes_cons, ih]
    cases hfirst with
    | file hencodes hmem =>
      rw [hencodes.decodePercent_eq, if_pos hmem]
      rfl
    | elsewhere hmem =>
      rw [if_neg hmem]
      rfl

/-- **No name is covered but those of data files.** -/
theorem name_mem_of_mem_signedScopes {references names : List Text} {scope : Scope}
    (h : scope ∈ signedScopes references names) :
    scope.name ∈ names ∧ scope = .full scope.name := by
  unfold signedScopes at h
  obtain ⟨name, hname, rfl⟩ := List.mem_map.mp h
  exact ⟨List.contains_iff_mem.mp (List.mem_filter.mp hname).2, rfl⟩

/-- It does not matter in which order and how often the names are known. -/
theorem signedScopes_congr {names names' : List Text} (h : ∀ name, name ∈ names ↔ name ∈ names')
    (references : List Text) : signedScopes references names = signedScopes references names' := by
  induction references with
  | nil => rfl
  | cons reference references ih => simp only [signedScopes_cons, h, ih]

theorem signedScopes_append (references references' names : List Text) :
    signedScopes (references ++ references') names =
      signedScopes references names ++ signedScopes references' names := by
  simp [signedScopes]

/-! ### A sample -/

/-- A signature apart from its files, with references to two files, one of them twice, and to its
own properties. -/
def Facts.escapedReferences : Facts :=
  .ofSignatures "hashcode" [{ SignatureFacts.ofWord "S0" "PASSED" with
    references := ["%D1%8f", "#S0", "b", "%d1%8F"] }] []

/-! ### Reports -/

/-- **What every signature of a report covers.**  A signature that could be processed covers the
files that its references name, in order and as often, and never anything but files that are known;
order and repetition of the names do not count, and references are covered one after the other. -/
theorem scopes_of_validate (settings : Settings) (policy : Policy) (facts : Facts)
    (document : Document) (type : ReportType) {time : Moment} (h : time.InRange) :
    ∃ l, (Assembly.ofFacts facts document policy settings.reportSignatureEnabled).layers type
        time = .ok l ∧
      (∀ (table : PolicyTable) (r : Request), r.document = document → r.reportType = type →
        r.facts.facts = .ok facts →
        resolvePolicy r.policy table settings.defaultPolicy = .ok policy →
        validate settings table time r = .ok l) ∧
      l.detailed.conclusion = l.simple.conclusion ∧
      l.diagnostic.conclusion = l.simple.conclusion ∧
      ∀ (i : ℕ) (s : SignatureFacts), facts.signatures[i]? = some s →
        ¬ Fails ((Assembly.ofFacts facts document policy
          settings.reportSignatureEnabled).entry s) →
        ∃ e, l.simple.conclusion.signatures[i]? = some e ∧
          (∀ files, List.Forall₂ (Refers (facts.coverable document)) s.references files →
            e.scopes = files.reduceOption.map fun name =>
              ⟨name, "FullSignatureScope", "Digest of the document content"⟩) ∧
          (∀ scope ∈ e.scopes, scope.name ∈ facts.coverable document) ∧
          (∀ names, (∀ name, name ∈ facts.coverable document ↔ name ∈ names) →
            e.scopes = signedScopes s.references names) ∧
          ∀ references references', s.references = references ++ references' →
            e.scopes = signedScopes references (facts.coverable document) ++
              signedScopes references' (facts.coverable document) := by
  obtain ⟨l, hl⟩ := (Assembly.exists_layers_iff (Assembly.ofFacts facts document policy
    settings.reportSignatureEnabled) type time).mpr h
  obtain ⟨hdetailed, hdiagnostic, hentries⟩ := Assembly.conclusion_of_layers hl
  refine ⟨l, hl, ?_, hdetailed, hdiagnostic, ?_⟩
  · rintro table r rfl rfl hfacts hpolicy
    exact validate_eq_ok hpolicy hfacts hl
  · intro i s hs hprocessed
    obtain ⟨e, hok⟩ := not_fails_iff.mp hprocessed
    have hscopes : e.scopes = signedScopes s.references (facts.coverable document) := by
      rw [← facts.dataFileNames_format document]
      exact (Assembly.describes_of_entry hok).scopes
    refine ⟨e, ?_, fun files hfiles => ?_, fun scope hscope => ?_, fun names hnames => ?_,
      fun references references' happend => ?_⟩
    · have hs' : (Assembly.ofFacts facts document policy
        settings.reportSignatureEnabled).facts.signatures[i]? = some s := hs
      rw [hentries, List.getElem?_map, hs', Option.map_some, Assembly.entryOrFailure, hok]
    · exact hscopes.trans (signedScopes_of_refers hfiles)
    · exact (name_mem_of_mem_signedScopes (hscopes ▸ hscope)).1
    · exact hscopes.trans (signedScopes_congr hnames s.references)
    · rw [hscopes, happend, signedScopes_append]

/-- Three of the four references name one of the two files. -/
theorem scopes_of_validate_escaped :
    Moment.noon.InRange ∧
      ∃ l e, (Assembly.ofFacts .escapedReferences ⟨"doc", [], none, ["b", "я", "b"]⟩ qesPolicy
          false).layers .simple .noon = .ok l ∧
        l.simple.conclusion.signatures[0]? = some e ∧
        e.scopes.map Scope.name = (["я", "b", "я"] : List Text) := by
  have hnoon : Moment.noon.InRange := by decide
  obtain ⟨l, hl, -, -, -, hentries⟩ := scopes_of_validate .standard qesPolicy .escapedReferences
    ⟨"doc", [], none, ["b", "я", "b"]⟩ .simple hnoon
  obtain ⟨e, he, hscopes, -⟩ := hentries 0 { SignatureFacts.ofWord "S0" "PASSED" with
    references := ["%D1%8f", "#S0", "b", "%d1%8F"] } rfl (not_fails_iff.mpr ⟨_, rfl⟩)
  have hfirst : Text.PercentEncodes "%D1%8f" "я" :=
    Text.decodePercent?_eq_some_iff.mp (by decide +kernel)
  have hb : Text.PercentEncodes "b" "b" := Text.decodePercent?_eq_some_iff.mp (by decide +kernel)
  have hlast : Text.PercentEncodes "%d1%8F" "я" :=
    Text.decodePercent?_eq_some_iff.mp (by decide +kernel)
  have hrefers := hscopes [some ("я" : Text), none, some ("b" : Text), some ("я" : Text)]
    (.cons (.file hfirst (by decide +kernel)) <| .cons (.elsewhere (by decide +kernel)) <|
      .cons (.file hb (by decide +kernel)) <| .cons (.file hlast (by decide +kernel)) .nil)
  exact ⟨hnoon, l, e, hl, he, by rw [hrefers]; rfl⟩

end ValidationReport
