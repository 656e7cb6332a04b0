import ValidationReport.Proofs.Assembly
import ValidationReport.Service

/-!
# Signatures do not depend on each other

The entry of a signature is made from the signature, from what is known about
the container, and from the entries of the simple report under its identifier.
It does not matter which other signatures there are, whether they can be
processed, or where they stand; nor what the simple report says of them.

Identifiers need not be distinct.  Signatures that share one also share the
entries under it, and nothing else.

## Main definitions

* `Facts.withSignatures` — facts with other signatures and another simple report.
* `SameUnder` — two simple reports say the same under an identifier.
* `Assembly.AgreesOn` — two assemblies agree on what an entry is made from.

## Main results

* `Assembly.AgreesOn.entryOrFailure_eq` — what an entry is made from decides it.
* `Assembly.agreesOn_withSignatures` — other signatures make no difference to it.
* `isolated_signatures` — **a report on two lists of signatures is put together
  from the reports on each, and no signature has an influence on another one's
  entry.**
-/

namespace ValidationReport

/-- The same facts with other signatures and another simple report. -/
def Facts.withSignatures (f : Facts) (signatures : List SignatureFacts)
    (simpleReports : List (Text × SimpleEntry)) : Facts :=
  { f with signatures := signatures, simpleReports := simpleReports }

/-- Two simple reports have the same entries under an identifier. -/
def SameUnder (id : Text) (reports reports' : List (Text × SimpleEntry)) : Prop :=
  (reports.filter fun r => r.1 = id) = reports'.filter fun r => r.1 = id

/-- What is found under a key is the first of the pairs with that key. -/
theorem lookup_eq_head?_filter {α β : Type} [BEq α] [LawfulBEq α] [DecidableEq α] (key : α)
    (l : List (α × β)) : l.lookup key = (l.filter fun p => p.1 = key).head?.map Prod.snd := by
  induction l with
  | nil => rfl
  | cons p l ih =>
    obtain ⟨k, b⟩ := p
    rw [List.lookup_cons]
    by_cases hk : key = k
    · simp [hk]
    · simp [beq_false_of_ne hk, Ne.symm hk, ih]

theorem SameUnder.lookup_eq {id : Text} {reports reports' : List (Text × SimpleEntry)}
    (h : SameUnder id reports reports') : reports.lookup id = reports'.lookup id := by
  rw [lookup_eq_head?_filter, lookup_eq_head?_filter, h]

/-! ### What an entry is made from -/

section

variable {reports reports' : List (Text × SimpleEntry)} {s : SignatureFacts}

namespace Format

variable (format : Format) (f : Facts) (signatures signatures' : List SignatureFacts)

theorem verdict_withSignatures (h : reports.lookup s.id = reports'.lookup s.id) :
    format.verdict (f.withSignatures signatures reports) s =
      format.verdict (f.withSignatures signatures' reports') s := by
  cases format with
  | timemark => simp only [verdict, Facts.simpleEntry?, Facts.withSignatures, h]
  | _ => rfl

theorem reason_withSignatures (h : reports.lookup s.id = reports'.lookup s.id) :
    format.reason (f.withSignatures signatures reports) s =
      format.reason (f.withSignatures signatures' reports') s := by
  cases format with
  | timemark => simp only [reason, Facts.simpleEntry?, Facts.withSignatures, h]
  | _ => rfl

theorem level_withSignatures (h : reports.lookup s.id = reports'.lookup s.id) :
    format.level (f.withSignatures signatures reports) s =
      format.level (f.withSignatures signatures' reports') s := by
  cases format with
  | timemark => simp only [level, Facts.simpleEntry?, Facts.withSignatures, h]
  | _ => rfl

end Format

namespace Assembly

/-- Two assemblies agree on everything that the entry of a signature is made from. -/
structure AgreesOn (a a' : Assembly) (s : SignatureFacts) : Prop where
  format : a.format = a'.format
  containerErrors : a.containerErrors = a'.containerErrors
  outcome : a.outcome s = a'.outcome s
  level : a.format.level a.facts s = a'.format.level a'.facts s
  signatureFormat : a.format.signatureFormat a.facts s = a'.format.signatureFormat a'.facts s
  dataFileNames :
    a.format.dataFileNames a.facts a.document = a'.format.dataFileNames a'.facts a'.document

namespace AgreesOn

variable {a a' : Assembly}

theorem errors_eq (h : a.AgreesOn a' s) : a.errors s = a'.errors s := by
  unfold errors
  rw [h.format, h.containerErrors, h.outcome]

theorem indication_eq (h : a.AgreesOn a' s) : a.indication s = a'.indication s := by
  unfold indication
  rw [h.outcome, h.errors_eq]

theorem entry_eq (h : a.AgreesOn a' s) : a.entry s = a'.entry s := by
  have hcertificates : a.certificates s = a'.certificates s := by
    unfold certificates
    rw [h.format]
  have hinfo : a.info s = a'.info s := by
    unfold info
    rw [h.format]
  have hwarnings : a.warnings s = a'.warnings s := by
    unfold warnings
    rw [h.format, h.outcome]
  unfold entry
  rw [hcertificates, hinfo, hwarnings, h.errors_eq, h.indication_eq, h.outcome, h.level,
    h.signatureFormat, h.dataFileNames]

/-- The entries are the same, whether or not the signature can be processed. -/
theorem entryOrFailure_eq (h : a.AgreesOn a' s) : a.entryOrFailure s = a'.entryOrFailure s := by
  unfold entryOrFailure failedEntry
  rw [h.entry_eq, h.containerErrors]

end AgreesOn

variable (f : Facts) (document : Document) (policy : Policy) (hashed : Bool)
  (signatures signatures' : List SignatureFacts)

/-- Other signatures, and what the simple report says of them, make no difference. -/
theorem agreesOn_withSignatures (h : reports.lookup s.id = reports'.lookup s.id) :
    (ofFacts (f.withSignatures signatures reports) document policy hashed).AgreesOn
      (ofFacts (f.withSignatures signatures' reports') document policy hashed) s where
  format := rfl
  containerErrors := rfl
  outcome := by
    show resolveOutcome (f.format.level (f.withSignatures signatures reports) s)
        (f.format.verdict (f.withSignatures signatures reports) s)
        (f.format.reason (f.withSignatures signatures reports) s) _ _ _ =
      resolveOutcome (f.format.level (f.withSignatures signatures' reports') s)
        (f.format.verdict (f.withSignatures signatures' reports') s)
        (f.format.reason (f.withSignatures signatures' reports') s) _ _ _
    rw [f.format.level_withSignatures f signatures signatures' h,
      f.format.verdict_withSignatures f signatures signatures' h,
      f.format.reason_withSignatures f signatures signatures' h]
    rfl
  level := f.format.level_withSignatures f signatures signatures' h
  signatureFormat := rfl
  dataFileNames := rfl

end Assembly

end

/-! ### Reports -/

/-- **A report on two lists of signatures is put together from the reports on each, and no
signature has an influence on the entry of another one.**  A signature keeps its entry wherever it
stands and whatever else is in the list, as long as the simple report says the same under its
identifier. -/
theorem isolated_signatures (settings : Settings) (policy : Policy) (facts : Facts)
    (document : Document) (type : ReportType) {time : Moment} (h : time.InRange) :
    ∃ report : List SignatureFacts → List (Text × SimpleEntry) → Conclusion,
      (∀ signatures reports, ∃ l,
        (Assembly.ofFacts (facts.withSignatures signatures reports) document policy
          settings.reportSignatureEnabled).layers type time = .ok l ∧
        l.simple.conclusion = report signatures reports ∧
        l.detailed.conclusion = report signatures reports ∧
        l.diagnostic.conclusion = report signatures reports) ∧
      (∀ first second reports,
        (report (first ++ second) reports).signatures =
          (report first reports).signatures ++ (report second reports).signatures ∧
        (report (first ++ second) reports).signaturesCount =
          (report first reports).signaturesCount + (report second reports).signaturesCount ∧
        (report (first ++ second) reports).validSignaturesCount =
          (report first reports).validSignaturesCount +
            (report second reports).validSignaturesCount) ∧
      (∀ signatures reports,
        (report signatures reports).signatures.map (·.id) = signatures.map (·.id)) ∧
      ∀ (s : SignatureFacts) (signatures signatures' : List SignatureFacts)
        (reports reports' : List (Text × SimpleEntry)) (i j : ℕ),
        signatures[i]? = some s → signatures'[j]? = some s → SameUnder s.id reports reports' →
        ∃ e, (report signatures reports).signatures[i]? = some e ∧
          (report signatures' reports').signatures[j]? = some e := by
  have hmade : ∀ signatures reports, ∃ l,
      (Assembly.ofFacts (facts.withSignatures signatures reports) document policy
        settings.reportSignatureEnabled).layers type time = .ok l := by
    intro signatures reports
    exact (Assembly.exists_layers_iff _ type time).mpr h
  choose layersOf hlayers using hmade
  -- the entries are made one by one, as if there were no other signatures
  have hentries : ∀ signatures reports,
      (layersOf signatures reports).simple.conclusion.signatures =
        signatures.map (Assembly.ofFacts (facts.withSignatures [] reports) document policy
          settings.reportSignatureEnabled).entryOrFailure := by
    intro signatures reports
    obtain ⟨-, -, hentries⟩ := Assembly.conclusion_of_layers (hlayers signatures reports)
    rw [hentries]
    apply List.map_congr_left
    intro s _
    exact (Assembly.agreesOn_withSignatures facts document policy
      settings.reportSignatureEnabled signatures [] rfl).entryOrFailure_eq
  refine ⟨fun signatures reports => (layersOf signatures reports).simple.conclusion, ?_, ?_, ?_, ?_⟩
  · intro signatures reports
    obtain ⟨hdetailed, hdiagnostic, -⟩ := Assembly.conclusion_of_layers (hlayers signatures reports)
    exact ⟨layersOf signatures reports, hlayers signatures reports, rfl, hdetailed, hdiagnostic⟩
  · intro first second reports
    have happend : (layersOf (first ++ second) reports).simple.conclusion.signatures =
        (layersOf first reports).simple.conclusion.signatures ++
          (layersOf second reports).simple.conclusion.signatures := by
      rw [hentries, hentries, hentries, List.map_append]
    refine ⟨happend, ?_, ?_⟩
    · unfold Conclusion.signaturesCount
      rw [happend, List.length_append]
    · unfold Conclusion.validSignaturesCount
      rw [happend, List.countP_append]
  · intro signatures reports
    rw [hentries, List.map_map]
    apply List.map_congr_left
    intro s _
    exact Assembly.id_entryOrFailure _ s
  · intro s signatures signatures' reports reports' i j hi hj hsame
    refine ⟨(Assembly.ofFacts (facts.withSignatures [] reports) document policy
      settings.reportSignatureEnabled).entryOrFailure s, ?_, ?_⟩
    · rw [hentries, List.getElem?_map, hi]
      rfl
    · rw [hentries, List.getElem?_map, hj]
      have hagrees := Assembly.agreesOn_withSignatures facts document policy
        settings.reportSignatureEnabled [] [] hsame.lookup_eq
      rw [hagrees.entryOrFailure_eq]
      rfl

/-- A signature keeps its entry when the other one is replaced by one that cannot be processed, and
put first. -/
theorem isolated_signatures_moved :
    Moment.noon.InRange ∧ ∃ l l' e,
      (Assembly.ofFacts ((Facts.ofSignatures "bdoc" [] []).withSignatures
          [.ofWord "S0" "PASSED", .ofWord "S1" "FAILED"] [("S0", .qualified)])
        ⟨[], [], none, []⟩ qesPolicy false).layers .simple Moment.noon = .ok l ∧
      (Assembly.ofFacts ((Facts.ofSignatures "bdoc" [] []).withSignatures
          [.untimely "S1", .ofWord "S0" "PASSED"] [("S1", .qualified), ("S0", .qualified)])
        ⟨[], [], none, []⟩ qesPolicy false).layers .simple Moment.noon = .ok l' ∧
      l.simple.conclusion.signatures[0]? = some e ∧
      l'.simple.conclusion.signatures[1]? = some e := by
  have hnoon : Moment.noon.InRange := by decide
  obtain ⟨report, hmade, -, -, hsame⟩ := isolated_signatures .standard qesPolicy
    (Facts.ofSignatures "bdoc" [] []) ⟨[], [], none, []⟩ .simple hnoon
  obtain ⟨l, hl, hconclusion, -⟩ :=
    hmade [.ofWord "S0" "PASSED", .ofWord "S1" "FAILED"] [("S0", .qualified)]
  obtain ⟨l', hl', hconclusion', -⟩ :=
    hmade [.untimely "S1", .ofWord "S0" "PASSED"] [("S1", .qualified), ("S0", .qualified)]
  have hunder : SameUnder "S0" [("S0", .qualified)] [("S1", .qualified), ("S0", .qualified)] := by
    unfold SameUnder
    decide
  obtain ⟨e, he, he'⟩ := hsame (.ofWord "S0" "PASSED")
    [.ofWord "S0" "PASSED", .ofWord "S1" "FAILED"] [.untimely "S1", .ofWord "S0" "PASSED"]
    _ _ 0 1 rfl rfl hunder
  refine ⟨hnoon, l, l', e, hl, hl', ?_, ?_⟩
  · rw [hconclusion]
    exact he
  · rw [hconclusion']
    exact he'

end ValidationReport
