import Mathlib.Data.List.Forall2
import ValidationReport.Proofs.Isolation
import ValidationReport.Proofs.Verdict

/-!
# What has no influence

A conclusion is about names and verdicts.  The contents and types of files, the
data that deeper layers pass on, and the layer that is asked for leave no trace
in it, but for the hash of the document; and the names of files handed in apart
leave one only where the signature is apart from them, in what it covers.

The footprint of an entry is `Assembly.AgreesOn`: two runs that agree on it give
the same entry, whether or not its signature can be processed.

## Main definitions

* `Facts.withData` — facts with other data files and other data for deeper layers.
* `DataFile.SameButContent` — two files that differ at most in type and content.
* `Conclusion.SameButHash`, `SignatureEntry.SameButScopes`, `Conclusion.SameButScopes` —
  conclusions that differ at most by a hash, or in what signatures cover.
* `Layers.PassOn` — layers with one conclusion, and the data that was asked for.

## Main results

* `ContainerCheck.run_sizes_congr` — the check of a container reads names and sizes.
* `Assembly.agreesOn_withData` — **the names of files and the faults of the container
  are all that an entry takes from them.**
* `Assembly.sameButScopes_entryOrFailure` — file names have a say in scopes alone.
* `conclusions_of_validate` — **what may not influence a conclusion does not.**
-/

namespace ValidationReport

/-! ### Data files -/

/-- The same facts with other data files and other data for the deeper layers. -/
def Facts.withData (f : Facts) (files : List DataFile) (process data : Option Object) : Facts :=
  { f with dataFiles := files, validationProcess := process, diagnosticData := data }

/-- Two data files that differ at most in type and content. -/
structure DataFile.SameButContent (f f' : DataFile) : Prop where
  name : f'.name = f.name
  size : f'.size = f.size
  declaredSize : f'.declaredSize = f.declaredSize

theorem DataFile.SameButContent.hasWrongSize_eq {f f' : DataFile} (h : f.SameButContent f') :
    f'.hasWrongSize = f.hasWrongSize := by
  unfold hasWrongSize
  rw [h.size, h.declaredSize]

/-- Each file adds at most one message. -/
theorem ContainerCheck.run_sizes_cons (f : DataFile) (files : List DataFile) :
    (ContainerCheck.sizes (f :: files)).run =
      (if f.hasWrongSize then [sizeMessage f.name] else []) ++ (sizes files).run := by
  unfold run
  cases h : f.hasWrongSize <;> simp [h]

section

variable {files files' : List DataFile}

/-- The check of a container reads names and sizes. -/
theorem ContainerCheck.run_sizes_congr (h : List.Forall₂ DataFile.SameButContent files files') :
    (sizes files').run = (sizes files).run := by
  induction h with
  | nil => rfl
  | cons hfile _ ih => rw [run_sizes_cons, run_sizes_cons, hfile.hasWrongSize_eq, hfile.name, ih]

/-- Files that keep their names one by one have the same names. -/
theorem DataFile.map_name_congr {R : DataFile → DataFile → Prop}
    (hname : ∀ f f', R f f' → f'.name = f.name) (h : List.Forall₂ R files files') :
    files'.map name = files.map name := by
  induction h with
  | nil => rfl
  | cons hfile _ ih => rw [List.map_cons, List.map_cons, hname _ _ hfile, ih]

variable (f : Facts) (process data : Option Object)

theorem Facts.run_containerCheck_congr
    (h : List.Forall₂ DataFile.SameButContent f.dataFiles files) :
    (f.withData files process data).containerCheck.run = f.containerCheck.run := by
  unfold containerCheck withData
  dsimp only
  split
  · exact ContainerCheck.run_sizes_congr h
  · rfl

end

/-! ### The footprint of an entry -/

/-- The formats apart from their data files have one name. -/
theorem formatOf_eq_detached_iff {name : Text} :
    formatOf name = .detached ↔ normalized name = "HASHCODE" := by
  unfold formatOf
  generalize normalized name = name
  dsimp only
  constructor
  · intro h
    split at h
    · cases h
    · split at h
      · cases h
      · split at h
        · next happart => exact happart
        · cases h
  · rintro rfl
    decide

namespace Assembly

section

variable {f : Facts} {files : List DataFile} {d d' : Document}
  (process data : Option Object) (policy : Policy) (hashed : Bool)

/-- **The names of files and the faults of the container are all that an entry takes from data
files**; a signature apart from its files takes their names from the document. -/
theorem agreesOn_withData (hnames : files.map DataFile.name = f.dataFiles.map DataFile.name)
    (hcheck : (f.withData files process data).containerCheck.run = f.containerCheck.run)
    (happart : f.format = .detached → d'.dataFiles = d.dataFiles) (s : SignatureFacts) :
    (ofFacts (f.withData files process data) d' policy hashed).AgreesOn
      (ofFacts f d policy hashed) s := by
  have hfaults : (ofFacts (f.withData files process data) d' policy hashed).containerErrors =
      (ofFacts f d policy hashed).containerErrors := by
    show mergedErrors f (f.withData files process data).containerCheck.run =
      mergedErrors f f.containerCheck.run
    rw [hcheck]
  refine ⟨rfl, hfaults, ?_, rfl, rfl, ?_⟩
  · unfold outcome
    rw [hfaults]
    rfl
  · show f.format.dataFileNames (f.withData files process data) d' = f.format.dataFileNames f d
    cases hformat : f.format with
    | detached => exact happart hformat
    | _ => exact hnames

/-- What the conclusion is made of besides entries does not depend on data files. -/
theorem conclusionAt_withData (hname : d'.filename = d.filename)
    (hnames : files.map DataFile.name = f.dataFiles.map DataFile.name)
    (hcheck : (f.withData files process data).containerCheck.run = f.containerCheck.run)
    (happart : f.format = .detached → d'.dataFiles = d.dataFiles) (time : Text) :
    (ofFacts (f.withData files process data) d' policy hashed).conclusionAt time =
      { (ofFacts f d policy hashed).conclusionAt time with
        document := validatedDocument hashed d.filename d'.content } := by
  have hentries : f.signatures.map
        (ofFacts (f.withData files process data) d' policy hashed).entryOrFailure =
      f.signatures.map (ofFacts f d policy hashed).entryOrFailure :=
    List.map_congr_left fun s _ =>
      (agreesOn_withData process data policy hashed hnames hcheck happart s).entryOrFailure_eq
  show Conclusion.mk policy time (validatedDocument hashed d'.filename d'.content) _
    (f.signatures.map (ofFacts (f.withData files process data) d' policy hashed).entryOrFailure)
    _ = _
  rw [hentries, hname]
  rfl

end

end Assembly

/-! ### Conclusions that differ by a hash -/

/-- Two conclusions that differ at most in the hash of the document. -/
def Conclusion.SameButHash (c c' : Conclusion) : Prop :=
  { c' with document := { c'.document with fileHash := c.document.fileHash } } = c

/-- The content of a document has a say in nothing but its hash. -/
theorem Conclusion.sameButHash_validatedDocument {c : Conclusion} {hashed : Bool} {name : Text}
    {content : Bytes} (h : c.document = validatedDocument hashed name content) (content' : Bytes) :
    c.SameButHash { c with document := validatedDocument hashed name content' } := by
  unfold SameButHash
  obtain ⟨policy, time, document, form, signatures, warnings⟩ := c
  subst h
  cases hashed <;> rfl

/-- Without hashes the content of a document has no say at all. -/
theorem validatedDocument_congr {hashed : Bool} {content content' : Bytes}
    (h : hashed = false ∨ content' = content) (name : Text) :
    validatedDocument hashed name content' = validatedDocument hashed name content := by
  rcases h with rfl | rfl <;> rfl

/-! ### Entries that differ in scopes -/

/-- Two entries that differ at most in what their signatures cover. -/
def SignatureEntry.SameButScopes (e e' : SignatureEntry) : Prop :=
  { e' with scopes := e.scopes } = e

/-- Two conclusions whose entries differ at most in what their signatures cover. -/
structure Conclusion.SameButScopes (c c' : Conclusion) : Prop where
  rest : { c' with signatures := c.signatures } = c
  entries : List.Forall₂ SignatureEntry.SameButScopes c.signatures c'.signatures

namespace Assembly

/-- The same assembly of a document with other data files apart. -/
def withFilesApart (a : Assembly) (names : List Text) : Assembly :=
  { a with document := { a.document with dataFiles := names } }

variable (a : Assembly) (names : List Text)

/-- The names of files handed in apart are read for what a signature covers, and for nothing
else. -/
theorem entry_withFilesApart (s : SignatureFacts) :
    (a.withFilesApart names).entry s = (a.entry s).map fun e =>
      { e with
        scopes := signedScopes s.references ((a.withFilesApart names).format.dataFileNames a.facts
          (a.withFilesApart names).document) } := by
  have hcertificates : (a.withFilesApart names).certificates s = a.certificates s := rfl
  have hinfo : (a.withFilesApart names).info s = a.info s := rfl
  have houtcome : (a.withFilesApart names).outcome s = a.outcome s := rfl
  have hindication : (a.withFilesApart names).indication s = a.indication s := rfl
  have herrors : (a.withFilesApart names).errors s = a.errors s := rfl
  have hwarnings : (a.withFilesApart names).warnings s = a.warnings s := rfl
  unfold entry
  rw [hcertificates, hinfo, houtcome, hindication, herrors, hwarnings]
  cases a.certificates s with
  | error failure => rfl
  | ok certificates =>
    cases subjectName s.signingCertificate with
    | error failure => rfl
    | ok subject =>
      cases Moment.utcText? s.claimedSigningTime with
      | error failure => rfl
      | ok claimedSigningTime =>
        cases a.info s with
        | error failure => rfl
        | ok info =>
          simp only [bind, Except.bind, Except.map, pure, Except.pure]
          rfl

theorem sameButScopes_entryOrFailure (s : SignatureFacts) :
    (a.entryOrFailure s).SameButScopes ((a.withFilesApart names).entryOrFailure s) := by
  unfold entryOrFailure
  rw [entry_withFilesApart]
  cases a.entry s <;> rfl

theorem sameButScopes_conclusionAt (time : Text) :
    (a.conclusionAt time).SameButScopes ((a.withFilesApart names).conclusionAt time) where
  rest := rfl
  entries := by
    show List.Forall₂ _ (a.facts.signatures.map _) (a.facts.signatures.map _)
    rw [List.forall₂_map_left_iff, List.forall₂_map_right_iff, List.forall₂_same]
    intro s _
    exact a.sameButScopes_entryOrFailure names s

end Assembly

/-! ### Layers -/

/-- Layers with one conclusion, which pass on the data for the layer that was asked for. -/
structure Layers.PassOn (f : Facts) (type : ReportType) (l : Layers) : Prop where
  detailed : l.detailed.conclusion = l.simple.conclusion
  diagnostic : l.diagnostic.conclusion = l.simple.conclusion
  validationProcess :
    l.detailed.validationProcess = if type = .detailed then f.validationProcess else none
  diagnosticData :
    l.diagnostic.diagnosticData = if type = .diagnostic then f.diagnosticData else none

/-- A time in range has a text, with which every request that names the policy is answered. -/
theorem Moment.InRange.exists_layersAt {time : Moment} (h : time.InRange) (settings : Settings)
    (policy : Policy) :
    ∃ text : Text, ∀ (d : Document) (f : Facts) (type : ReportType),
      (Assembly.ofFacts f d policy settings.reportSignatureEnabled).layers type time =
        .ok ((Assembly.ofFacts f d policy settings.reportSignatureEnabled).layersAt text type) ∧
      (∀ (table : PolicyTable) (r : Request), r.document = d → r.reportType = type →
        r.facts.facts = .ok f → resolvePolicy r.policy table settings.defaultPolicy = .ok policy →
        validate settings table time r =
          .ok ((Assembly.ofFacts f d policy settings.reportSignatureEnabled).layersAt text type)) ∧
      ((Assembly.ofFacts f d policy settings.reportSignatureEnabled).layersAt text type).PassOn f
        type := by
  obtain ⟨c, -, htext⟩ := h.exists_utcText
  refine ⟨c.utcText, fun d f type => ?_⟩
  have hlayers : (Assembly.ofFacts f d policy settings.reportSignatureEnabled).layers type time =
      .ok ((Assembly.ofFacts f d policy settings.reportSignatureEnabled).layersAt c.utcText
        type) := by
    rw [Assembly.layers_eq, htext]
    rfl
  refine ⟨hlayers, ?_, ⟨rfl, rfl, rfl, rfl⟩⟩
  rintro table r rfl rfl hfacts hpolicy
  exact validate_eq_ok hpolicy hfacts hlayers

/-! ### A sample -/

/-- A signature apart from its data file, of which nothing is known but its name and size. -/
def Facts.apart : Facts :=
  { Facts.ofSignatures " hashcode "
      [{ SignatureFacts.ofWord "S0" "PASSED" with references := ["a"] }] [] with
    dataFiles := [⟨"a", none, some 1, none, none⟩] }

/-- The data file with its type and content. -/
def DataFile.plainText : DataFile := ⟨"a", some "text/plain", some 1, none, some "YQ=="⟩

/-! ### Reports -/

/-- **What may not influence a conclusion does not.**  Two runs that differ in the layer asked for,
in the data for deeper layers, in types and contents, and in the names of files handed in apart from
a signature that is not apart, have the same conclusion but for the hash of the document; and the
names of files handed in apart have a say in nothing but what a signature covers.  The layers are
those that the service answers with. -/
theorem conclusions_of_validate (settings : Settings) (policy : Policy) {time : Moment}
    (h : time.InRange) :
    ∃ report : Document → Facts → ReportType → Layers,
      (∀ d f type,
        (Assembly.ofFacts f d policy settings.reportSignatureEnabled).layers type time =
          .ok (report d f type) ∧
        (∀ (table : PolicyTable) (r : Request), r.document = d → r.reportType = type →
          r.facts.facts = .ok f →
          resolvePolicy r.policy table settings.defaultPolicy = .ok policy →
          validate settings table time r = .ok (report d f type)) ∧
        (report d f type).PassOn f type) ∧
      (∀ (d d' : Document) (f : Facts) (files : List DataFile) (process data : Option Object)
        (type type' : ReportType), d'.filename = d.filename →
        List.Forall₂ DataFile.SameButContent f.dataFiles files →
        (normalized f.documentFormat = "HASHCODE" → d'.dataFiles = d.dataFiles) →
        (report d f type).simple.conclusion.SameButHash
          (report d' (f.withData files process data) type').simple.conclusion ∧
        (settings.reportSignatureEnabled = false ∨ d'.content = d.content →
          (report d' (f.withData files process data) type').simple.conclusion =
            (report d f type).simple.conclusion)) ∧
      ∀ (d : Document) (f : Facts) (type : ReportType) (names : List Text),
        (report d f type).simple.conclusion.SameButScopes
          (report { d with dataFiles := names } f type).simple.conclusion := by
  obtain ⟨text, hanswers⟩ := h.exists_layersAt settings policy
  refine ⟨fun d f type => (Assembly.ofFacts f d policy settings.reportSignatureEnabled).layersAt
    text type, hanswers, ?_, ?_⟩
  · intro d d' f files process data type type' hname hfiles happart
    have hconclusion := Assembly.conclusionAt_withData process data policy
      settings.reportSignatureEnabled hname
      (DataFile.map_name_congr (fun _ _ hfile => hfile.name) hfiles)
      (f.run_containerCheck_congr process data hfiles)
      (fun hformat => happart (formatOf_eq_detached_iff.mp hformat)) text
    refine ⟨?_, fun hhash => hconclusion.trans ?_⟩
    · show Conclusion.SameButHash _ (Assembly.conclusionAt _ text)
      rw [hconclusion]
      exact Conclusion.sameButHash_validatedDocument rfl d'.content
    · rw [validatedDocument_congr hhash]
      rfl
  · intro d f type names
    exact (Assembly.ofFacts f d policy settings.reportSignatureEnabled).sameButScopes_conclusionAt
      names text

/-- Another content, the content of the data file and the detailed layer change nothing but the
hash; without its data file the signature covers something else. -/
theorem conclusions_of_validate_apart :
    Moment.noon.InRange ∧
      ∃ l l' l'',
        (Assembly.ofFacts .apart ⟨"doc", [0], none, ["a"]⟩ qesPolicy true).layers .simple .noon =
          .ok l ∧
        (Assembly.ofFacts (Facts.apart.withData [.plainText] (some []) none)
          ⟨"doc", [1], some "text/xml", ["a"]⟩ qesPolicy true).layers .detailed .noon = .ok l' ∧
        (Assembly.ofFacts .apart ⟨"doc", [0], none, []⟩ qesPolicy true).layers .simple .noon =
          .ok l'' ∧
        l.simple.conclusion.SameButHash l'.simple.conclusion ∧
        l'.detailed.conclusion = l'.simple.conclusion ∧
        l.detailed.validationProcess = none ∧ l'.detailed.validationProcess = some [] ∧
        l.simple.conclusion.SameButScopes l''.simple.conclusion := by
  have hnoon : Moment.noon.InRange := by decide
  have hfiles : List.Forall₂ DataFile.SameButContent Facts.apart.dataFiles [.plainText] :=
    .cons ⟨rfl, rfl, rfl⟩ .nil
  obtain ⟨report, hmade, hinfluence, hscopes⟩ := conclusions_of_validate
    { Settings.standard with reportSignatureEnabled := true } qesPolicy hnoon
  obtain ⟨hl, -, hpasses⟩ := hmade ⟨"doc", [0], none, ["a"]⟩ .apart .simple
  obtain ⟨hl', -, hpasses'⟩ := hmade ⟨"doc", [1], some "text/xml", ["a"]⟩
    (Facts.apart.withData [.plainText] (some []) none) .detailed
  obtain ⟨hl'', -⟩ := hmade ⟨"doc", [0], none, []⟩ .apart .simple
  obtain ⟨hhash, -⟩ := hinfluence ⟨"doc", [0], none, ["a"]⟩ ⟨"doc", [1], some "text/xml", ["a"]⟩
    .apart _ (some []) none .simple .detailed rfl hfiles fun _ => rfl
  exact ⟨hnoon, _, _, _, hl, hl', hl'', hhash, hpasses'.detailed, hpasses.validationProcess,
    hpasses'.validationProcess, hscopes ⟨"doc", [0], none, ["a"]⟩ .apart .simple []⟩

end ValidationReport
