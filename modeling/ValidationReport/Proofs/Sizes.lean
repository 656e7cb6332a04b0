import ValidationReport.Proofs.Influence

/-!
# The sizes of data files

An associated signature container declares the size of every data file.  A file
of another size is reported by its name, and the report goes a long way: it is
merged with the engine's own faults of the container, into the errors of every
signature, and into the entries of signatures that could not be processed.
Wherever it arrives it stands once, unless the signature itself has the same
error already.

In any other container sizes are not looked at.

## Main definitions

* `Facts.Associated` — the container is an associated signature container.
* `DataFile.Mismatched` — both sizes of a file are known, and they differ.
* `SizeReport` — the messages about the sizes of files, in the order of the files.
* `DataFile.SameButSizes` — two files that differ at most in their sizes.

## Main results

* `sizeReport_iff` — the check of a container gives these messages and no others.
* `Assembly.count_errors_of_mem_containerErrors`, `Assembly.count_failedEntry` — a
  fault of the container is told once.
* `conclusions_of_sizes` — **sizes decide in associated containers, and in no
  others.**
-/

namespace ValidationReport

/-! ### The check of sizes -/

/-- The container is an associated signature container. -/
def Facts.Associated (f : Facts) : Prop :=
  normalized (f.containerType.getD []) = "ASIC-E" ∨ normalized (f.containerType.getD []) = "ASIC-S"

theorem Facts.containerCheck_of_associated {f : Facts} (h : f.Associated) :
    f.containerCheck = .sizes f.dataFiles := by
  unfold containerCheck
  rw [if_pos (by simpa [associatedContainers, Associated] using h)]

theorem Facts.containerCheck_of_not_associated {f : Facts} (h : ¬ f.Associated) :
    f.containerCheck = .none := by
  unfold containerCheck
  rw [if_neg (by simpa [associatedContainers, Associated] using h)]

/-- Both sizes of a file are known, and they differ. -/
def DataFile.Mismatched (f : DataFile) : Prop :=
  ∃ declared size, f.declaredSize = some declared ∧ f.size = some size ∧ declared ≠ size

theorem DataFile.mismatched_iff {f : DataFile} : f.Mismatched ↔ f.hasWrongSize = true := by
  unfold Mismatched hasWrongSize
  cases f.declaredSize <;> cases f.size <;> simp

/-- The messages about the sizes of files: one for each file whose sizes differ, with its name as
it is, in the order of the files. -/
inductive SizeReport : List DataFile → List Text → Prop
  | nil : SizeReport [] []
  | mismatched {f : DataFile} {files : List DataFile} {messages : List Text} (h : f.Mismatched)
      (hrest : SizeReport files messages) :
    SizeReport (f :: files)
      ((("Container contains a file named " : Text) ++ f.name ++
        (" which size does not match the declared size" : Text)) :: messages)
  | matched {f : DataFile} {files : List DataFile} {messages : List Text} (h : ¬ f.Mismatched)
      (hrest : SizeReport files messages) : SizeReport (f :: files) messages

theorem sizeReport_run (files : List DataFile) :
    SizeReport files (ContainerCheck.sizes files).run := by
  induction files with
  | nil => exact .nil
  | cons f files ih =>
    rw [ContainerCheck.run_sizes_cons]
    by_cases h : f.Mismatched
    · rw [if_pos (DataFile.mismatched_iff.mp h)]
      exact .mismatched h ih
    · rw [if_neg (DataFile.mismatched_iff.not.mp h)]
      exact .matched h ih

/-- The check of a container gives these messages and no others. -/
theorem sizeReport_iff {files : List DataFile} {messages : List Text} :
    SizeReport files messages ↔ messages = (ContainerCheck.sizes files).run := by
  constructor
  · intro h
    induction h with
    | nil => rfl
    | mismatched h _ ih =>
      rw [ContainerCheck.run_sizes_cons, if_pos (DataFile.mismatched_iff.mp h), ih]
      rfl
    | matched h _ ih =>
      rw [ContainerCheck.run_sizes_cons, if_neg (DataFile.mismatched_iff.not.mp h), ih]
      rfl
  · rintro rfl
    exact sizeReport_run files

/-- A file whose sizes differ is reported. -/
theorem Facts.mem_run_containerCheck {f : Facts} (h : f.Associated) {file : DataFile}
    (hfile : file ∈ f.dataFiles) (hsizes : file.Mismatched) :
    sizeMessage file.name ∈ f.containerCheck.run := by
  rw [containerCheck_of_associated h]
  refine List.mem_map.mpr ⟨file, List.mem_filter.mpr ⟨hfile, ?_⟩, rfl⟩
  exact DataFile.mismatched_iff.mp hsizes

/-! ### A fault of the container is told once -/

namespace Assembly

variable {a : Assembly} {s : SignatureFacts} {m : Text}

/-- A fault of the container stands once among the errors of a signature, unless the signature has
the same error itself. -/
theorem count_errors_of_mem_containerErrors (hnodup : a.containerErrors.Nodup)
    (h : m ∈ a.containerErrors) : (a.errors s).count m = max 1 ((a.format.errors s).count m) := by
  have hfaulty : (!a.containerErrors.isEmpty) = true := by
    rw [Bool.not_eq_true', List.isEmpty_eq_false_iff]
    exact List.ne_nil_of_mem h
  have hjudgement := a.judgement_outcome s
  rw [hfaulty] at hjudgement
  have hcount := count_append_filter_notMem (a.format.errors s) hnodup m
  rw [List.count_eq_one_of_mem hnodup h, max_comm] at hcount
  unfold errors
  rw [hjudgement.errors_eq_nil_of_faulty, List.append_nil, ← hcount]
  simp

/-- A signature that could not be processed has every other fault of the container once. -/
theorem count_failedEntry (hnodup : a.containerErrors.Nodup) (h : m ∈ a.containerErrors)
    (hother : m ≠ processingError) : (a.failedEntry s).errors.count m = 1 := by
  show (processingError :: a.containerErrors).count m = 1
  rw [List.count_cons_of_ne hother.symm, List.count_eq_one_of_mem hnodup h]

end Assembly

/-- No message about a size is the one about processing. -/
theorem sizeMessage_ne_processingError (name : Text) :
    sizeMessage name ≠ Assembly.processingError := by
  intro h
  have hfirst := congrArg List.head? h
  unfold sizeMessage at hfirst
  rw [List.append_assoc, List.head?_append_of_ne_nil _ (by decide)] at hfirst
  revert hfirst
  decide

/-! ### Files that differ in sizes -/

/-- Two data files that differ at most in their sizes. -/
structure DataFile.SameButSizes (f f' : DataFile) : Prop where
  name : f'.name = f.name
  mimeType : f'.mimeType = f.mimeType
  content : f'.content = f.content

/-- In a container of another type no size has a say in the conclusion. -/
theorem Assembly.conclusionAt_of_sameButSizes {f : Facts} (h : ¬ f.Associated)
    {files : List DataFile} (hfiles : List.Forall₂ DataFile.SameButSizes f.dataFiles files)
    (d : Document) (policy : Policy) (hashed : Bool) (time : Text) :
    (ofFacts { f with dataFiles := files } d policy hashed).conclusionAt time =
      (ofFacts f d policy hashed).conclusionAt time := by
  have hcheck : Facts.containerCheck { f with dataFiles := files } = f.containerCheck := by
    rw [Facts.containerCheck_of_not_associated h]
    exact Facts.containerCheck_of_not_associated h
  exact conclusionAt_withData f.validationProcess f.diagnosticData policy hashed rfl
    (DataFile.map_name_congr (fun _ _ hfile => hfile.name) hfiles)
    (congrArg ContainerCheck.run hcheck) (fun _ => rfl) time

theorem Assembly.layersAt_of_sameButSizes {f : Facts} (h : ¬ f.Associated)
    {files : List DataFile} (hfiles : List.Forall₂ DataFile.SameButSizes f.dataFiles files)
    (d : Document) (policy : Policy) (hashed : Bool) (time : Text) (type : ReportType) :
    (ofFacts { f with dataFiles := files } d policy hashed).layersAt time type =
      (ofFacts f d policy hashed).layersAt time type := by
  unfold layersAt
  rw [conclusionAt_of_sameButSizes h hfiles]
  rfl

/-! ### A sample -/

/-- Three files, two of one name and of another size than is declared. -/
def misdeclaredFiles : List DataFile :=
  [⟨"a\x7b0\x7d", none, some 1, some 2, none⟩, ⟨"b", none, some 1, none, none⟩,
    ⟨"a\x7b0\x7d", none, some (-1), some 0, none⟩]

/-- The same files with the sizes that are declared, as far as any is. -/
def declaredFiles : List DataFile :=
  [⟨"a\x7b0\x7d", none, some 2, some 2, none⟩, ⟨"b", none, none, some 1, none⟩,
    ⟨"a\x7b0\x7d", none, none, none, none⟩]

/-- A container in which the engine has found the fault as well.  The second signature cannot be
processed. -/
def Facts.ofFiles (containerType : Option Text) (files : List DataFile) : Facts :=
  { Facts.ofSignatures "asice" [.ofWord "S0" "PASSED", .untimely "S1"] [] with
    containerType := containerType
    containerErrors := [⟨sizeMessage "a\x7b0\x7d", none⟩]
    dataFiles := files }

/-! ### Reports -/

/-- What an entry says about a fault of its container: its signature fails, and the fault stands
once among its errors, or as often as it is an error of the signature itself. -/
structure SignatureEntry.TellsOnce (a : Assembly) (s : SignatureFacts) (m : Text)
    (e : SignatureEntry) : Prop where
  failed : e.indication = .failed
  once : m ∉ s.errors.map Issue.message → e.errors.count m = 1
  count : ¬ Fails (a.entry s) → e.errors.count m = max 1 ((a.format.errors s).count m)
  count_of_fails : Fails (a.entry s) → e.errors.count m = 1

/-- The errors of a signature are among the engine's. -/
theorem Format.errors_subset (format : Format) (s : SignatureFacts) :
    format.errors s ⊆ s.errors.map Issue.message := by
  cases format with
  | digidoc => exact List.map_subset _ (List.filter_subset_self _)
  | _ => exact List.Subset.refl _

theorem Assembly.tellsOnce_entryOrFailure {a : Assembly} {m : Text}
    (hnodup : a.containerErrors.Nodup) (h : m ∈ a.containerErrors) (hother : m ≠ processingError)
    (s : SignatureFacts) : SignatureEntry.TellsOnce a s m (a.entryOrFailure s) := by
  have hfailed := (a.coherent_entryOrFailure s).failed_of_faults (List.ne_nil_of_mem h)
  rcases a.entryOrFailure_cases s with ⟨e, hok, he, hdescribes⟩ | ⟨hfails, he⟩
  · have hcount : (a.entryOrFailure s).errors.count m = max 1 ((a.format.errors s).count m) := by
      rw [he, hdescribes.errors]
      exact count_errors_of_mem_containerErrors hnodup h
    refine ⟨hfailed, fun hown => ?_, fun _ => hcount, fun hfails => ?_⟩
    · have hnone : (a.format.errors s).count m = 0 :=
        List.count_eq_zero.mpr fun hin => hown (a.format.errors_subset s hin)
      rw [hcount, hnone]
      rfl
    · rw [hok] at hfails
      exact absurd hfails (not_fails_ok e)
  · have hcount : (a.entryOrFailure s).errors.count m = 1 := by
      rw [he]
      exact count_failedEntry hnodup h hother
    exact ⟨hfailed, fun _ => hcount, fun hmade => absurd hfails hmade, fun _ => hcount⟩

/-- **Sizes decide in associated containers, and in no others.**  There each file whose sizes differ
is reported by its name, in the order of the files; every signature fails, and tells of the file
once, even if it could not be processed.  Elsewhere no size has a say in the report. -/
theorem conclusions_of_sizes (settings : Settings) (policy : Policy) {time : Moment}
    (h : time.InRange) :
    ∃ report : Document → Facts → ReportType → Layers,
      (∀ d f type,
        (Assembly.ofFacts f d policy settings.reportSignatureEnabled).layers type time =
          .ok (report d f type) ∧
        (∀ (table : PolicyTable) (r : Request), r.document = d → r.reportType = type →
          r.facts.facts = .ok f →
          resolvePolicy r.policy table settings.defaultPolicy = .ok policy →
          validate settings table time r = .ok (report d f type)) ∧
        (report d f type).PassOn f type) ∧
      (∀ f : Facts, f.Associated → ∀ messages,
        SizeReport f.dataFiles messages ↔ messages = f.containerCheck.run) ∧
      (∀ (d : Document) (f : Facts) (type : ReportType) (file : DataFile), f.Associated →
        file ∈ f.dataFiles → file.Mismatched →
        (report d f type).simple.conclusion.signatures.length = f.signatures.length ∧
        ∀ (i : ℕ) (s : SignatureFacts), f.signatures[i]? = some s →
          ∃ e, (report d f type).simple.conclusion.signatures[i]? = some e ∧
            e.TellsOnce (Assembly.ofFacts f d policy settings.reportSignatureEnabled) s
              (sizeMessage file.name)) ∧
      ∀ (d : Document) (f : Facts) (type : ReportType) (files : List DataFile), ¬ f.Associated →
        List.Forall₂ DataFile.SameButSizes f.dataFiles files →
        report d { f with dataFiles := files } type = report d f type := by
  obtain ⟨text, hanswers⟩ := h.exists_layersAt settings policy
  refine ⟨fun d f type => (Assembly.ofFacts f d policy settings.reportSignatureEnabled).layersAt
    text type, hanswers, ?_, ?_, ?_⟩
  · intro f hassociated messages
    rw [Facts.containerCheck_of_associated hassociated]
    exact sizeReport_iff
  · intro d f type file hassociated hfile hsizes
    refine ⟨List.length_map _, fun i s hs => ⟨_, List.getElem?_map.trans
      (Option.map_eq_some_iff.mpr ⟨s, hs, rfl⟩), ?_⟩⟩
    have hmerged := mergesFirst_mergedErrors f f.containerCheck.run
    apply Assembly.tellsOnce_entryOrFailure hmerged.nodup
    · exact (hmerged.mem_iff _).mpr (Or.inr (Facts.mem_run_containerCheck hassociated hfile hsizes))
    · exact sizeMessage_ne_processingError file.name
  · intro d f type files hother hfiles
    exact Assembly.layersAt_of_sameButSizes hother hfiles d policy settings.reportSignatureEnabled
      text type

/-- Both signatures tell of the two files once, the one that could not be processed as well; in a
container of no type the report is the same with other sizes. -/
theorem conclusions_of_sizes_misdeclared :
    Moment.noon.InRange ∧ (Facts.ofFiles (some " asic-e ") misdeclaredFiles).Associated ∧
      SizeReport misdeclaredFiles
        (Facts.ofFiles (some " asic-e ") misdeclaredFiles).containerCheck.run ∧
      ∃ l l' e₀ e₁,
        (Assembly.ofFacts (.ofFiles (some " asic-e ") misdeclaredFiles) ⟨"doc", [], none, []⟩
          qesPolicy false).layers .simple .noon = .ok l ∧
        l.simple.conclusion.signatures[0]? = some e₀ ∧
        l.simple.conclusion.signatures[1]? = some e₁ ∧
        e₀.indication = .failed ∧ e₀.errors.count (sizeMessage "a\x7b0\x7d") = 1 ∧
        e₁.indication = .failed ∧ e₁.errors.count (sizeMessage "a\x7b0\x7d") = 1 ∧
        (Assembly.ofFacts (.ofFiles none misdeclaredFiles) ⟨"doc", [], none, []⟩ qesPolicy
          false).layers .simple .noon = .ok l' ∧
        (Assembly.ofFacts (.ofFiles none declaredFiles) ⟨"doc", [], none, []⟩ qesPolicy
          false).layers .simple .noon = .ok l' := by
  have hnoon : Moment.noon.InRange := by decide
  have hassociated : (Facts.ofFiles (some " asic-e ") misdeclaredFiles).Associated :=
    Or.inl (by decide)
  have hother : ¬ (Facts.ofFiles none misdeclaredFiles).Associated := by
    rintro (h | h) <;> revert h <;> decide
  have hfiles : List.Forall₂ DataFile.SameButSizes misdeclaredFiles declaredFiles :=
    .cons ⟨rfl, rfl, rfl⟩ (.cons ⟨rfl, rfl, rfl⟩ (.cons ⟨rfl, rfl, rfl⟩ .nil))
  obtain ⟨report, hmade, hreported, htold, hkept⟩ := conclusions_of_sizes .standard qesPolicy hnoon
  obtain ⟨-, hentries⟩ := htold ⟨"doc", [], none, []⟩ (.ofFiles (some " asic-e ") misdeclaredFiles)
    .simple _ hassociated List.mem_cons_self ⟨2, 1, rfl, rfl, by decide⟩
  obtain ⟨e₀, he₀, htold₀⟩ := hentries 0 _ rfl
  obtain ⟨e₁, he₁, htold₁⟩ := hentries 1 _ rfl
  have hsame : report ⟨"doc", [], none, []⟩ (.ofFiles none declaredFiles) .simple =
      report ⟨"doc", [], none, []⟩ (.ofFiles none misdeclaredFiles) .simple :=
    hkept ⟨"doc", [], none, []⟩ (.ofFiles none misdeclaredFiles) .simple declaredFiles hother hfiles
  refine ⟨hnoon, hassociated, (hreported _ hassociated _).mpr rfl, _, _, e₀, e₁, (hmade _ _ _).1,
    he₀, he₁, htold₀.failed, htold₀.once (by simp [SignatureFacts.ofWord]), htold₁.failed,
    htold₁.once (by simp [SignatureFacts.untimely, SignatureFacts.ofWord]), (hmade _ _ _).1, ?_⟩
  rw [← hsame]
  exact (hmade _ _ _).1

end ValidationReport
