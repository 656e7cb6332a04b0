import ValidationReport.Proofs.Coherence
import ValidationReport.Proofs.Scopes
import ValidationReport.Proofs.WellFormed
import ValidationReport.Service

/-!
# Conclusions that can be sent

A conclusion is sent if no text in it holds half of a surrogate pair, and it is
never too deep.  Its texts come from facts, from the document, from the policy and
from evidence, and evidence adds no surrogate; so a conclusion can be sent if the
facts hold none in what is reported of them.

## Main definitions

* `SignatureFacts.WellFormed`, `Facts.WellFormed` — the reported texts of facts are
  well formed.
* `Assembly.WellFormed` — so is everything that a conclusion is assembled from.
* `SignatureEntry.WellFormed` — so is everything in an entry.

## Main results

* `wellFormed_entryOrFailure` — **no entry gets a surrogate that its signature does
  not have.**
* `isPlain_writeConclusion` — so can be told of a conclusion.
* `depth_writeConclusion_le` — a conclusion is never too deep.
-/

namespace ValidationReport

open Text

/-! ### Facts -/

/-- The texts about a signature that may be reported are well formed. -/
structure SignatureFacts.WellFormed (s : SignatureFacts) : Prop where
  id : s.id.isWellFormed = true
  subIndication : WellFormedIfAny s.subIndication
  qualification : WellFormedIfAny s.qualification
  profile : WellFormedIfAny s.profile
  signatureFormat : WellFormedIfAny s.signatureFormat
  signatureMethod : s.signatureMethod.isWellFormed = true
  signingCertificate : WellFormedIfAny s.signingCertificate
  revocations : ∀ r ∈ s.revocations, WellFormedIfAny r.certificate
  timestamps : ∀ t ∈ s.timestamps, WellFormedIfAny t.certificate ∧ WellFormedIfAny t.messageImprint
  signerRoles : ∀ t ∈ s.signerRoles, t.isWellFormed = true
  productionPlace : ∀ p, s.productionPlace = some p → p.countryName.isWellFormed = true ∧
    p.stateOrProvince.isWellFormed = true ∧ p.city.isWellFormed = true ∧
    p.postalCode.isWellFormed = true
  messages : ∀ i ∈ s.errors ++ s.warnings, i.message.isWellFormed = true

/-- The texts of facts that may be reported are well formed. -/
structure Facts.WellFormed (f : Facts) : Prop where
  containerType : WellFormedIfAny f.containerType
  formatVersion : WellFormedIfAny f.formatVersion
  signatures : ∀ s ∈ f.signatures, s.WellFormed
  simpleReports : ∀ e ∈ f.simpleReports,
    WellFormedIfAny e.2.subIndication ∧ WellFormedIfAny e.2.qualification
  messages : ∀ i ∈ f.containerErrors ++ f.containerWarnings, i.message.isWellFormed = true
  dataFiles : ∀ d ∈ f.dataFiles, d.name.isWellFormed = true

/-- The texts that a conclusion is assembled from are well formed. -/
structure Assembly.WellFormed (a : Assembly) : Prop where
  facts : a.facts.WellFormed
  filename : a.document.filename.isWellFormed = true
  dataFiles : ∀ name ∈ a.document.dataFiles, name.isWellFormed = true
  policy : a.policy.name.isWellFormed = true ∧ a.policy.description.isWellFormed = true ∧
    a.policy.url.isWellFormed = true
  containerErrors : ∀ m ∈ a.containerErrors, m.isWellFormed = true

theorem isWellFormed_of_mem_map_message {issues : List Issue} {m : Text}
    (h : ∀ i ∈ issues, i.message.isWellFormed = true) (hm : m ∈ issues.map Issue.message) :
    m.isWellFormed = true := by
  obtain ⟨i, hi, rfl⟩ := List.mem_map.mp hm
  exact h i hi

/-- The check of a container tells names of its files. -/
theorem Facts.WellFormed.isWellFormed_of_mem_run {f : Facts} (h : f.WellFormed) {m : Text}
    (hm : m ∈ f.containerCheck.run) : m.isWellFormed = true := by
  unfold Facts.containerCheck at hm
  split at hm
  · obtain ⟨d, hd, rfl⟩ := List.mem_map.mp hm
    have hname := h.dataFiles d (List.mem_of_mem_filter hd)
    simp [sizeMessage, isWellFormed_append, hname]
  · cases hm

theorem Facts.WellFormed.ofFacts {f : Facts} (h : f.WellFormed) {d : Document}
    (hfilename : d.filename.isWellFormed = true)
    (hdataFiles : ∀ name ∈ d.dataFiles, name.isWellFormed = true) {policy : Policy}
    (hpolicy : policy.name.isWellFormed = true ∧ policy.description.isWellFormed = true ∧
      policy.url.isWellFormed = true) (hashed : Bool) :
    (Assembly.ofFacts f d policy hashed).WellFormed where
  facts := h
  filename := hfilename
  dataFiles := hdataFiles
  policy := hpolicy
  containerErrors := by
    intro m hm
    rcases ((mergesFirst_mergedErrors f _).mem_iff m).mp hm with hfound | hchecked
    · exact isWellFormed_of_mem_map_message (List.forall_mem_append.mp h.messages).1 hfound
    · exact h.isWellFormed_of_mem_run hchecked

/-! ### What a format reports -/

section

variable {f : Facts} (hf : f.WellFormed) {s : SignatureFacts} (hs : s.WellFormed) (format : Format)

include hf

theorem Facts.WellFormed.simpleEntry? {e : SimpleEntry} (he : f.simpleEntry? s = some e) :
    WellFormedIfAny e.subIndication ∧ WellFormedIfAny e.qualification := by
  obtain ⟨before, after, hsplit, -⟩ := List.lookup_eq_some_iff.mp he
  exact hf.simpleReports (s.id, e) (hsplit ▸ List.mem_append_right before List.mem_cons_self)

theorem isWellFormed_digidocName : f.digidocName.isWellFormed = true := by
  have hversion := isWellFormed_trim hf.formatVersion.getD
  unfold Facts.digidocName Facts.versionSuffix
  rw [isWellFormed_append]
  refine ⟨isWellFormed_ofString _, ?_⟩
  dsimp only
  split
  · rfl
  · exact isWellFormed_append.mpr ⟨isWellFormed_ofString _, hversion⟩

theorem wellFormedIfAny_form : WellFormedIfAny (format.form f) := by
  have hname := isWellFormed_digidocName hf
  cases format with
  | timemark => exact wellFormedIfAny_some (isWellFormed_ofString _)
  | digidoc =>
    refine wellFormedIfAny_some ?_
    split
    · exact isWellFormed_append.mpr ⟨hname, isWellFormed_ofString _⟩
    · rwa [List.append_nil]
  | generic => exact hf.containerType
  | detached => exact wellFormedIfAny_none

include hs

theorem isWellFormed_signatureFormat : (format.signatureFormat f s).isWellFormed = true := by
  have hformat := hs.signatureFormat.getD
  cases format with
  | timemark =>
    unfold Format.signatureFormat
    dsimp only
    split
    · next profile hprofile =>
      obtain ⟨u, hu, hnonempty⟩ := Option.bind_eq_some_iff.mp hprofile
      obtain ⟨rfl, -⟩ := nonempty?_eq_some_iff.mp hnonempty
      rw [isWellFormed_append]
      exact ⟨isWellFormed_ofString _, hs.profile u hu⟩
    · exact hformat
  | digidoc => exact isWellFormed_digidocName hf
  | generic => exact hformat
  | detached => exact hformat

theorem isWellFormed_level : (format.level f s).isWellFormed = true := by
  have hlevel := hs.qualification.getD
  cases format with
  | timemark =>
    refine WellFormedIfAny.getD fun u hu => ?_
    obtain ⟨e, he, hqualification⟩ := Option.bind_eq_some_iff.mp hu
    exact (hf.simpleEntry? he).2 u hqualification
  | digidoc => rfl
  | generic => exact hlevel
  | detached => exact hlevel

theorem wellFormedIfAny_reason : WellFormedIfAny (format.reason f s) := by
  cases format with
  | timemark =>
    unfold Format.reason
    dsimp only
    split
    · next reason hreason =>
      obtain ⟨u, hu, hnonempty⟩ := Option.bind_eq_some_iff.mp hreason
      obtain ⟨rfl, -⟩ := nonempty?_eq_some_iff.mp hnonempty
      obtain ⟨e, he, hsub⟩ := Option.bind_eq_some_iff.mp hu
      exact wellFormedIfAny_some ((hf.simpleEntry? he).1 u hsub)
    · exact hs.subIndication
  | digidoc => exact wellFormedIfAny_none
  | generic => exact hs.subIndication
  | detached => exact hs.subIndication

omit hf

/-- The messages that a format takes from a signature are its own. -/
theorem isWellFormed_of_mem_messages {m : Text} (hm : m ∈ format.errors s ++ format.warnings s) :
    m.isWellFormed = true := by
  obtain ⟨herrors, hwarnings⟩ := List.forall_mem_append.mp hs.messages
  have herror := isWellFormed_of_mem_map_message (m := m) herrors
  have hwarning := isWellFormed_of_mem_map_message (m := m) hwarnings
  have hsome := isWellFormed_of_mem_map_message (m := m) fun i (hi : i ∈ s.errors.filter
    Issue.isHarmless) => herrors i (List.mem_of_mem_filter hi)
  have hrest := isWellFormed_of_mem_map_message (m := m) fun i (hi : i ∈ s.errors.filter
    fun i => !i.isHarmless) => herrors i (List.mem_of_mem_filter hi)
  cases format with
  | digidoc => exact (List.mem_append.mp hm).elim hrest fun h =>
      (List.mem_append.mp h).elim hwarning hsome
  | _ => exact (List.mem_append.mp hm).elim herror hwarning

theorem isWellFormed_imprint {t : Text} (h : format.imprint s = .ok t) :
    t.isWellFormed = true := by
  have hfirst : (timestampImprint s.firstTimestamp).isWellFormed = true := by
    refine WellFormedIfAny.getD fun u hu => ?_
    obtain ⟨stamp, hstamp, himprint⟩ := Option.bind_eq_some_iff.mp hu
    exact (hs.timestamps stamp (List.mem_of_head? hstamp)).2 u himprint
  have hother : ∀ format', (format' = .generic ∨ format' = .detached) →
      Format.imprint format' s = .ok t → t.isWellFormed = true := by
    rintro format' hformat h
    unfold Format.imprint at h
    rcases hformat with rfl | rfl <;>
    · dsimp only at h
      split at h
      · next stamp hstamp =>
        rw [← hstamp] at h
        cases h
        exact hfirst
      · exact isWellFormed_nonceImprint h
  cases format with
  | timemark =>
    unfold Format.imprint at h
    dsimp only at h
    split at h
    · exact isWellFormed_nonceImprint h
    · cases h
      exact hfirst
  | digidoc => exact isWellFormed_nonceImprint h
  | generic => exact hother _ (.inl rfl) h
  | detached => exact hother _ (.inr rfl) h

theorem wellFormed_timestampEntries {entries : List CertificateEntry}
    (h : format.timestampEntries s = .ok entries) : ∀ e ∈ entries, e.WellFormed := by
  refine wellFormed_certificateEntries h fun t ht => ?_
  obtain ⟨stamp, hstamp, rfl⟩ := List.mem_map.mp ht
  have hmem : stamp ∈ s.timestamps := by
    cases format with
    | timemark => exact List.mem_of_mem_take hstamp
    | digidoc => cases hstamp
    | generic => exact hstamp
    | detached => exact hstamp
  exact (hs.timestamps stamp hmem).1

end

/-! ### Entries -/

/-- The texts in the evidence of a signature are well formed. -/
structure SignatureInfo.WellFormed (i : SignatureInfo) : Prop where
  bestSignatureTime : WellFormedIfAny i.bestSignatureTime
  ocspResponseCreationTime : WellFormedIfAny i.ocspResponseCreationTime
  timestampCreationTime : WellFormedIfAny i.timestampCreationTime
  timeAssertionMessageImprint : i.timeAssertionMessageImprint.isWellFormed = true
  signerRoles : ∀ t ∈ i.signerRoles, t.isWellFormed = true
  productionPlace : ∀ p, i.productionPlace = some p → p.countryName.isWellFormed = true ∧
    p.stateOrProvince.isWellFormed = true ∧ p.city.isWellFormed = true ∧
    p.postalCode.isWellFormed = true

/-- The texts in an entry are well formed. -/
structure SignatureEntry.WellFormed (e : SignatureEntry) : Prop where
  id : e.id.isWellFormed = true
  signatureFormat : e.signatureFormat.isWellFormed = true
  signatureMethod : e.signatureMethod.isWellFormed = true
  signatureLevel : e.signatureLevel.isWellFormed = true
  signedBy : e.signedBy.isWellFormed = true
  subject : e.subject.WellFormed
  subIndication : e.subIndication.isWellFormed = true
  claimedSigningTime : e.claimedSigningTime.isWellFormed = true
  messages : ∀ m ∈ e.warnings ++ e.errors, m.isWellFormed = true
  scopes : ∀ scope ∈ e.scopes, scope.name.isWellFormed = true ∧ scope = .full scope.name
  certificates : ∀ c ∈ e.certificates, c.WellFormed
  info : e.info.WellFormed

namespace Assembly

variable {a : Assembly} (ha : a.WellFormed) {s : SignatureFacts} (hs : s.WellFormed)

include ha hs

theorem isWellFormed_subIndication_outcome :
    (a.outcome s).subIndication.isWellFormed = true := by
  have hreason := (wellFormedIfAny_reason ha.facts hs a.format).getD
  have hjudgement := a.judgement_outcome s
  generalize a.outcome s = o at hjudgement ⊢
  cases hjudgement with
  | faulty => exact hreason
  | passed => rfl
  | warned => rfl
  | refused => rfl
  | undecided => exact hreason
  | failed => exact hreason

omit hs ha in
/-- The messages about levels are fixed. -/
theorem isWellFormed_of_mem_outcome {m : Text}
    (hm : m ∈ (a.outcome s).warnings ++ (a.outcome s).errors) : m.isWellFormed = true := by
  have hjudgement := a.judgement_outcome s
  generalize a.outcome s = o at hm hjudgement
  cases hjudgement with
  | faulty => cases hm
  | passed => cases hm
  | warned => exact List.mem_singleton.mp hm ▸ isWellFormed_ofString _
  | refused => exact List.mem_singleton.mp hm ▸ isWellFormed_ofString _
  | undecided => cases hm
  | failed => cases hm

theorem isWellFormed_of_mem_messages {m : Text} (hm : m ∈ a.warnings s ++ a.errors s) :
    m.isWellFormed = true := by
  have hown := ValidationReport.isWellFormed_of_mem_messages hs a.format (m := m)
  have hlevel := isWellFormed_of_mem_outcome (a := a) (s := s) (m := m)
  rw [List.mem_append] at hown hlevel
  unfold warnings errors at hm
  simp only [List.mem_append, List.mem_filter] at hm
  rcases hm with (hm | hm) | (hm | hm) | hm
  · exact hown (.inr hm)
  · exact hlevel (.inl hm)
  · exact hown (.inl hm)
  · exact ha.containerErrors m hm.1
  · exact hlevel (.inr hm)

omit ha in
theorem wellFormed_info {i : SignatureInfo} (h : a.info s = .ok i) : i.WellFormed := by
  unfold info at h
  obtain ⟨best, hbest, h⟩ := bind_eq_ok_iff.mp h
  obtain ⟨time, -, h⟩ := bind_eq_ok_iff.mp h
  obtain ⟨ocsp, hocsp, h⟩ := bind_eq_ok_iff.mp h
  obtain ⟨stamp, hstamp, h⟩ := bind_eq_ok_iff.mp h
  obtain ⟨imprint, himprint, h⟩ := bind_eq_ok_iff.mp h
  simp only [pure, Except.pure, Except.ok.injEq] at h
  subst h
  refine ⟨isWellFormed_utcText? hbest, isWellFormed_utcText? hocsp, isWellFormed_utcText? hstamp,
    isWellFormed_imprint hs a.format himprint, hs.signerRoles, fun p hp => ?_⟩
  obtain ⟨place, hplace, rfl⟩ := Option.map_eq_some_iff.mp hp
  exact hs.productionPlace place hplace

omit ha in
theorem wellFormed_certificates {entries : List CertificateEntry}
    (h : a.certificates s = .ok entries) : ∀ e ∈ entries, e.WellFormed := by
  obtain ⟨first, hfirst, h⟩ := bind_eq_ok_iff.mp h
  obtain ⟨second, hsecond, h⟩ := bind_eq_ok_iff.mp h
  cases h
  rw [List.forall_mem_append]
  refine ⟨wellFormed_classifyCertificates hfirst hs.signingCertificate fun t ht => ?_,
    wellFormed_timestampEntries hs a.format hsecond⟩
  obtain ⟨r, hr, rfl⟩ := List.mem_map.mp ht
  exact hs.revocations r hr

omit hs in
/-- A signature covers files by their names. -/
theorem wellFormed_scopes {scope : Scope}
    (h : scope ∈ signedScopes s.references (a.format.dataFileNames a.facts a.document)) :
    scope.name.isWellFormed = true ∧ scope = .full scope.name := by
  obtain ⟨hmem, hfull⟩ := name_mem_of_mem_signedScopes h
  refine ⟨?_, hfull⟩
  have hfile : ∀ n ∈ a.facts.dataFiles.map DataFile.name, n.isWellFormed = true := by
    intro n hn
    obtain ⟨d, hd, rfl⟩ := List.mem_map.mp hn
    exact ha.facts.dataFiles d hd
  cases hformat : a.format with
  | detached =>
    rw [hformat] at hmem
    exact ha.dataFiles _ hmem
  | _ =>
    rw [hformat] at hmem
    exact hfile _ hmem

theorem wellFormed_entry {e : SignatureEntry} (h : a.entry s = .ok e) : e.WellFormed := by
  have hdescribes := describes_of_entry h
  have hattests := attests_of_entry h
  -- evidence is decoded, and the rest is taken from the facts or is a fixed word
  have hsubject := wellFormed_subjectName hattests.subject
  constructor
  case id => exact hdescribes.id ▸ hs.id
  case signatureFormat =>
    exact hdescribes.signatureFormat ▸ isWellFormed_signatureFormat ha.facts hs a.format
  case signatureMethod => exact hdescribes.signatureMethod ▸ hs.signatureMethod
  case signatureLevel => exact hdescribes.signatureLevel ▸ isWellFormed_level ha.facts hs a.format
  case signedBy => exact hattests.signedBy ▸ hsubject.commonName.getD
  case subject => exact hsubject
  case subIndication =>
    rw [hdescribes.subIndication]
    split
    · rfl
    · exact isWellFormed_subIndication_outcome ha hs
  case claimedSigningTime =>
    obtain ⟨time, htime, hclaimed⟩ := map_eq_ok_iff.mp hattests.claimedSigningTime
    exact hclaimed ▸ (isWellFormed_utcText? htime).getD
  case messages =>
    rw [hdescribes.warnings, hdescribes.errors]
    exact fun m => isWellFormed_of_mem_messages ha hs
  case scopes =>
    rw [hdescribes.scopes]
    exact fun scope => wellFormed_scopes ha
  case certificates => exact wellFormed_certificates hs hattests.certificates
  case info => exact wellFormed_info hs hattests.info

theorem wellFormed_failedEntry : (a.failedEntry s).WellFormed := by
  constructor
  case id => exact hs.id
  case subject => exact SubjectName.wellFormed_unknown
  case messages =>
    intro m hm
    rcases List.mem_cons.mp hm with rfl | hm
    · exact isWellFormed_ofString _
    · exact ha.containerErrors m hm
  case scopes => exact fun scope hscope => by cases hscope
  case certificates => exact fun c hc => by cases hc
  case info =>
    exact ⟨wellFormedIfAny_none, wellFormedIfAny_none, wellFormedIfAny_none, rfl,
      fun t ht => (by cases ht), fun p hp => (by cases hp)⟩
  all_goals rfl

/-- **No entry gets a surrogate that its signature does not have.** -/
theorem wellFormed_entryOrFailure : (a.entryOrFailure s).WellFormed := by
  rcases a.entryOrFailure_cases s with ⟨e, hok, he, -⟩ | ⟨-, he⟩
  · rw [he]
    exact wellFormed_entry ha hs hok
  · rw [he]
    exact wellFormed_failedEntry ha hs

end Assembly

/-! ### Written parts -/

theorem isPlain_optional {t : Option Text} (h : WellFormedIfAny t) :
    (Json.optional t).isPlain = true := by
  cases t with
  | none => rfl
  | some t => exact h t rfl

theorem isPlain_writeList {α : Type} {write : α → Json} {l : List α}
    (h : ∀ a ∈ l, (write a).isPlain = true) : (writeList write l).isPlain = true := by
  rw [writeList, Json.isPlain_arr_iff]
  intro j hj
  obtain ⟨a, ha, rfl⟩ := List.mem_map.mp hj
  exact h a ha

theorem isPlain_writeNamed (key : String) {texts : List Text}
    (h : ∀ t ∈ texts, t.isWellFormed = true) : (writeNamed key texts).isPlain = true := by
  refine isPlain_writeList fun t ht => Json.isPlain_obj_iff.mpr ?_
  exact List.forall_mem_singleton.mpr ⟨isWellFormed_ofString key, h t ht⟩

theorem isPlain_writeInfo {i : SignatureInfo} (h : i.WellFormed) :
    (writeInfo i).isPlain = true := by
  have hplace : (writeOptional writePlace i.productionPlace).isPlain = true := by
    cases hsome : i.productionPlace with
    | none => rfl
    | some p =>
      obtain ⟨hcountry, hstate, hcity, hcode⟩ := h.productionPlace p hsome
      rw [writeOptional, writePlace, Json.isPlain_obj_iff]
      simp only [List.forall_mem_cons, isWellFormed_ofString, true_and]
      exact ⟨hcountry, hstate, hcity, hcode, by simp⟩
  rw [writeInfo, Json.isPlain_obj_iff]
  simp only [List.forall_mem_cons, isWellFormed_ofString, true_and]
  exact ⟨isPlain_optional h.bestSignatureTime, isPlain_optional h.ocspResponseCreationTime,
    isPlain_optional h.timestampCreationTime, h.timeAssertionMessageImprint,
    isPlain_writeNamed _ h.signerRoles, hplace, by simp⟩

theorem isPlain_writeSubject {s : SubjectName} (h : s.WellFormed) :
    (writeSubject s).isPlain = true := by
  rw [writeSubject, Json.isPlain_obj_iff]
  simp only [List.forall_mem_cons, isWellFormed_ofString, true_and]
  exact ⟨isPlain_optional h.commonName, isPlain_optional h.serialNumber,
    isPlain_optional h.givenName, isPlain_optional h.surname, by simp⟩

theorem isPlain_writeCertificate {c : CertificateEntry} (h : c.WellFormed) :
    (writeCertificate c).isPlain = true := by
  have hrole : c.role.text.isWellFormed = true := by
    cases c.role <;> exact isWellFormed_ofString _
  rw [writeCertificate, Json.isPlain_obj_iff]
  simp only [List.forall_mem_cons, isWellFormed_ofString, true_and]
  exact ⟨h.content, h.commonName, hrole, by simp⟩

theorem isPlain_writeScope {scope : Scope}
    (h : scope.name.isWellFormed = true ∧ scope = .full scope.name) :
    (writeScope scope).isPlain = true := by
  obtain ⟨hname, hfull⟩ := h
  rw [hfull, writeScope, Json.isPlain_obj_iff]
  simp only [List.forall_mem_cons, isWellFormed_ofString, true_and]
  exact ⟨hname, isWellFormed_ofString _, isWellFormed_ofString _, by simp⟩

theorem isPlain_writeEntry {e : SignatureEntry} (h : e.WellFormed) :
    (writeEntry e).isPlain = true := by
  obtain ⟨hwarnings, herrors⟩ := List.forall_mem_append.mp h.messages
  have hindication : e.indication.text.isWellFormed = true := by
    cases e.indication <;> exact isWellFormed_ofString _
  rw [writeEntry, Json.isPlain_obj_iff]
  simp only [List.forall_mem_cons, isWellFormed_ofString, true_and]
  exact ⟨h.id, h.signatureFormat, h.signatureMethod, h.signatureLevel, h.signedBy,
    isPlain_writeSubject h.subject, hindication, h.subIndication, h.claimedSigningTime,
    isPlain_writeNamed _ hwarnings, isPlain_writeNamed _ herrors,
    isPlain_writeList fun scope hscope => isPlain_writeScope (h.scopes scope hscope),
    isPlain_writeList fun c hc => isPlain_writeCertificate (h.certificates c hc),
    isPlain_writeInfo h.info, by simp⟩

/-- **A conclusion assembled from well-formed text is plain.** -/
theorem isPlain_writeConclusion {a : Assembly} (ha : a.WellFormed) {time : Text}
    (htime : time.isWellFormed = true) :
    (writeConclusion (a.conclusionAt time)).isPlain = true := by
  have hpolicy : (writePolicy a.policy).isPlain = true := by
    rw [writePolicy, Json.isPlain_obj_iff]
    simp only [List.forall_mem_cons, isWellFormed_ofString, true_and]
    exact ⟨ha.policy.1, ha.policy.2.1, ha.policy.2.2, by simp⟩
  have hdocument : (writeDocument (validatedDocument a.hashed a.document.filename
      a.document.content)).isPlain = true := by
    unfold validatedDocument
    split <;> rw [writeDocument, Json.isPlain_obj_iff] <;>
      simp only [List.forall_mem_cons, isWellFormed_ofString, true_and]
    · exact ⟨ha.filename, isWellFormed_encode _, isWellFormed_ofString _, by simp⟩
    · exact ⟨ha.filename, rfl, rfl, by simp⟩
  have hentries : ∀ e ∈ a.facts.signatures.map a.entryOrFailure, (writeEntry e).isPlain = true := by
    intro e he
    obtain ⟨s, hs, rfl⟩ := List.mem_map.mp he
    exact isPlain_writeEntry (Assembly.wellFormed_entryOrFailure ha (ha.facts.signatures s hs))
  have hwarnings : ∀ m ∈ a.facts.containerWarnings.map Issue.message, m.isWellFormed = true :=
    fun m hm => isWellFormed_of_mem_map_message
      (List.forall_mem_append.mp ha.facts.messages).2 hm
  rw [writeConclusion, Json.isPlain_obj_iff]
  simp only [List.forall_mem_cons, isWellFormed_ofString, validationTimeKey, true_and]
  exact ⟨hpolicy, htime, hdocument, isPlain_optional (wellFormedIfAny_form ha.facts a.format),
    isPlain_writeList hentries, isPlain_writeNamed _ hwarnings, rfl, rfl, by simp⟩

/-! ### Depth -/

theorem depth_writeList_le {α : Type} (write : α → Json) {n : ℕ} (h : ∀ a, (write a).depth ≤ n)
    (l : List α) : (writeList write l).depth ≤ n + 1 := by
  rw [writeList, Json.depth_arr_le_iff]
  intro j hj
  obtain ⟨a, -, rfl⟩ := List.mem_map.mp hj
  exact h a

theorem depth_optional (t : Option Text) : (Json.optional t).depth = 1 := by
  cases t <;> rfl

theorem depth_writeNamed_le (key : Text) (texts : List Text) :
    (writeNamed key texts).depth ≤ 3 :=
  depth_writeList_le (fun t => .obj [(key, .str t)]) (n := 2) (fun _ => le_rfl) texts

theorem depth_writeInfo_le (i : SignatureInfo) : (writeInfo i).depth ≤ 4 := by
  have hplace : (writeOptional writePlace i.productionPlace).depth ≤ 2 := by
    cases i.productionPlace with
    | none => simp [writeOptional, Json.depth]
    | some p => exact le_rfl
  have hroles := depth_writeNamed_le "claimedRole" i.signerRoles
  rw [writeInfo, Json.depth_obj_le_iff]
  simp only [List.forall_mem_cons, depth_optional, Json.depth]
  exact ⟨by omega, by omega, by omega, by omega, hroles, by omega, by simp⟩

theorem depth_writeEntry_le (e : SignatureEntry) : (writeEntry e).depth ≤ 5 := by
  have hnamed := depth_writeNamed_le "content"
  have hscopes := depth_writeList_le writeScope (n := 2) (fun _ => le_rfl) e.scopes
  have hcertificates := depth_writeList_le writeCertificate (n := 2) (fun _ => le_rfl)
    e.certificates
  have hsubject : (writeSubject e.subject).depth ≤ 2 := by
    rw [writeSubject, Json.depth_obj_le_iff]
    simp only [List.forall_mem_cons, depth_optional]
    simp
  have hinfo := depth_writeInfo_le e.info
  rw [writeEntry, Json.depth_obj_le_iff]
  simp only [List.forall_mem_cons, Json.depth]
  exact ⟨by omega, by omega, by omega, by omega, by omega, by omega, by omega, by omega, by omega,
    (hnamed _).trans (by omega), (hnamed _).trans (by omega), by omega, by omega, hinfo, by simp⟩

/-- A conclusion is never too deep. -/
theorem depth_writeConclusion_le (c : Conclusion) : (writeConclusion c).depth ≤ 7 := by
  have hpolicy : (writePolicy c.policy).depth ≤ 2 := le_rfl
  have hdocument : (writeDocument c.document).depth ≤ 2 := by
    rw [writeDocument, Json.depth_obj_le_iff]
    simp only [List.forall_mem_cons, depth_optional, Json.depth]
    simp
  have hentries := depth_writeList_le writeEntry depth_writeEntry_le c.signatures
  have hwarnings := depth_writeNamed_le "content" c.warnings
  rw [writeConclusion, Json.depth_obj_le_iff]
  simp only [List.forall_mem_cons, depth_optional, Json.depth]
  exact ⟨by omega, by omega, by omega, by omega, hentries, by omega, by omega, by omega, by simp⟩

end ValidationReport
