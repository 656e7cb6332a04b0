import Mathlib.Data.List.ReduceOption
import ValidationReport.Proofs.Reread

/-!
# The certificates of an entry

Certificates come into an entry from three places: the signer's from the signature,
those of responders from its revocation data, and those of time stamps as far as the
format shows them.  Each place may hold nothing, or a text that is empty.  In the entry
they stand in one list, and a role tells where each came from.

The name of the signer is in the entry twice.  The certificate carries one name, the
subject another, and both are read from the same text by readings of their own.

## Main definitions

* `Text.filled` — the texts that are there and not empty.
* `CertificateEntry.Shows` — an entry shows the certificate in a text.
* `SignatureEntry.Lists` — an entry lists the certificates of a signature.
* `SignatureEntry.NamesSigner` — it names the signer.

## Main results

* `Assembly.entriesOf_certificates` — the list of an entry by roles.
* `commonName_eq_of_subjectName` — both readings of a name agree.
* `Assembly.lists_of_entry` — **an entry lists the certificates of its signature in
  order, and names its signer.**
-/

namespace ValidationReport

/-! ### One role -/

/-- The texts that are there and not empty, in order. -/
def Text.filled (texts : List (Option Text)) : List Text := texts.reduceOption.filter (· ≠ [])

theorem presentTexts_eq_filled (texts : List (Option Text)) :
    presentTexts texts = Text.filled texts := by
  unfold presentTexts Text.filled List.reduceOption
  rw [List.filter_filterMap]
  congr
  funext t
  rcases t with _ | _ | _ <;> rfl

/-- An entry shows the certificate in a text, in a role. -/
structure CertificateEntry.Shows (role : CertificateRole) (t : Text) (c : CertificateEntry) :
    Prop where
  entered : c.role = role
  shown : c.content = normalizeCertificate t
  named : ValidationReport.commonName t = .ok c.commonName

/-- The entries of one role show the certificates, one by one. -/
theorem shows_of_certificateEntries {role : CertificateRole} {texts : List (Option Text)}
    {entries : List CertificateEntry} (h : certificateEntries role texts = .ok entries) :
    List.Forall₂ (CertificateEntry.Shows role) (Text.filled texts) entries := by
  have hentries := mapM_eq_ok_iff.mp h
  rw [presentTexts_eq_filled] at hentries
  apply hentries.imp
  intro t c hentry
  obtain ⟨hrole, hcontent, hname⟩ := certificateEntry_eq_ok_iff.mp hentry
  exact ⟨hrole, hcontent, hname⟩

theorem role_of_certificateEntries {role : CertificateRole} {texts : List (Option Text)}
    {entries : List CertificateEntry} (h : certificateEntries role texts = .ok entries) :
    ∀ c ∈ entries, c.role = role := by
  intro c hc
  obtain ⟨t, -, hentry⟩ := exists_of_mem_mapM h hc
  exact (certificateEntry_eq_ok_iff.mp hentry).1

/-! ### Three roles in one list -/

theorem entriesOf_append (role : CertificateRole) (entries entries' : List CertificateEntry) :
    entriesOf role (entries ++ entries') = entriesOf role entries ++ entriesOf role entries' :=
  List.filter_append ..

/-- Entries of one role are all of this role and none of another one. -/
theorem entriesOf_of_forall {entries : List CertificateEntry} {role : CertificateRole}
    (h : ∀ c ∈ entries, c.role = role) (role' : CertificateRole) :
    entriesOf role' entries = if role = role' then entries else [] := by
  split
  · next hsame =>
    apply List.filter_eq_self.mpr
    intro c hc
    rw [h c hc, decide_eq_true_iff]
    exact hsame
  · next hother =>
    apply List.filter_eq_nil_iff.mpr
    intro c hc
    rw [h c hc, decide_eq_true_iff]
    exact hother

/-- **The list of an entry by roles.**  The entries of each role are those of its own place, and
the places follow each other. -/
theorem Assembly.entriesOf_certificates {a : Assembly} {s : SignatureFacts}
    {certificates : List CertificateEntry} (h : a.certificates s = .ok certificates) :
    certificateEntries .signing [s.signingCertificate] = .ok (entriesOf .signing certificates) ∧
      certificateEntries .revocation (s.revocations.map (·.certificate)) =
        .ok (entriesOf .revocation certificates) ∧
      a.format.timestampEntries s = .ok (entriesOf .signatureTimestamp certificates) ∧
      entriesOf .signing certificates ++ entriesOf .revocation certificates ++
        entriesOf .signatureTimestamp certificates = certificates := by
  unfold Assembly.certificates classifyCertificates at h
  obtain ⟨classified, hclassified, h⟩ := bind_eq_ok_iff.mp h
  obtain ⟨timestamps, htimestamps, h⟩ := bind_eq_ok_iff.mp h
  obtain ⟨signing, hsigning, hclassified⟩ := bind_eq_ok_iff.mp hclassified
  obtain ⟨revocations, hrevocations, hclassified⟩ := bind_eq_ok_iff.mp hclassified
  obtain ⟨unstamped, hunstamped, hclassified⟩ := bind_eq_ok_iff.mp hclassified
  -- A time stamp could be classified with the others, but none is: the format shows them.
  have hempty : unstamped = [] := (Except.ok.inj hunstamped).symm
  subst hempty
  cases hclassified
  cases h
  have hsigner := role_of_certificateEntries hsigning
  have hresponder := role_of_certificateEntries hrevocations
  have hstamper := role_of_certificateEntries htimestamps
  -- Of the three parts of the list each role keeps its own and drops the others.
  simp only [entriesOf_append, entriesOf_of_forall hsigner, entriesOf_of_forall hresponder,
    entriesOf_of_forall hstamper, reduceCtorEq, if_true, if_false, List.append_nil, List.nil_append]
  exact ⟨hsigning, hrevocations, htimestamps, trivial⟩

/-! ### The name of the signer -/

/-- Both readings of a certificate that is answered give one name.  A subject that cannot be read
has none, and neither has one without an attribute for it. -/
theorem commonName_eq_of_subjectName {t name : Text} {subject : SubjectName}
    (hname : commonName t = .ok name) (hsubject : subjectName (some t) = .ok subject) :
    name = subject.commonName.getD [] := by
  cases hread : subjectOf t with
  | ok attributes =>
    have hanswer := answeredWith_of_subjectOf hread
    rw [← Except.ok.inj (hanswer.named.symm.trans hname),
      ← Except.ok.inj (hanswer.described.symm.trans hsubject)]
    rfl
  | error flaw =>
    cases flaw with
    | unreadable =>
      have hanswer := answeredWith_of_unreadable hread
      rw [← Except.ok.inj (hanswer.named.symm.trans hname),
        ← Except.ok.inj (hanswer.described.symm.trans hsubject)]
      rfl
    | fatal failure =>
      have hstop := (stoppedWith_of_fatal hread).named
      rw [hstop] at hname
      cases hname

theorem filled_singleton_eq_iff {t : Option Text} {u : Text} :
    Text.filled [t] = [u] ↔ t = some u ∧ u ≠ [] := by
  rcases t with _ | _ | ⟨c, t⟩
  · exact iff_of_false (by simp [Text.filled]) fun h => by cases h.1
  · exact iff_of_false (by simp [Text.filled]) fun h => h.2 (Option.some.inj h.1).symm
  · constructor
    · intro h
      obtain ⟨rfl, -⟩ := List.cons.inj h
      exact ⟨rfl, List.cons_ne_nil c t⟩
    · rintro ⟨h, -⟩
      cases h
      rfl

/-- Either a signer's certificate is the one that is asked for the subject, or nobody is known. -/
theorem filled_singleton_cases (t : Option Text) :
    (∃ u, t = some u ∧ Text.filled [t] = [u]) ∨
      Text.filled [t] = [] ∧ subjectName t = .ok .unknown := by
  rcases t with _ | _ | ⟨c, u⟩
  · exact Or.inr ⟨rfl, rfl⟩
  · exact Or.inr ⟨rfl, rfl⟩
  · exact Or.inl ⟨c :: u, rfl, rfl⟩

/-! ### Entries -/

/-- The time stamps whose certificates a format shows: the first one beside a time mark, none in a
digidoc container, and elsewhere all. -/
def Format.shownTimestamps : Format → SignatureFacts → List TimestampFacts
  | .timemark, s => s.timestamps.head?.toList
  | .digidoc, _ => []
  | .generic, s => s.timestamps
  | .detached, s => s.timestamps

theorem Format.reportedTimestamps_eq (format : Format) (s : SignatureFacts) :
    format.reportedTimestamps s = format.shownTimestamps s := by
  cases format with
  | timemark => exact List.take_one
  | digidoc | generic | detached => rfl

namespace SignatureEntry

/-- An entry lists the certificates of a signature: those of each role are shown one by one, and
the roles follow each other. -/
structure Lists (format : Format) (s : SignatureFacts) (e : SignatureEntry) : Prop where
  signing : List.Forall₂ (CertificateEntry.Shows .signing)
    (Text.filled [s.signingCertificate]) (entriesOf .signing e.certificates)
  revocation : List.Forall₂ (CertificateEntry.Shows .revocation)
    (Text.filled (s.revocations.map (·.certificate))) (entriesOf .revocation e.certificates)
  signatureTimestamp : List.Forall₂ (CertificateEntry.Shows .signatureTimestamp)
    (Text.filled ((format.shownTimestamps s).map (·.certificate)))
    (entriesOf .signatureTimestamp e.certificates)
  inOrder : entriesOf .signing e.certificates ++ entriesOf .revocation e.certificates ++
    entriesOf .signatureTimestamp e.certificates = e.certificates

/-- An entry names the signer as its signing certificate and its subject do, and nobody where there
is no such certificate. -/
structure NamesSigner (s : SignatureFacts) (e : SignatureEntry) : Prop where
  subject : subjectName s.signingCertificate = .ok e.subject
  ofSubject : e.signedBy = e.subject.commonName.getD []
  ofCertificate : ∀ c ∈ entriesOf .signing e.certificates, e.signedBy = c.commonName
  ofNobody : Text.filled [s.signingCertificate] = [] →
    e.signedBy = [] ∧ e.subject = ⟨none, none, none, none⟩

end SignatureEntry

namespace Assembly

variable {a : Assembly} {s : SignatureFacts} {e : SignatureEntry}

theorem Attests.lists (h : a.Attests s e) : e.Lists a.format s := by
  obtain ⟨hsigning, hrevocation, htimestamp, horder⟩ := entriesOf_certificates h.certificates
  unfold Format.timestampEntries at htimestamp
  rw [Format.reportedTimestamps_eq] at htimestamp
  exact ⟨shows_of_certificateEntries hsigning, shows_of_certificateEntries hrevocation,
    shows_of_certificateEntries htimestamp, horder⟩

/-- There is one entry for the signer exactly if the signature holds a certificate of its own. -/
theorem Attests.exists_signing_iff (h : a.Attests s e) :
    (∃ c, entriesOf .signing e.certificates = [c]) ↔
      ∃ t, s.signingCertificate = some t ∧ t ≠ [] := by
  have hsigning := h.lists.signing
  constructor
  · rintro ⟨c, hc⟩
    rw [hc] at hsigning
    obtain ⟨t, rest, -, hrest, hfilled⟩ := List.forall₂_cons_right_iff.mp hsigning
    rw [List.forall₂_nil_right_iff.mp hrest] at hfilled
    exact ⟨t, filled_singleton_eq_iff.mp hfilled⟩
  · rintro ⟨t, ht⟩
    rw [filled_singleton_eq_iff.mpr ht] at hsigning
    obtain ⟨c, rest, -, hrest, hentries⟩ := List.forall₂_cons_left_iff.mp hsigning
    rw [List.forall₂_nil_left_iff.mp hrest] at hentries
    exact ⟨c, hentries⟩

theorem Attests.namesSigner (h : a.Attests s e) : e.NamesSigner s := by
  have hsigning := h.lists.signing
  have hsubject := h.subject
  constructor
  case subject => exact hsubject
  case ofSubject => exact h.signedBy
  case ofCertificate =>
    intro c hc
    rcases filled_singleton_cases s.signingCertificate with ⟨t, ht, hfilled⟩ | ⟨hfilled, -⟩
    · -- One text is read for the entry and for the subject, and both readings agree on it.
      rw [hfilled] at hsigning
      obtain ⟨c', rest, hshows, hrest, hentries⟩ := List.forall₂_cons_left_iff.mp hsigning
      rw [hentries, List.forall₂_nil_left_iff.mp hrest] at hc
      rw [List.mem_singleton.mp hc, h.signedBy]
      rw [ht] at hsubject
      exact (commonName_eq_of_subjectName hshows.named hsubject).symm
    · rw [hfilled] at hsigning
      rw [List.forall₂_nil_left_iff.mp hsigning] at hc
      cases hc
  case ofNobody =>
    intro hnone
    rcases filled_singleton_cases s.signingCertificate with ⟨t, -, hfilled⟩ | ⟨-, hunknown⟩
    · rw [hfilled] at hnone
      cases hnone
    · have hsame : e.subject = .unknown := Except.ok.inj (hsubject.symm.trans hunknown)
      rw [h.signedBy, hsame]
      exact ⟨rfl, rfl⟩

/-- **An entry lists the certificates of its signature in order, and names its signer.**  It has a
signing certificate exactly if the signature has one that is not empty. -/
theorem lists_of_entry (h : a.entry s = .ok e) :
    e.Lists a.format s ∧
      ((∃ c, entriesOf .signing e.certificates = [c]) ↔
        ∃ t, s.signingCertificate = some t ∧ t ≠ []) ∧
      e.NamesSigner s := by
  have hattests := attests_of_entry h
  exact ⟨hattests.lists, hattests.exists_signing_iff, hattests.namesSigner⟩

end Assembly

/-- A signature that holds certificates with a name, without one and of no text at all, in each of
the places. -/
def SignatureFacts.certified : SignatureFacts :=
  { SignatureFacts.ofWord "S0" "TOTAL_PASSED" with
    signingCertificate := some namedCertificate
    revocations := [⟨some [], none, none⟩, ⟨some " A=B ", none, none⟩, ⟨none, none, none⟩,
      ⟨some namedCertificate, none, none⟩]
    timestamps := [⟨some "AQIDBA==", none, none⟩, ⟨some [], none, none⟩,
      ⟨some "AQ==", none, none⟩] }

/-- A container whose one signature is certified. -/
def Assembly.certified (format : Format) : Assembly :=
  .ofParts format (.ofSignatures "" [.certified] []) ⟨"doc", [], none, []⟩ adesPolicy false []

/-- Beside a time mark one time stamp is shown, and elsewhere both that have a certificate. -/
theorem lists_of_entry_certified :
    ∃ e e', (Assembly.certified .timemark).entry .certified = .ok e ∧
      (Assembly.certified .generic).entry .certified = .ok e' ∧
      e.Lists .timemark .certified ∧ e'.Lists .generic .certified ∧
      e.NamesSigner .certified ∧ e.signedBy = "i" ∧
      e.certificates.map (·.commonName) = ["i", "", "i", ""] ∧
      e'.certificates.map (·.content) =
        [namedCertificate, "A=B", namedCertificate, "AQIDBA==", "AQ=="] := by
  have hnames : ((Assembly.certified .timemark).entry .certified).map
      (fun e => (e.signedBy, e.certificates.map (·.commonName))) =
        .ok ("i", ["i", "", "i", ""]) := by
    decide +kernel
  have hcontents : ((Assembly.certified .generic).entry .certified).map
      (fun e => e.certificates.map (·.content)) =
        .ok [namedCertificate, "A=B", namedCertificate, "AQIDBA==", "AQ=="] := by
    decide +kernel
  obtain ⟨e, he, hnames⟩ := map_eq_ok_iff.mp hnames
  obtain ⟨e', he', hcontents⟩ := map_eq_ok_iff.mp hcontents
  obtain ⟨hlists, -, hsigner⟩ := Assembly.lists_of_entry he
  obtain ⟨hlists', -, -⟩ := Assembly.lists_of_entry he'
  obtain ⟨hsigned, hnames⟩ := Prod.mk.inj hnames
  exact ⟨e, e', he, he', hlists, hlists', hsigner, hsigned, hnames, hcontents⟩

end ValidationReport
