import ValidationReport.Proofs.Listing

/-!
# The first evidence

A signature may bring revocation data and time stamps in any number.  For its times and
the imprint of its evidence only the first of each list is asked, by four formats in
four ways, and for its verdict none is.  The others do not go unnoticed: their
certificates are shown.  Two signatures that begin their lists alike have the same entry
but for these certificates.

More evidence never takes a certificate away.  It adds some for the responders and,
where the format shows them, for the time stamps.

## Main definitions

* `SignatureFacts.SameFirst` — two signatures differ only in evidence after the first.
* `SignatureFacts.SpreadTo` — the evidence of one is among that of the other, in order.
* `SignatureEntry.SameButCertificates` — two entries differ only in certificates.
* `SignatureEntry.GainsEvidence` — one entry has the certificates of another one, and
  more for evidence.

## Main results

* `Assembly.info_withEvidence` — the first evidence makes up all that is said of times.
* `Assembly.entries_of_sameFirst` — **only the first evidence speaks, and more of it
  only adds certificates.**
-/

namespace ValidationReport

/-! ### Signatures that begin alike -/

/-- The signature with other revocation data and time stamps. -/
def SignatureFacts.withEvidence (s : SignatureFacts) (revocations : List RevocationFacts)
    (timestamps : List TimestampFacts) : SignatureFacts :=
  { s with revocations := revocations, timestamps := timestamps }

/-- Two signatures differ only in the revocation data after the first and in the time stamps after
the first. -/
structure SignatureFacts.SameFirst (s s' : SignatureFacts) : Prop where
  rest : s' = s.withEvidence s'.revocations s'.timestamps
  revocation : s'.revocations.head? = s.revocations.head?
  timestamp : s'.timestamps.head? = s.timestamps.head?

/-- The evidence of a signature is among that of another one, in the same order. -/
structure SignatureFacts.SpreadTo (s s' : SignatureFacts) : Prop where
  revocations : s.revocations.Sublist s'.revocations
  timestamps : s.timestamps.Sublist s'.timestamps

/-- Two entries differ at most in certificates. -/
def SignatureEntry.SameButCertificates (e e' : SignatureEntry) : Prop :=
  { e' with certificates := e.certificates } = e

/-! ### Times -/

section

variable {s : SignatureFacts} {revocations : List RevocationFacts}
  {timestamps : List TimestampFacts}

theorem SignatureFacts.firstRevocation_withEvidence
    (h : revocations.head? = s.revocations.head?) :
    (s.withEvidence revocations timestamps).firstRevocation = s.firstRevocation := h

theorem SignatureFacts.firstTimestamp_withEvidence (h : timestamps.head? = s.timestamps.head?) :
    (s.withEvidence revocations timestamps).firstTimestamp = s.firstTimestamp := h

/-- Whichever evidence a format asks for the imprint, it asks the first. -/
theorem Format.imprint_withEvidence (format : Format)
    (hrevocation : revocations.head? = s.revocations.head?)
    (htimestamp : timestamps.head? = s.timestamps.head?) :
    format.imprint (s.withEvidence revocations timestamps) = format.imprint s := by
  unfold imprint
  rw [SignatureFacts.firstRevocation_withEvidence hrevocation,
    SignatureFacts.firstTimestamp_withEvidence htimestamp]
  rfl

/-- The first evidence makes up all that is said of times. -/
theorem Assembly.info_withEvidence (a : Assembly)
    (hrevocation : revocations.head? = s.revocations.head?)
    (htimestamp : timestamps.head? = s.timestamps.head?) :
    a.info (s.withEvidence revocations timestamps) = a.info s := by
  unfold info
  rw [SignatureFacts.firstRevocation_withEvidence hrevocation,
    SignatureFacts.firstTimestamp_withEvidence htimestamp,
    a.format.imprint_withEvidence hrevocation htimestamp]
  rfl

end

namespace Assembly

variable {a : Assembly} {s s' : SignatureFacts} {e e' : SignatureEntry}

/-- What no evidence has a say in is not about the evidence of a signature. -/
theorem Describes.of_withEvidence {revocations : List RevocationFacts}
    {timestamps : List TimestampFacts} (h : a.Describes (s.withEvidence revocations timestamps) e) :
    a.Describes s e where
  id := h.id
  signatureFormat := h.signatureFormat
  signatureMethod := h.signatureMethod
  signatureLevel := h.signatureLevel
  indication := h.indication
  subIndication := h.subIndication
  warnings := h.warnings
  errors := h.errors
  scopes := h.scopes

/-- Entries of signatures that begin alike differ only in certificates. -/
theorem sameButCertificates_of_entry (h : s.SameFirst s') (he : a.entry s = .ok e)
    (he' : a.entry s' = .ok e') : e.SameButCertificates e' := by
  rw [h.rest] at he'
  have hdescribes := describes_of_entry he
  have hdescribes' := (describes_of_entry he').of_withEvidence
  have hattests := attests_of_entry he
  have hattests' := attests_of_entry he'
  have hinfo : e'.info = e.info := by
    have hsame := hattests'.info
    rw [a.info_withEvidence h.revocation h.timestamp] at hsame
    exact Except.ok.inj (hsame.symm.trans hattests.info)
  have hsubject : e'.subject = e.subject :=
    Except.ok.inj (hattests'.subject.symm.trans hattests.subject)
  have hclaimed : e'.claimedSigningTime = e.claimedSigningTime :=
    Except.ok.inj (hattests'.claimedSigningTime.symm.trans hattests.claimedSigningTime)
  have hsigned : e'.signedBy = e.signedBy := by
    rw [hattests'.signedBy, hattests.signedBy, hsubject]
  unfold SignatureEntry.SameButCertificates
  rw [hinfo, hsubject, hclaimed, hsigned, hdescribes'.id, hdescribes'.signatureFormat,
    hdescribes'.signatureMethod, hdescribes'.signatureLevel, hdescribes'.indication,
    hdescribes'.subIndication, hdescribes'.warnings, hdescribes'.errors, hdescribes'.scopes,
    ← hdescribes.id, ← hdescribes.signatureFormat, ← hdescribes.signatureMethod,
    ← hdescribes.signatureLevel, ← hdescribes.subIndication, ← hdescribes.indication,
    ← hdescribes.warnings, ← hdescribes.errors, ← hdescribes.scopes]

end Assembly

/-! ### Certificates -/

theorem certificateEntries_sublist {role : CertificateRole} {texts texts' : List (Option Text)}
    {entries entries' : List CertificateEntry} (h : texts.Sublist texts')
    (hentries : certificateEntries role texts = .ok entries)
    (hentries' : certificateEntries role texts' = .ok entries') : entries.Sublist entries' := by
  have hpresent : (presentTexts texts).Sublist (presentTexts texts') := h.filterMap _
  exact sublist_of_mapM hpresent hentries hentries'

namespace Format

variable {format : Format} {s s' : SignatureFacts}

/-- Beside a time mark there is room for one time stamp, and in a digidoc container for none. -/
theorem shownTimestamps_of_head? (hformat : format = .timemark ∨ format = .digidoc)
    (h : s'.timestamps.head? = s.timestamps.head?) :
    format.shownTimestamps s' = format.shownTimestamps s := by
  rcases hformat with rfl | rfl
  · exact congrArg Option.toList h
  · rfl

theorem shownTimestamps_sublist (hfirst : s'.timestamps.head? = s.timestamps.head?)
    (h : s.timestamps.Sublist s'.timestamps) :
    (format.shownTimestamps s).Sublist (format.shownTimestamps s') := by
  cases format with
  | timemark | digidoc => rw [shownTimestamps_of_head? (by decide) hfirst]
  | generic | detached => exact h

end Format

/-- The certificates of an entry are among those of another one, in the same order, and what was
added is for responders, or for time stamps where the format shows all of them. -/
structure SignatureEntry.GainsEvidence (format : Format) (e e' : SignatureEntry) : Prop where
  kept : e.certificates.Sublist e'.certificates
  signing : entriesOf .signing e'.certificates = entriesOf .signing e.certificates
  signatureTimestamp : format = .timemark ∨ format = .digidoc →
    entriesOf .signatureTimestamp e'.certificates = entriesOf .signatureTimestamp e.certificates

namespace Assembly

variable {a : Assembly} {s s' : SignatureFacts} {e e' : SignatureEntry}

/-- More evidence of signatures that begin alike only adds certificates. -/
theorem gainsEvidence_of_entry (h : s.SameFirst s') (hspread : s.SpreadTo s')
    (he : a.entry s = .ok e) (he' : a.entry s' = .ok e') : e.GainsEvidence a.format e' := by
  obtain ⟨hsigning, hrevocation, htimestamp, horder⟩ :=
    entriesOf_certificates (attests_of_entry he).certificates
  obtain ⟨hsigning', hrevocation', htimestamp', horder'⟩ :=
    entriesOf_certificates (attests_of_entry he').certificates
  have hsigner : s'.signingCertificate = s.signingCertificate := by
    rw [h.rest]
    rfl
  unfold Format.timestampEntries at htimestamp htimestamp'
  rw [Format.reportedTimestamps_eq] at htimestamp htimestamp'
  rw [hsigner] at hsigning'
  have hsame : entriesOf .signing e'.certificates = entriesOf .signing e.certificates :=
    Except.ok.inj (hsigning'.symm.trans hsigning)
  refine ⟨?_, hsame, ?_⟩
  · -- The roles follow each other in both entries, so each one is compared by itself.
    have hresponders : (entriesOf .revocation e.certificates).Sublist
        (entriesOf .revocation e'.certificates) :=
      certificateEntries_sublist (hspread.revocations.map _) hrevocation hrevocation'
    have hstamps : (entriesOf .signatureTimestamp e.certificates).Sublist
        (entriesOf .signatureTimestamp e'.certificates) :=
      certificateEntries_sublist
        ((Format.shownTimestamps_sublist h.timestamp hspread.timestamps).map _) htimestamp
        htimestamp'
    rw [← horder, ← horder', hsame]
    exact ((List.Sublist.refl _).append hresponders).append hstamps
  · intro hformat
    rw [Format.shownTimestamps_of_head? hformat h.timestamp] at htimestamp'
    exact Except.ok.inj (htimestamp'.symm.trans htimestamp)

/-- **Only the first evidence speaks, and more of it only adds certificates.**  The entries of two
signatures that begin their lists alike differ only in certificates, whatever follows; and what
follows takes none away. -/
theorem entries_of_sameFirst (h : s.SameFirst s') (he : a.entry s = .ok e)
    (he' : a.entry s' = .ok e') :
    e.SameButCertificates e' ∧ (s.SpreadTo s' → e.GainsEvidence a.format e') :=
  ⟨sameButCertificates_of_entry h he he', fun hspread => gainsEvidence_of_entry h hspread he he'⟩

end Assembly

/-- The certified signature with no more than the evidence that speaks. -/
def SignatureFacts.certifiedOnce : SignatureFacts :=
  SignatureFacts.certified.withEvidence (SignatureFacts.certified.revocations.take 1)
    (SignatureFacts.certified.timestamps.take 1)

/-- Beside a time mark more evidence adds the certificates of responders, and elsewhere that of a
time stamp as well. -/
theorem entries_of_sameFirst_certified :
    ∃ e₁ e₂ e₁' e₂',
      (Assembly.certified .timemark).entry .certifiedOnce = .ok e₁ ∧
      (Assembly.certified .timemark).entry .certified = .ok e₂ ∧
      (Assembly.certified .generic).entry .certifiedOnce = .ok e₁' ∧
      (Assembly.certified .generic).entry .certified = .ok e₂' ∧
      e₁.SameButCertificates e₂ ∧ e₁.GainsEvidence .timemark e₂ ∧
      e₁'.SameButCertificates e₂' ∧ e₁'.GainsEvidence .generic e₂' ∧
      e₁.certificates.length = 2 ∧ e₂.certificates.length = 4 ∧ e₂'.certificates.length = 5 := by
  have hfirst : SignatureFacts.certifiedOnce.SameFirst .certified := ⟨rfl, rfl, rfl⟩
  have hspread : SignatureFacts.certifiedOnce.SpreadTo .certified := by
    constructor
    · exact List.take_sublist 1 SignatureFacts.certified.revocations
    · exact List.take_sublist 1 SignatureFacts.certified.timestamps
  have hmade : ((Assembly.certified .timemark).entry .certifiedOnce).map
      (fun e => e.certificates.length) = .ok 2 := by
    decide +kernel
  have hmade' : ((Assembly.certified .timemark).entry .certified).map
      (fun e => e.certificates.length) = .ok 4 := by
    decide +kernel
  have hshown : ((Assembly.certified .generic).entry .certifiedOnce).map
      (fun e => e.certificates.length) = .ok 2 := by
    decide +kernel
  have hshown' : ((Assembly.certified .generic).entry .certified).map
      (fun e => e.certificates.length) = .ok 5 := by
    decide +kernel
  obtain ⟨e₁, he₁, hlength₁⟩ := map_eq_ok_iff.mp hmade
  obtain ⟨e₂, he₂, hlength₂⟩ := map_eq_ok_iff.mp hmade'
  obtain ⟨e₁', he₁', -⟩ := map_eq_ok_iff.mp hshown
  obtain ⟨e₂', he₂', hlength₂'⟩ := map_eq_ok_iff.mp hshown'
  obtain ⟨hsame, hgains⟩ := Assembly.entries_of_sameFirst hfirst he₁ he₂
  obtain ⟨hsame', hgains'⟩ := Assembly.entries_of_sameFirst hfirst he₁' he₂'
  exact ⟨e₁, e₂, e₁', e₂', he₁, he₂, he₁', he₂', hsame, hgains hspread, hsame', hgains' hspread,
    hlength₁, hlength₂, hlength₂'⟩

end ValidationReport
