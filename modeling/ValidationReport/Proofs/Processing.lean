import Mathlib.Data.List.Nodup
import ValidationReport.Proofs.Assembly

/-!
# What stops the processing of a signature

Most damage to evidence counts as absence and leaves the rest of an entry alone.
Here it is told, in terms of the facts alone, what goes further: which times,
which certificates and which answers stop the processing of their signature, and
that nothing else does.

Reading is strict in its order.  An attribute stops a certificate only if every
attribute before it could be read, for otherwise the name is unreadable and the
certificate merely has no subject.

## Main definitions

* `X509.Stops` — octets that stop the processing when read as a certificate.
* `Format.ConsultsNonce` — when the nonce of an answer is asked for.
* `Obstructed` — the obstacles to an entry.

## Main results

* `X509.stops_iff` — reading a certificate is fatal for those octets.
* `fails_nonce_iff` — asking for a nonce is fatal if an extension is repeated.
* `Assembly.fails_certificates_iff`, `Assembly.fails_info_iff` — the parts of an
  entry.
* `fails_entry_iff` — **an entry cannot be made exactly when its signature is
  obstructed.**
-/

namespace ValidationReport

/-! ### Certificates -/

namespace X509

open Der

/-- A string of bits where text belongs. -/
def Attribute.IsStray (a : Attribute) : Prop :=
  a.value.tag = Tag.bitString ∧ a.oid ≠ Oid.uniqueIdentifier

/-- A set of attributes with a stray string of bits, before which every attribute can be read. -/
def StrayIn (set : List Attribute) : Prop :=
  ∃ before a after, set = before ++ a :: after ∧ (∀ b ∈ before, ∃ v, b.read = .ok v) ∧ a.IsStray

/-- Octets that stop the processing when they are read as a certificate. -/
inductive Stops (der : Bytes) : Prop where
  /-- The certificate is well formed, and of another version than 1 and 3. -/
  | version (c : Certificate) (hread : (single? der).bind Certificate.read? = some c)
      (hfirst : c.version ≠ 0) (hthird : c.version ≠ 2)
  /-- The subject has a stray string of bits, before which every set can be read. -/
  | subject (c : Certificate) (hread : Certificate.ofDer der = .ok c)
      (before : List (List Attribute)) (set : List Attribute) (after : List (List Attribute))
      (hsplit : c.subject = before ++ set :: after)
      (hbefore : ∀ b ∈ before, ∃ values, readAttributes b = .ok values) (hset : StrayIn set)

theorem read_eq_fatal_iff (a : Attribute) (failure : Failure) :
    a.read = .error (.fatal failure) ↔ a.IsStray ∧ failure = .bitStringAttribute := by
  unfold Attribute.read Attribute.IsStray
  split
  · next htag =>
    split
    · next hoid => simp [hoid]
    · next hoid => simp [htag, hoid, eq_comm]
  · next htag =>
    refine iff_of_false ?_ fun h => htag h.1.1
    split
    · exact readable_ne_fatal _ failure
    · split
      · exact readable_ne_fatal _ failure
      · split
        · exact readable_ne_fatal _ failure
        · simp

/-- Of a set only a stray string of bits is fatal: an empty set and a repeated attribute make the
name unreadable. -/
theorem readAttributes_eq_fatal_iff (set : List Attribute) (failure : Failure) :
    readAttributes set = .error (.fatal failure) ↔
      StrayIn set ∧ failure = .bitStringAttribute := by
  have hpair : ∀ a : Attribute, (a.read.map fun v => (a.oid, v)) = .error (.fatal failure) ↔
      a.IsStray ∧ failure = .bitStringAttribute := by
    intro a
    rw [← read_eq_fatal_iff]
    cases a.read <;> simp [Except.map]
  have hok : ∀ a : Attribute, (∃ w, (a.read.map fun v => (a.oid, v)) = .ok w) ↔
      ∃ v, a.read = .ok v := by
    intro a
    cases a.read <;> simp [Except.map]
  unfold readAttributes StrayIn
  rw [bind_eq_error_iff, mapM_eq_error_iff]
  simp only [hpair, hok]
  constructor
  · rintro (⟨before, a, after, hsplit, hbefore, hstray, hfailure⟩ | ⟨values, -, hrest⟩)
    · exact ⟨⟨before, a, after, hsplit, hbefore, hstray⟩, hfailure⟩
    · split at hrest <;> cases hrest
  · rintro ⟨⟨before, a, after, hsplit, hbefore, hstray⟩, hfailure⟩
    exact Or.inl ⟨before, a, after, hsplit, hbefore, hstray, hfailure⟩

theorem attributes_eq_fatal_iff (name : Name) (failure : Failure) :
    name.attributes = .error (.fatal failure) ↔
      (∃ before set after, name = before ++ set :: after ∧
        (∀ b ∈ before, ∃ values, readAttributes b = .ok values) ∧ StrayIn set) ∧
      failure = .bitStringAttribute := by
  unfold Name.attributes
  rw [bind_eq_error_iff, mapM_eq_error_iff]
  simp only [readAttributes_eq_fatal_iff]
  constructor
  · rintro (⟨before, set, after, hsplit, hbefore, hset, hfailure⟩ | ⟨values, -, hrest⟩)
    · exact ⟨⟨before, set, after, hsplit, hbefore, hset⟩, hfailure⟩
    · cases hrest
  · rintro ⟨⟨before, set, after, hsplit, hbefore, hset⟩, hfailure⟩
    exact Or.inl ⟨before, set, after, hsplit, hbefore, hset, hfailure⟩

theorem ofDer_eq_fatal_iff (der : Bytes) (failure : Failure) :
    Certificate.ofDer der = .error (.fatal failure) ↔
      (∃ c, (single? der).bind Certificate.read? = some c ∧ c.version ≠ 0 ∧ c.version ≠ 2) ∧
        failure = .unsupportedVersion := by
  unfold Certificate.ofDer
  split
  · next hnone => simp [hnone]
  · next c hsome =>
    rw [hsome]
    split
    · next hversion =>
      refine iff_of_false (by simp) ?_
      rintro ⟨⟨c', hc', hfirst, hthird⟩, -⟩
      rw [← Option.some.inj hc'] at hfirst hthird
      exact hversion.elim hfirst hthird
    · next hversion =>
      rw [not_or] at hversion
      simp [hversion, eq_comm]

/-- **Reading the subject of a certificate is fatal exactly for the octets that stop.** -/
theorem stops_iff (der : Bytes) :
    Stops der ↔ ∃ failure, subjectAttributes der = .error (.fatal failure) := by
  unfold subjectAttributes
  simp only [bind_eq_error_iff, ofDer_eq_fatal_iff, attributes_eq_fatal_iff]
  constructor
  · intro h
    cases h with
    | version c hread hfirst hthird =>
      exact ⟨.unsupportedVersion, Or.inl ⟨⟨c, hread, hfirst, hthird⟩, rfl⟩⟩
    | subject c hread before set after hsplit hbefore hset =>
      exact ⟨.bitStringAttribute,
        Or.inr ⟨c, hread, ⟨before, set, after, hsplit, hbefore, hset⟩, rfl⟩⟩
  · rintro ⟨failure, ⟨⟨c, hread, hfirst, hthird⟩, -⟩ |
      ⟨c, hread, ⟨before, set, after, hsplit, hbefore, hset⟩, -⟩⟩
    · exact .version c hread hfirst hthird
    · exact .subject c hread before set after hsplit hbefore hset

end X509

/-- A text that is not empty and carries the octets of a certificate that stops the processing. -/
def StopsIn (t : Text) : Prop :=
  t ≠ [] ∧ ∃ der, certificateOctets? t = some der ∧ X509.Stops der

/-- The subject in a text is fatal to read only when the text carries octets that stop. -/
theorem subjectOf_eq_fatal_iff (t : Text) :
    (∃ failure, subjectOf t = .error (.fatal failure)) ↔
      ∃ der, certificateOctets? t = some der ∧ X509.Stops der := by
  unfold subjectOf
  simp only [bind_eq_error_iff, X509.stops_iff]
  cases certificateOctets? t with
  | none => simp [Flaw.readable]
  | some der => simp [Flaw.readable]

theorem fails_commonName_iff {t : Text} (h : t ≠ []) : Fails (commonName t) ↔ StopsIn t := by
  unfold commonName StopsIn
  rw [fails_tolerate_iff]
  simp only [map_eq_error_iff]
  rw [subjectOf_eq_fatal_iff, and_iff_right h]

theorem fails_subjectName_iff (certificate : Option Text) :
    Fails (subjectName certificate) ↔ ∃ t, certificate = some t ∧ StopsIn t := by
  unfold subjectName
  cases certificate with
  | none => simp
  | some t =>
    rw [Option.bind_some]
    by_cases hempty : t = []
    · subst hempty
      simp [Text.nonempty?, StopsIn]
    · rw [Text.nonempty?_eq_some_iff.mpr ⟨rfl, hempty⟩]
      simp only [fails_tolerate_iff, map_eq_error_iff]
      rw [subjectOf_eq_fatal_iff]
      simp [StopsIn, hempty]

theorem fails_certificateEntries_iff (role : CertificateRole) (texts : List (Option Text)) :
    Fails (certificateEntries role texts) ↔ ∃ t, some t ∈ texts ∧ StopsIn t := by
  have hentry : ∀ t, Fails (certificateEntry role t) ↔ Fails (commonName t) := by
    intro t
    unfold certificateEntry
    rw [fails_bind_iff]
    simp [pure, Except.pure]
  unfold certificateEntries presentTexts
  rw [fails_mapM_iff]
  simp only [hentry, List.mem_filterMap]
  constructor
  · rintro ⟨t, ⟨text, htext, hpresent⟩, hfails⟩
    obtain ⟨u, rfl, hu⟩ := Option.bind_eq_some_iff.mp hpresent
    obtain ⟨rfl, hne⟩ := Text.nonempty?_eq_some_iff.mp hu
    exact ⟨u, htext, (fails_commonName_iff hne).mp hfails⟩
  · rintro ⟨t, ht, hstops⟩
    refine ⟨t, ⟨some t, ht, ?_⟩, (fails_commonName_iff hstops.1).mpr hstops⟩
    exact Text.nonempty?_eq_some_iff.mpr ⟨rfl, hstops.1⟩

/-! ### Answers of responders -/

theorem X509.allDistinct_iff {α : Type} [DecidableEq α] (l : List α) :
    X509.allDistinct l = true ↔ l.Nodup := by
  induction l with
  | nil => simp [X509.allDistinct]
  | cons a l ih =>
    unfold X509.allDistinct
    rw [Bool.and_eq_true, ih, List.nodup_cons]
    simp

/-- Asking an answer for its nonce is fatal if an extension is repeated, a nonce or not. -/
theorem fails_nonce_iff (response : X509.StatusResponse) :
    Fails response.nonce ↔ ¬ (response.extensions.map (·.oid)).Nodup := by
  unfold X509.StatusResponse.nonce
  rw [← X509.allDistinct_iff]
  split
  · next h => simp [h]
  · next h => simp [h]

theorem fails_nonceImprint_iff (r : Option RevocationFacts) :
    Fails (nonceImprint r) ↔ ∃ revocation response, r = some revocation ∧
      statusResponse? revocation = some response ∧
      ¬ (response.extensions.map (·.oid)).Nodup := by
  unfold nonceImprint
  split
  · next hnone =>
    refine iff_of_false (not_fails_ok _) ?_
    rintro ⟨revocation, response, rfl, hresponse, -⟩
    rw [Option.bind_some, hresponse] at hnone
    cases hnone
  · next response hsome =>
    obtain ⟨revocation, rfl, hresponse⟩ := Option.bind_eq_some_iff.mp hsome
    rw [fails_bind_iff, fails_nonce_iff]
    simp [hresponse, pure, Except.pure]

/-! ### Times -/

theorem fails_utcText?_iff (m : Option Moment) :
    Fails (Moment.utcText? m) ↔ ∃ m', m = some m' ∧ ¬ m'.InRange := by
  cases m with
  | none => simp [Moment.utcText?]
  | some m =>
    have hutc : ¬ Fails m.utc ↔ m.InRange := by rw [not_fails_iff, m.exists_utc_iff]
    simp only [Moment.utcText?, Moment.utcText, fails_map_iff, Option.some.injEq, exists_eq_left']
    rw [← hutc, not_not]

/-- The time at which an answer was produced is missing in the year 0, and in UTC elsewhere. -/
theorem producedAt_cases (response : X509.StatusResponse) :
    (response.producedAt.year = 0 ∧ Fails (producedAt response)) ∨
      (response.producedAt.year ≠ 0 ∧ ∃ m, producedAt response = .ok m ∧ m.InRange) := by
  unfold producedAt Moment.of?
  by_cases hyear : 1 ≤ response.producedAt.year
  · rw [dif_pos hyear, dif_pos (by decide)]
    exact Or.inr ⟨by omega, _, rfl, Moment.inRange_of_offset_eq_zero rfl⟩
  · rw [dif_neg hyear]
    exact Or.inl ⟨by omega, fails_error _⟩

/-- Revocation data has no time in UTC if the engine's time is out of range, or if the engine gives
none and the answer was produced in the year 0. -/
theorem fails_revocationTime_iff (r : Option RevocationFacts) :
    Fails (revocationTime r >>= Moment.utcText?) ↔ ∃ revocation, r = some revocation ∧
      ((∃ m, revocation.creationTime = some m ∧ ¬ m.InRange) ∨
        revocation.creationTime = none ∧ ∃ response, statusResponse? revocation = some response ∧
          response.producedAt.year = 0) := by
  cases r with
  | none => simp [revocationTime, bind, Except.bind, Moment.utcText?]
  | some revocation =>
    rw [fails_bind_iff]
    simp only [revocationTime, Option.some.injEq, exists_eq_left']
    cases htime : revocation.creationTime with
    | some m => simp [fails_utcText?_iff]
    | none =>
      cases hresponse : statusResponse? revocation with
      | none => simp [fails_utcText?_iff]
      | some response =>
        rcases producedAt_cases response with ⟨hyear, hfails⟩ | ⟨hyear, m, hm, hrange⟩
        · simp [hyear, hfails]
        · simp [hyear, hm, Except.map, fails_utcText?_iff, hrange]

/-! ### Obstacles -/

/-- The nonce of an answer is asked for: with time marks by the profile, in a digidoc container
always, elsewhere where there is no time stamp. -/
def Format.ConsultsNonce : Format → SignatureFacts → Prop
  | .timemark, s => (s.profile.getD []).upper.endsWith "TM" = true
  | .digidoc, _ => True
  | _, s => s.timestamps = []

/-- The certificates that a report on a signature shows, absent or not. -/
def Format.reportedCertificates (format : Format) (s : SignatureFacts) : List (Option Text) :=
  s.signingCertificate :: s.revocations.map (·.certificate) ++
    (format.reportedTimestamps s).map (·.certificate)

/-- The times that a report on a signature shows, absent or not.  Of time stamps and revocation
data only the first counts. -/
def SignatureFacts.reportedTimes (s : SignatureFacts) : List (Option Moment) :=
  [s.claimedSigningTime, s.bestSignatureTime, s.firstTimestamp.bind (·.creationTime),
    s.firstRevocation.bind (·.creationTime)]

/-- The obstacles to an entry. -/
inductive Obstructed (format : Format) (s : SignatureFacts) : Prop where
  /-- A time leaves the years 1 to 9999 when it is moved to UTC. -/
  | time (m : Moment) (hm : some m ∈ s.reportedTimes) (hrange : ¬ m.InRange)
  /-- A certificate stops the processing. -/
  | certificate (t : Text) (ht : some t ∈ format.reportedCertificates s) (hstops : StopsIn t)
  /-- The engine gives no time for the revocation data, and the answer was produced in the
  year 0. -/
  | producedAt (r : RevocationFacts) (response : X509.StatusResponse)
      (hr : s.firstRevocation = some r) (htime : r.creationTime = none)
      (hresponse : statusResponse? r = some response) (hyear : response.producedAt.year = 0)
  /-- The nonce of an answer is asked for, and the answer repeats an extension. -/
  | extension (r : RevocationFacts) (response : X509.StatusResponse)
      (hasked : format.ConsultsNonce s) (hr : s.firstRevocation = some r)
      (hresponse : statusResponse? r = some response)
      (hrepeated : ¬ (response.extensions.map (·.oid)).Nodup)

theorem fails_imprint_iff (format : Format) (s : SignatureFacts) :
    Fails (format.imprint s) ↔ format.ConsultsNonce s ∧ Fails (nonceImprint s.firstRevocation) := by
  cases format with
  | timemark =>
    simp only [Format.imprint, Format.ConsultsNonce]
    split
    · next hprofile => simp [hprofile]
    · next hprofile => simp [hprofile]
  | digidoc => simp [Format.imprint, Format.ConsultsNonce]
  | generic | detached =>
    simp only [Format.imprint, Format.ConsultsNonce, SignatureFacts.firstTimestamp]
    cases s.timestamps <;> simp

namespace Assembly

theorem fails_classifyCertificates_iff (signing : Option Text) (revocations : List (Option Text))
    (timestamp : Option Text) :
    Fails (classifyCertificates signing revocations timestamp) ↔
      ∃ t, some t ∈ signing :: revocations ++ [timestamp] ∧ StopsIn t := by
  unfold classifyCertificates
  rw [fails_bind_of_forall_iff fun _ => fails_bind_of_forall_iff fun _ => fails_bind_pure_iff]
  simp only [fails_certificateEntries_iff, ← exists_or, ← or_and_right, List.mem_append,
    List.mem_cons, List.not_mem_nil, or_false, or_assoc]

/-- The certificates of an entry fail exactly if one of those that are shown stops the
processing. -/
theorem fails_certificates_iff (a : Assembly) (s : SignatureFacts) :
    Fails (a.certificates s) ↔ ∃ t, some t ∈ a.format.reportedCertificates s ∧ StopsIn t := by
  unfold certificates Format.timestampEntries Format.reportedCertificates
  rw [fails_bind_of_forall_iff fun _ => fails_bind_pure_iff]
  simp only [fails_classifyCertificates_iff, fails_certificateEntries_iff, ← exists_or,
    ← or_and_right, List.mem_append, List.mem_cons, List.not_mem_nil, or_false, reduceCtorEq]

/-- The evidence of time in an entry fails if a time is out of range or an answer is. -/
theorem fails_info_iff (a : Assembly) (s : SignatureFacts) :
    Fails (a.info s) ↔ Fails (Moment.utcText? s.bestSignatureTime) ∨
      Fails (revocationTime s.firstRevocation >>= Moment.utcText?) ∨
      Fails (Moment.utcText? (s.firstTimestamp.bind (·.creationTime))) ∨
      Fails (a.format.imprint s) := by
  unfold info
  rw [fails_bind_of_forall_iff fun _ => fails_bind_bind_of_forall_iff fun _ =>
    fails_bind_of_forall_iff fun _ => fails_bind_pure_iff]

theorem fails_entry_iff_parts (a : Assembly) (s : SignatureFacts) :
    Fails (a.entry s) ↔ Fails (a.certificates s) ∨ Fails (subjectName s.signingCertificate) ∨
      Fails (Moment.utcText? s.claimedSigningTime) ∨ Fails (a.info s) := by
  unfold entry
  rw [fails_bind_of_forall_iff fun _ => fails_bind_of_forall_iff fun _ =>
    fails_bind_of_forall_iff fun _ => fails_bind_pure_iff]

end Assembly

/-- **An entry cannot be made exactly when its signature is obstructed.**  Whatever else is wrong
with the evidence, from damaged base64 to an unsuccessful answer, leaves the entry possible. -/
theorem fails_entry_iff (a : Assembly) (s : SignatureFacts) :
    Fails (a.entry s) ↔ Obstructed a.format s := by
  rw [a.fails_entry_iff_parts, a.fails_certificates_iff, fails_subjectName_iff, fails_utcText?_iff,
    a.fails_info_iff, fails_utcText?_iff, fails_revocationTime_iff, fails_utcText?_iff,
    fails_imprint_iff, fails_nonceImprint_iff]
  constructor
  · rintro (⟨t, ht, hstops⟩ | ⟨t, ht, hstops⟩ | ⟨m, hm, hrange⟩ | ⟨m, hm, hrange⟩ |
      ⟨r, hr, ⟨m, hm, hrange⟩ | ⟨htime, response, hresponse, hyear⟩⟩ | ⟨m, hm, hrange⟩ |
      ⟨hasked, r, response, hr, hresponse, hrepeated⟩)
    · exact .certificate t ht hstops
    · exact .certificate t (by simp [Format.reportedCertificates, ht]) hstops
    · exact .time m (by simp [SignatureFacts.reportedTimes, hm]) hrange
    · exact .time m (by simp [SignatureFacts.reportedTimes, hm]) hrange
    · exact .time m (by simp [SignatureFacts.reportedTimes, hr, hm]) hrange
    · exact .producedAt r response hr htime hresponse hyear
    · exact .time m (by simp [SignatureFacts.reportedTimes, hm]) hrange
    · exact .extension r response hasked hr hresponse hrepeated
  · intro h
    cases h with
    | time m hm hrange =>
      simp only [SignatureFacts.reportedTimes, List.mem_cons, List.not_mem_nil, or_false] at hm
      rcases hm with hm | hm | hm | hm
      · exact Or.inr (Or.inr (Or.inl ⟨m, hm.symm, hrange⟩))
      · exact Or.inr (Or.inr (Or.inr (Or.inl ⟨m, hm.symm, hrange⟩)))
      · exact Or.inr (Or.inr (Or.inr (Or.inr (Or.inr (Or.inl ⟨m, hm.symm, hrange⟩)))))
      · obtain ⟨r, hr, htime⟩ := Option.bind_eq_some_iff.mp hm.symm
        exact Or.inr (Or.inr (Or.inr (Or.inr (Or.inl ⟨r, hr, Or.inl ⟨m, htime, hrange⟩⟩))))
    | certificate t ht hstops => exact Or.inl ⟨t, ht, hstops⟩
    | producedAt r response hr htime hresponse hyear =>
      exact Or.inr (Or.inr (Or.inr (Or.inr (Or.inl
        ⟨r, hr, Or.inr ⟨htime, response, hresponse, hyear⟩⟩))))
    | extension r response hasked hr hresponse hrepeated =>
      exact Or.inr (Or.inr (Or.inr (Or.inr (Or.inr (Or.inr
        ⟨hasked, r, response, hr, hresponse, hrepeated⟩)))))

example : Obstructed .generic (.untimely "S1") :=
  .time Moment.firstMidnight (by decide) (by decide)

end ValidationReport
