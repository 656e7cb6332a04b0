import ValidationReport.Proofs.Processing

/-!
# Damaged evidence

A certificate that cannot be read has no name, and an answer that cannot be read
has no nonce and no time.  This is how damage is meant to be dealt with, and here
it is told for all of it what a report says instead.  Four flaws are not dealt
with in this way: a certificate of another version than 1 and 3, a string of bits
in its subject, an extension that an answer repeats, and an answer produced in the
year 0.  They stop the processing, and nothing else does.

## Main definitions

* `TellsSubject` — a text carries a certificate whose subject can be read.
* `AnsweredWith`, `StoppedWith` — what comes of asking about a certificate.
* `ReadAsCertificate` — the three cases of reading a text.
* `X509.RefusedIn` — octets in which a responder refuses to answer.
* `RevocationFacts.Silent` — the ways in which revocation data has no answer.
* `RepeatsExtension`, `LacksTime` — answers that stop the processing.

## Main results

* `stopsIn_iff_fatal`, `subjectOf_eq_ok_iff` — what reading the subject comes to.
* `RevocationFacts.silent_iff` — the ways are complete.
* `certificates_of_texts` — **every text is answered for as a certificate unless it
  stops the processing.**
* `evidence_of_answers` — **so is all revocation data.**
-/

namespace ValidationReport

/-! ### Certificates -/

/-- A text carries a certificate of version 1 or 3, and the attributes of its subject can be
read. -/
def TellsSubject (t : Text) (attributes : List X509.NamedValue) : Prop :=
  ∃ der certificate, certificateOctets? t = some der ∧
    X509.Certificate.ofDer der = .ok certificate ∧
    certificate.subject.attributes = .ok attributes

theorem subjectOf_eq_ok_iff (t : Text) (attributes : List X509.NamedValue) :
    subjectOf t = .ok attributes ↔ TellsSubject t attributes := by
  unfold subjectOf X509.subjectAttributes TellsSubject
  simp only [bind_eq_ok_iff, readable_eq_ok_iff, exists_and_left]

/-- No octets at all are no certificate. -/
theorem X509.not_stops_nil : ¬ X509.Stops [] := by
  rw [X509.stops_iff]
  rintro ⟨failure, h⟩
  cases h

/-- A text stops the processing if the octets that it carries do. -/
theorem stopsIn_iff (t : Text) :
    StopsIn t ↔ ∃ der, certificateOctets? t = some der ∧ X509.Stops der := by
  refine ⟨And.right, fun h => ⟨?_, h⟩⟩
  rintro rfl
  obtain ⟨der, hder, hstops⟩ := h
  cases hder
  exact X509.not_stops_nil hstops

/-- So asking for the subject in it is fatal. -/
theorem stopsIn_iff_fatal (t : Text) :
    StopsIn t ↔ ∃ failure, subjectOf t = .error (.fatal failure) :=
  (stopsIn_iff t).trans (subjectOf_eq_fatal_iff t).symm

/-- A text that is empty is read like any other one. -/
theorem subjectName_some (t : Text) :
    subjectName (some t) = Flaw.tolerate .unknown ((subjectOf t).map .ofAttributes) := by
  cases t <;> rfl

/-- Asking about a certificate is answered with a common name and a subject. -/
structure AnsweredWith (t name : Text) (subject : SubjectName) : Prop where
  named : commonName t = .ok name
  described : subjectName (some t) = .ok subject
  entered : ∀ role, certificateEntry role t = .ok ⟨normalizeCertificate t, name, role⟩

/-- Asking about a certificate stops the processing. -/
structure StoppedWith (t : Text) (failure : Failure) : Prop where
  named : commonName t = .error failure
  described : subjectName (some t) = .error failure
  entered : ∀ role, certificateEntry role t = .error failure

/-- A certificate can be entered once it has a name. -/
theorem AnsweredWith.of_commonName {t name : Text} {subject : SubjectName}
    (hname : commonName t = .ok name) (hsubject : subjectName (some t) = .ok subject) :
    AnsweredWith t name subject := by
  refine ⟨hname, hsubject, fun role => ?_⟩
  unfold certificateEntry
  rw [hname]
  rfl

/-- What is answered follows from the subject that is read. -/
theorem answeredWith_of_subjectOf {t : Text} {attributes : List X509.NamedValue}
    (h : subjectOf t = .ok attributes) :
    AnsweredWith t ((X509.firstText? X509.Oid.commonName attributes).getD [])
      (.ofAttributes attributes) := by
  apply AnsweredWith.of_commonName
  · unfold commonName
    rw [h]
    rfl
  · rw [subjectName_some, h]
    rfl

theorem answeredWith_of_unreadable {t : Text} (h : subjectOf t = .error .unreadable) :
    AnsweredWith t [] .unknown := by
  apply AnsweredWith.of_commonName
  · unfold commonName
    rw [h]
    rfl
  · rw [subjectName_some, h]
    rfl

theorem stoppedWith_of_fatal {t : Text} {failure : Failure}
    (h : subjectOf t = .error (.fatal failure)) : StoppedWith t failure := by
  have hname : commonName t = .error failure := by
    unfold commonName
    rw [h]
    rfl
  refine ⟨hname, ?_, fun role => ?_⟩
  · rw [subjectName_some, h]
    rfl
  · unfold certificateEntry
    rw [hname]
    rfl

theorem AnsweredWith.not_stoppedWith {t name : Text} {subject : SubjectName} {failure : Failure}
    (h : AnsweredWith t name subject) : ¬ StoppedWith t failure := by
  intro hstopped
  have hboth := h.named.symm.trans hstopped.named
  cases hboth

/-- The three things that reading a text as a certificate can come to. -/
inductive ReadAsCertificate (t : Text) : Prop
  /-- The subject is read. -/
  | read (attributes : List X509.NamedValue) (htells : TellsSubject t attributes)
      (hpasses : ¬ StopsIn t)
      (hanswered : AnsweredWith t ((X509.firstText? X509.Oid.commonName attributes).getD [])
        (.ofAttributes attributes))
  /-- There is no subject that could be read. -/
  | unread (hunread : ∀ attributes, ¬ TellsSubject t attributes) (hpasses : ¬ StopsIn t)
      (hanswered : AnsweredWith t [] .unknown)
  /-- The processing stops. -/
  | stopped (hstops : StopsIn t) (failure : Failure) (hstopped : StoppedWith t failure)

theorem readAsCertificate (t : Text) : ReadAsCertificate t := by
  cases hread : subjectOf t with
  | ok attributes =>
    have htells : TellsSubject t attributes := (subjectOf_eq_ok_iff t attributes).mp hread
    have hpasses : ¬ StopsIn t := by simp [stopsIn_iff_fatal, hread]
    exact .read attributes htells hpasses (answeredWith_of_subjectOf hread)
  | error flaw =>
    cases flaw with
    | unreadable =>
      have hunread : ∀ attributes, ¬ TellsSubject t attributes := by
        intro attributes htells
        rw [(subjectOf_eq_ok_iff t attributes).mpr htells] at hread
        cases hread
      have hpasses : ¬ StopsIn t := by simp [stopsIn_iff_fatal, hread]
      exact .unread hunread hpasses (answeredWith_of_unreadable hread)
    | fatal failure =>
      have hstops : StopsIn t := (stopsIn_iff_fatal t).mpr ⟨failure, hread⟩
      exact .stopped hstops failure (stoppedWith_of_fatal hread)

/-- **Every text is answered for as a certificate unless it stops the processing.**  A text that
carries no octets is reported without the blanks around it; a text that carries no certificate, or
one whose subject cannot be read, has no name and an unknown subject. -/
theorem certificates_of_texts (t : Text) :
    (certificateOctets? t = none →
      normalizeCertificate t = t.trim ∧ AnsweredWith t [] .unknown) ∧
    (∀ der, certificateOctets? t = some der → normalizeCertificate t = Base64.encode der) ∧
    (∀ attributes, TellsSubject t attributes →
      AnsweredWith t ((X509.firstText? X509.Oid.commonName attributes).getD [])
        (.ofAttributes attributes)) ∧
    (¬ StopsIn t → (∀ attributes, ¬ TellsSubject t attributes) → AnsweredWith t [] .unknown) ∧
    ((∃ name subject, AnsweredWith t name subject) ↔ ¬ StopsIn t) ∧
    ((∃ failure, StoppedWith t failure) ↔ StopsIn t) := by
  have hreading := readAsCertificate t
  refine ⟨fun hnone => ⟨?_, ?_⟩, fun der hder => ?_, fun attributes htells => ?_, ?_, ?_, ?_⟩
  · unfold normalizeCertificate
    rw [hnone]
  · apply answeredWith_of_unreadable
    unfold subjectOf
    rw [hnone]
    rfl
  · unfold normalizeCertificate
    rw [hder]
  · exact answeredWith_of_subjectOf ((subjectOf_eq_ok_iff t attributes).mpr htells)
  · intro hpasses hunread
    cases hreading with
    | read attributes htells => exact absurd htells (hunread attributes)
    | unread _ _ hanswered => exact hanswered
    | stopped hstops => exact absurd hstops hpasses
  · cases hreading with
    | read attributes _ hpasses hanswered => exact iff_of_true ⟨_, _, hanswered⟩ hpasses
    | unread _ hpasses hanswered => exact iff_of_true ⟨_, _, hanswered⟩ hpasses
    | stopped hstops failure hstopped =>
      refine iff_of_false ?_ (not_not_intro hstops)
      rintro ⟨name, subject, hanswered⟩
      exact hanswered.not_stoppedWith hstopped
  · cases hreading with
    | read _ _ hpasses hanswered =>
      exact iff_of_false (fun ⟨_, hstopped⟩ => hanswered.not_stoppedWith hstopped) hpasses
    | unread _ hpasses hanswered =>
      exact iff_of_false (fun ⟨_, hstopped⟩ => hanswered.not_stoppedWith hstopped) hpasses
    | stopped hstops failure hstopped => exact iff_of_true ⟨failure, hstopped⟩ hstops

/-- An element that is made of elements. -/
def Der.Element.made (tag : Tag) (parts : List Element) : Element := ⟨tag, encodeAll parts⟩

namespace X509

open Der

/-- A name as it is encoded. -/
def Name.element (name : Name) : Element :=
  .made Tag.sequence (name.map fun set =>
    .made Tag.set (set.map fun a => .made Tag.sequence [⟨Tag.oid, a.oid⟩, a.value]))

/-- The algorithm of a signature by elliptic curves, which has no parameters. -/
def sampleAlgorithm : Element :=
  .made Tag.sequence [⟨Tag.oid, [0x2A, 0x86, 0x48, 0xCE, 0x3D, 0x04, 0x03, 0x02]⟩]

/-- A certificate of a version, encoded as one less, and a subject. -/
def sampleCertificate (version : UInt8) (subject : Name) : Text :=
  let midnight : Element := ⟨Tag.generalizedTime, Text.utf8 "20240101000000Z"⟩
  let key : Element := .made Tag.sequence [⟨Tag.oid, [0x2A, 0x03]⟩, ⟨.universal 18, [0x31, 0x32]⟩]
  let bits : Element := ⟨Tag.bitString, [0x00, 0x61, 0x62]⟩
  let signed : Element := .made Tag.sequence [
    .made (.explicit 0) [⟨Tag.integer, [version]⟩],
    ⟨Tag.integer, [0xF9]⟩,
    sampleAlgorithm,
    Name.element [[⟨Oid.commonName, ⟨.universal 12, [0x69]⟩⟩]],
    .made Tag.sequence [midnight, midnight],
    subject.element,
    .made Tag.sequence [key, bits],
    .made (.explicit 3) [.made Tag.sequence []]]
  Base64.encode (Element.made Tag.sequence [signed, sampleAlgorithm, bits]).encode

end X509

/-- A certificate whose subject has a common name. -/
def namedCertificate : Text :=
  X509.sampleCertificate 2 [[⟨X509.Oid.commonName, ⟨.universal 12, [0x69]⟩⟩]]

/-- A certificate with a string of bits for a name. -/
def strayCertificate : Text :=
  X509.sampleCertificate 2 [
    [⟨[0x55, 0x04, 0x29], ⟨Der.Tag.bitString, Text.utf8 "20240101000000Z"⟩⟩],
    [⟨[0x55, 0x04, 0x29], ⟨.universal 20, []⟩⟩]]

/-- A certificate of version 2. -/
def secondCertificate : Text := X509.sampleCertificate 1 []

/-- Two certificates about which asking is not answered. -/
theorem stoppedWith_samples :
    StoppedWith strayCertificate .bitStringAttribute ∧
      StoppedWith secondCertificate .unsupportedVersion := by
  constructor
  · apply stoppedWith_of_fatal
    decide +kernel
  · apply stoppedWith_of_fatal
    decide +kernel

/-! ### Answers of responders -/

/-- The answer on the outside of octets names another status than success. -/
def X509.RefusedIn (octets : Bytes) : Prop :=
  ∃ answer status fields, Der.single? octets = some answer ∧
    Der.elements? answer.content = some (⟨Der.Tag.enumerated, status⟩ :: fields) ∧
    Der.natural? status ≠ some 0

/-- A reader that requires what does not hold reads nothing. -/
theorem X509.require_false_bind {α : Type} (f : Unit → Der.Fields α) :
    (Der.Fields.require false >>= f) = Der.Fields.refuse := rfl

/-- An answer whose status is not success is read as no answer. -/
theorem X509.ofDer?_eq_none_of_refusedIn {octets : Bytes} (h : X509.RefusedIn octets) :
    X509.StatusResponse.ofDer? octets = none := by
  obtain ⟨answer, status, fields, hanswer, hfields, hstatus⟩ := h
  have hrequire : (Der.natural? status == some 0) = false := beq_eq_false_iff_ne.mpr hstatus
  have houter : outerFields (⟨Der.Tag.enumerated, status⟩ :: fields) = none := by
    -- The status is required only after the octets of the answer are taken.
    change (Der.Fields.explicit 0 fields).bind (fun read =>
      (Der.Fields.require (Der.natural? status == some 0) >>= fun _ => _) read.2) = none
    simp only [hrequire, require_false_bind]
    exact Option.bind_fun_none _
  unfold StatusResponse.ofDer? Der.Fields.of?
  rw [hanswer]
  simp only [hfields, houter, ite_self]

/-- The ways in which revocation data has no answer. -/
inductive RevocationFacts.Silent (r : RevocationFacts) : Prop
  /-- The engine gives none. -/
  | missing (hmissing : r.response = none)
  /-- There is nothing but blanks. -/
  | blank (t : Text) (ht : r.response = some t) (hblank : t.AllBlank)
  /-- The text is no base64. -/
  | foreign (t : Text) (ht : r.response = some t) (hforeign : Base64.decode? t.squeeze = none)
  /-- The octets are not one element. -/
  | formless (t : Text) (ht : r.response = some t) (octets : Bytes)
      (hoctets : Base64.decode? t.squeeze = some octets) (hformless : Der.single? octets = none)
  /-- The responder refused to answer. -/
  | refused (t : Text) (ht : r.response = some t) (octets : Bytes)
      (hoctets : Base64.decode? t.squeeze = some octets) (hrefused : X509.RefusedIn octets)
  /-- The octets are no successful basic answer for another reason. -/
  | unread (t : Text) (ht : r.response = some t) (octets : Bytes)
      (hoctets : Base64.decode? t.squeeze = some octets)
      (hunread : X509.StatusResponse.ofDer? octets = none)

/-- What is read from a text that an engine gives for an answer. -/
theorem statusResponse?_eq {r : RevocationFacts} {t : Text} (ht : r.response = some t) :
    statusResponse? r = (Base64.decode? t.squeeze).bind X509.StatusResponse.ofDer? := by
  unfold statusResponse?
  rw [ht]
  -- An empty text is left out before it is decoded, and its octets would be no answer.
  cases t <;> rfl

/-- **The ways to have no answer are complete.** -/
theorem RevocationFacts.silent_iff (r : RevocationFacts) :
    r.Silent ↔ statusResponse? r = none := by
  constructor
  · intro h
    cases h with
    | missing hmissing =>
      unfold statusResponse?
      rw [hmissing]
      rfl
    | blank t ht hblank =>
      rw [statusResponse?_eq ht, Text.squeeze_of_allBlank hblank]
      rfl
    | foreign t ht hforeign => rw [statusResponse?_eq ht, hforeign, Option.bind_none]
    | formless t ht octets hoctets hformless =>
      rw [statusResponse?_eq ht, hoctets, Option.bind_some]
      unfold X509.StatusResponse.ofDer?
      rw [hformless]
    | refused t ht octets hoctets hrefused =>
      rw [statusResponse?_eq ht, hoctets, Option.bind_some]
      exact X509.ofDer?_eq_none_of_refusedIn hrefused
    | unread t ht octets hoctets hunread =>
      rw [statusResponse?_eq ht, hoctets, Option.bind_some, hunread]
  · intro h
    cases hresponse : r.response with
    | none => exact .missing hresponse
    | some t =>
      cases hoctets : Base64.decode? t.squeeze with
      | none => exact .foreign t hresponse hoctets
      | some octets =>
        rw [statusResponse?_eq hresponse, hoctets, Option.bind_some] at h
        exact .unread t hresponse octets hoctets h

/-- Revocation data has an answer in which an extension occurs twice. -/
def RepeatsExtension (r : Option RevocationFacts) : Prop :=
  ∃ response, r.bind statusResponse? = some response ∧
    ¬ (response.extensions.map (·.oid)).Nodup

/-- Revocation data has no time of its own, and an answer that was produced in the year 0. -/
def LacksTime (r : Option RevocationFacts) : Prop :=
  r.bind (·.creationTime) = none ∧
    ∃ response, r.bind statusResponse? = some response ∧ response.producedAt.year = 0

/-- Without an answer there is no nonce, and no time but the engine's. -/
theorem answered_of_silent {r : Option RevocationFacts} (h : r.bind statusResponse? = none) :
    nonceImprint r = .ok [] ∧ revocationTime r = .ok (r.bind (·.creationTime)) := by
  constructor
  · unfold nonceImprint
    rw [h]
  · cases r with
    | none => rfl
    | some revocation =>
      rw [Option.bind_some] at h
      unfold revocationTime
      cases htime : revocation.creationTime <;> simp [h, htime]

/-- Where no extension is repeated, one is found by its identifier. -/
theorem X509.find?_oid {l : List Extension} (hdistinct : (l.map (·.oid)).Nodup) {e : Extension}
    (he : e ∈ l) : l.find? (·.oid == e.oid) = some e := by
  induction l with
  | nil => cases he
  | cons first l ih =>
    rw [List.map_cons, List.nodup_cons] at hdistinct
    rcases List.mem_cons.mp he with rfl | he
    · exact List.find?_cons_of_pos (beq_self_eq_true _)
    · have hne : first.oid ≠ e.oid := fun heq =>
        hdistinct.1 (heq ▸ List.mem_map_of_mem he)
      rw [List.find?_cons_of_neg (by simpa using hne)]
      exact ih hdistinct.2 he

/-- The nonce of an answer that repeats no extension. -/
theorem nonceImprint_of_distinct {r : Option RevocationFacts} {response : X509.StatusResponse}
    (h : r.bind statusResponse? = some response)
    (hdistinct : (response.extensions.map (·.oid)).Nodup) :
    nonceImprint r = .ok ((((response.extensions.find? (·.oid == X509.Oid.nonce)).map fun e =>
      X509.nonceOfValue e.value).map Base64.encode).getD []) := by
  unfold nonceImprint X509.StatusResponse.nonce
  rw [h]
  simp only [if_pos ((X509.allDistinct_iff _).mpr hdistinct)]
  rfl

theorem nonceImprint_of_repeated {r : Option RevocationFacts} (h : RepeatsExtension r) :
    nonceImprint r = .error .duplicateExtension := by
  obtain ⟨response, hresponse, hrepeated⟩ := h
  rw [← X509.allDistinct_iff] at hrepeated
  unfold nonceImprint X509.StatusResponse.nonce
  rw [hresponse]
  simp only [if_neg hrepeated]
  rfl

/-- The engine's time is taken whatever the answer says. -/
theorem revocationTime_of_creationTime {r : Option RevocationFacts} {m : Moment}
    (h : r.bind (·.creationTime) = some m) : revocationTime r = .ok (some m) := by
  obtain ⟨revocation, rfl, htime⟩ := Option.bind_eq_some_iff.mp h
  unfold revocationTime
  simp only [htime]

/-- Without an engine's time it is the time at which the answer was produced. -/
theorem revocationTime_of_response {r : Option RevocationFacts} {response : X509.StatusResponse}
    (htime : r.bind (·.creationTime) = none) (h : r.bind statusResponse? = some response) :
    revocationTime r = (producedAt response).map some := by
  obtain ⟨revocation, rfl, hresponse⟩ := Option.bind_eq_some_iff.mp h
  rw [Option.bind_some] at htime
  unfold revocationTime
  simp only [htime, hresponse]

/-- An answer that was not produced in the year 0 has its time in UTC. -/
theorem exists_producedAt {response : X509.StatusResponse} (h : response.producedAt.year ≠ 0) :
    ∃ m, producedAt response = .ok m ∧ m.civil = response.producedAt ∧ m.offset = some 0 := by
  have hyear : 1 ≤ response.producedAt.year := Nat.one_le_iff_ne_zero.mpr h
  unfold producedAt Moment.of?
  rw [dif_pos hyear, dif_pos (by decide)]
  exact ⟨_, rfl, rfl, rfl⟩

theorem producedAt_of_yearZero {response : X509.StatusResponse}
    (h : response.producedAt.year = 0) : producedAt response = .error .yearZero := by
  unfold producedAt Moment.of?
  rw [dif_neg (by omega)]

/-- Asking for the nonce fails for no other reason than a repeated extension. -/
theorem nonceImprint_eq_error_iff (r : Option RevocationFacts) (failure : Failure) :
    nonceImprint r = .error failure ↔ RepeatsExtension r ∧ failure = .duplicateExtension := by
  constructor
  · intro herror
    cases hresponse : r.bind statusResponse? with
    | none =>
      rw [(answered_of_silent hresponse).1] at herror
      cases herror
    | some response =>
      by_cases hdistinct : (response.extensions.map (·.oid)).Nodup
      · rw [nonceImprint_of_distinct hresponse hdistinct] at herror
        cases herror
      · have hrepeats : RepeatsExtension r := ⟨response, hresponse, hdistinct⟩
        rw [nonceImprint_of_repeated hrepeats] at herror
        exact ⟨hrepeats, (Except.error.inj herror).symm⟩
  · rintro ⟨hrepeats, rfl⟩
    exact nonceImprint_of_repeated hrepeats

/-- Asking for the time fails for no other reason than an answer from the year 0. -/
theorem revocationTime_eq_error_iff (r : Option RevocationFacts) (failure : Failure) :
    revocationTime r = .error failure ↔ LacksTime r ∧ failure = .yearZero := by
  cases htime : r.bind (·.creationTime) with
  | some m => simp [revocationTime_of_creationTime htime, LacksTime, htime]
  | none =>
    cases hresponse : r.bind statusResponse? with
    | none => simp [(answered_of_silent hresponse).2, LacksTime, hresponse]
    | some response =>
      rw [revocationTime_of_response htime hresponse, map_eq_error_iff]
      by_cases hyear : response.producedAt.year = 0
      · simp [producedAt_of_yearZero hyear, LacksTime, htime, hresponse, hyear, eq_comm]
      · obtain ⟨m, hm, -⟩ := exists_producedAt hyear
        simp [hm, LacksTime, hresponse, hyear]

/-- **All revocation data is answered for unless its answer repeats an extension or was produced
in the year 0.**  Where there is no answer, however that came about, there is no nonce and no time
but the engine's.  An answer whose extensions differ has the nonce among them or none. -/
theorem evidence_of_answers (r : Option RevocationFacts) :
    (∀ failure, nonceImprint r = .error failure ↔
      RepeatsExtension r ∧ failure = .duplicateExtension) ∧
    (∀ failure, revocationTime r = .error failure ↔ LacksTime r ∧ failure = .yearZero) ∧
    ((∃ imprint, nonceImprint r = .ok imprint) ↔ ¬ RepeatsExtension r) ∧
    ((∃ time, revocationTime r = .ok time) ↔ ¬ LacksTime r) ∧
    ((∀ revocation, r = some revocation → revocation.Silent) →
      nonceImprint r = .ok [] ∧ revocationTime r = .ok (r.bind (·.creationTime))) ∧
    (∀ response, r.bind statusResponse? = some response →
      (response.extensions.map (·.oid)).Nodup →
        ((∀ e ∈ response.extensions, e.oid ≠ X509.Oid.nonce) → nonceImprint r = .ok []) ∧
        ∀ e ∈ response.extensions, e.oid = X509.Oid.nonce →
          nonceImprint r = .ok (Base64.encode (X509.nonceOfValue e.value))) ∧
    (∀ m, r.bind (·.creationTime) = some m → revocationTime r = .ok (some m)) ∧
    (∀ response, r.bind (·.creationTime) = none → r.bind statusResponse? = some response →
      response.producedAt.year ≠ 0 → ∃ m, revocationTime r = .ok (some m) ∧
        m.civil = response.producedAt ∧ m.offset = some 0) := by
  refine ⟨nonceImprint_eq_error_iff r, revocationTime_eq_error_iff r,
    exists_ok_iff_not (nonceImprint_eq_error_iff r),
    exists_ok_iff_not (revocationTime_eq_error_iff r), ?_, ?_,
    fun m => revocationTime_of_creationTime, ?_⟩
  · intro hsilent
    apply answered_of_silent
    rw [Option.bind_eq_none_iff]
    intro revocation hrevocation
    exact revocation.silent_iff.mp (hsilent revocation hrevocation)
  · intro response hresponse hdistinct
    have himprint := nonceImprint_of_distinct hresponse hdistinct
    refine ⟨fun hnone => ?_, fun e he hnonce => ?_⟩
    · have hfind : response.extensions.find? (·.oid == X509.Oid.nonce) = none := by
        rw [List.find?_eq_none]
        intro e he
        simpa using hnone e he
      rw [himprint, hfind]
      rfl
    · rw [himprint, ← hnonce, X509.find?_oid hdistinct he]
      rfl
  · intro response htime hresponse hyear
    obtain ⟨m, hm, hcivil, hoffset⟩ := exists_producedAt hyear
    refine ⟨m, ?_, hcivil, hoffset⟩
    rw [revocationTime_of_response htime hresponse, hm]
    rfl

namespace X509

open Der

/-- A successful answer about one certificate, with its time and its nonces. -/
def sampleAnswer (producedAt : Text) (nonces : List UInt8) : Bytes :=
  let hash : Element :=
    .made Tag.sequence [⟨Tag.oid, [0x2B, 0x0E, 0x03, 0x02, 0x1A]⟩, ⟨Tag.null, []⟩]
  let certificate : Element := .made Tag.sequence [
    hash,
    ⟨Tag.octetString, List.replicate 20 0x11⟩,
    ⟨Tag.octetString, List.replicate 20 0x22⟩,
    ⟨Tag.integer, [0x12, 0x34]⟩]
  let single : Element := .made Tag.sequence [
    certificate,
    ⟨.implicit 0, []⟩,
    ⟨Tag.generalizedTime, Text.utf8 "20240301095959Z"⟩]
  let extensions : List Element := nonces.map fun n => .made Tag.sequence [
    ⟨Tag.oid, Oid.nonce⟩,
    ⟨Tag.octetString, Element.encode ⟨Tag.octetString, [n]⟩⟩]
  let signed : Element := .made Tag.sequence [
    .made (.explicit 2) [⟨Tag.octetString, List.replicate 20 0x33⟩],
    ⟨Tag.generalizedTime, producedAt.utf8⟩,
    .made Tag.sequence [single],
    .made (.explicit 1) [.made Tag.sequence extensions]]
  let basic : Element := .made Tag.sequence [
    signed,
    sampleAlgorithm,
    ⟨Tag.bitString, [0x00, 0x30, 0x06, 0x02, 0x01, 0x01, 0x02, 0x01, 0x02]⟩]
  let typed : Element := .made Tag.sequence [
    ⟨Tag.oid, Oid.basicResponse⟩,
    ⟨Tag.octetString, basic.encode⟩]
  (Element.made Tag.sequence [⟨Tag.enumerated, [0x00]⟩, .made (.explicit 0) [typed]]).encode

end X509

/-- Revocation data of which nothing is known but the answer. -/
def RevocationFacts.ofAnswer (octets : Bytes) : RevocationFacts :=
  ⟨none, none, some (Base64.encode octets)⟩

/-- An answer with two nonces. -/
def repeatedAnswer : RevocationFacts := .ofAnswer (X509.sampleAnswer "20240301100001Z" [0x62, 0x61])

/-- An answer from the first second of the year 0. -/
def ancientAnswer : RevocationFacts := .ofAnswer (X509.sampleAnswer "00000101000000Z" [0x70])

/-- Two answers about which asking fails. -/
theorem evidence_stops_samples :
    nonceImprint (some repeatedAnswer) = .error .duplicateExtension ∧
      revocationTime (some ancientAnswer) = .error .yearZero := by
  constructor
  · decide +kernel
  · decide +kernel

end ValidationReport
