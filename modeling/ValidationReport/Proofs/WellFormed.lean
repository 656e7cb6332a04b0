import ValidationReport.Evidence
import ValidationReport.Proofs.Failure
import ValidationReport.Proofs.IsoText
import ValidationReport.Proofs.Reported

/-!
# Text without surrogates

Half of a surrogate pair can only come in with a JSON string.  Whatever is decoded
from octets is text in full, numbers and base64 are ASCII, and a part of a text is
as well formed as the text.  So evidence adds no surrogate to a report.

## Main definitions

* `Text.WellFormedIfAny` — a text that may be absent is well formed.
* `SubjectName.WellFormed`, `CertificateEntry.WellFormed` — texts from certificates.

## Main results

* `Text.isWellFormed_ofUtf8?`, `Text.isWellFormed_ofUtf16?`,
  `Text.isWellFormed_ofUtf32?` — **what is decoded is well formed.**
* `isWellFormed_utcText?`, `isWellFormed_nonceImprint` — times and imprints.
* `wellFormed_subjectName`, `wellFormed_classifyCertificates` — subjects and
  certificates.
-/

namespace ValidationReport

/-- A text that may be absent is well formed. -/
def Text.WellFormedIfAny (t : Option Text) : Prop := ∀ u, t = some u → u.isWellFormed = true

theorem Text.wellFormedIfAny_none : Text.WellFormedIfAny none := fun _ h => (by cases h)

theorem Text.wellFormedIfAny_some {t : Text} (h : t.isWellFormed = true) :
    Text.WellFormedIfAny (some t) := fun _ hu => Option.some.inj hu ▸ h

/-- What stands in for an absent text is empty. -/
theorem Text.WellFormedIfAny.getD {t : Option Text} (h : Text.WellFormedIfAny t) :
    (t.getD []).isWellFormed = true := by
  cases t with
  | none => rfl
  | some t => exact h t rfl

namespace Text

/-! ### Parts of a text -/

theorem isWellFormed_of_subset {s t : Text} (h : t.isWellFormed = true) (hsub : s ⊆ t) :
    s.isWellFormed = true := by
  rw [isWellFormed_iff] at h ⊢
  exact fun c hc => h c (hsub hc)

theorem isWellFormed_trim {t : Text} (h : t.isWellFormed = true) : t.trim.isWellFormed = true :=
  isWellFormed_of_subset h t.trim_subset

/-! ### Small code points -/

theorem isScalar_of_lt {c : Code} (h : c.val < 0xD800) : c.isScalar = true := by
  rw [Code.isScalar_iff]
  exact .inl h

theorem isWellFormed_of_lt {t : Text} (h : ∀ c ∈ t, c.val < 0xD800) : t.isWellFormed = true :=
  isWellFormed_iff.mpr fun c hc => isScalar_of_lt (h c hc)

theorem val_lt_of_isDigit {c : Code} (h : c.isDigit = true) : c.val < 0xD800 := by
  simp only [Code.isDigit, Bool.and_eq_true, decide_eq_true_eq] at h
  omega

theorem isWellFormed_natural (n : ℕ) : (natural n).isWellFormed = true :=
  isWellFormed_of_lt fun c hc => val_lt_of_isDigit (isDigit_of_mem_natural n c hc)

theorem isWellFormed_padded (width n : ℕ) : (padded width n).isWellFormed = true :=
  isWellFormed_of_lt fun _ hc => val_lt_of_isDigit (isDigit_of_mem_padded hc)

theorem isWellFormed_ofOctets (octets : Bytes) : (ofOctets octets).isWellFormed = true := by
  refine isWellFormed_of_lt fun c hc => ?_
  obtain ⟨b, -, rfl⟩ := List.mem_map.mp hc
  have hb := b.toNat_lt
  rw [Code.val_ofNat (by omega)]
  omega

/-! ### Decoded text -/

theorem isWellFormed_ofUtf8? {octets : Bytes} {t : Text} (h : ofUtf8? octets = some t) :
    t.isWellFormed = true := (ofUtf8?_eq_some_iff.mp h).1

/-- A surrogate pair names a code point above all surrogates. -/
theorem isScalar_ofSurrogates {high low : Code} (hhigh : high.isHighSurrogate = true)
    (hlow : low.isLowSurrogate = true) : (Code.ofSurrogates high low).isScalar = true := by
  simp only [Code.isHighSurrogate, Code.isLowSurrogate, Bool.and_eq_true, decide_eq_true_eq]
    at hhigh hlow
  rw [Code.isScalar_iff, Code.ofSurrogates, Code.val_ofNat (by omega)]
  omega

theorem isWellFormed_paired? {units t : Text} (h : paired? units = some t) :
    t.isWellFormed = true := by
  fun_induction paired? units generalizing t with
  | case1 =>
    cases h
    rfl
  | case2 u hhigh v units hlow ih =>
    obtain ⟨t, ht, rfl⟩ := Option.map_eq_some_iff.mp h
    exact isWellFormed_cons.mpr ⟨isScalar_ofSurrogates hhigh hlow, ih ht⟩
  | case3 => cases h
  | case4 => cases h
  | case5 => cases h
  | case6 u units hhigh hlow ih =>
    obtain ⟨t, ht, rfl⟩ := Option.map_eq_some_iff.mp h
    refine isWellFormed_cons.mpr ⟨?_, ih ht⟩
    simp only [Code.isHighSurrogate, Code.isLowSurrogate, Bool.and_eq_true, decide_eq_true_eq]
      at hhigh hlow
    rw [Code.isScalar_iff]
    omega

theorem isWellFormed_ofUtf16? {octets : Bytes} {t : Text} (h : ofUtf16? octets = some t) :
    t.isWellFormed = true := by
  obtain ⟨units, -, hunits⟩ := Option.bind_eq_some_iff.mp h
  exact isWellFormed_paired? hunits

theorem isWellFormed_ofUtf32? : ∀ {octets : Bytes} {t : Text}, ofUtf32? octets = some t →
    t.isWellFormed = true
  | [], t, h => by
    cases h
    rfl
  | a :: b :: c :: d :: rest, t, h => by
    rw [ofUtf32?] at h
    split at h
    · next hscalar =>
      obtain ⟨t, ht, rfl⟩ := Option.map_eq_some_iff.mp h
      exact isWellFormed_cons.mpr ⟨hscalar.2, isWellFormed_ofUtf32? ht⟩
    · cases h
  | [_], t, h => by cases h
  | [_, _], t, h => by cases h
  | [_, _, _], t, h => by cases h

/-- Text is decoded from octets or made of them. -/
theorem isWellFormed_decoded {t : Text} (h : t.isWellFormed = true) :
    t.decoded.isWellFormed = true := by
  unfold decoded
  cases hdecoded : ofUtf8? (t.map fun c => UInt8.ofNat c.val) with
  | none => exact h
  | some u => exact isWellFormed_ofUtf8? hdecoded

end Text

/-! ### Base64 and times -/

theorem Base64.val_letter_lt (n : ℕ) : (letter n).val < 0xD800 := by
  unfold letter
  split_ifs with h26 h52 h62
  · rw [Code.val_ofNat (by omega)]
    omega
  · rw [Code.val_ofNat (by omega)]
    omega
  · rw [Code.val_ofNat (by omega)]
    omega
  · decide
  · decide

theorem isWellFormed_encode (octets : Bytes) : (Base64.encode octets).isWellFormed = true := by
  have hletter : ∀ n, (Base64.letter n).isScalar = true := fun n =>
    Text.isScalar_of_lt (Base64.val_letter_lt n)
  have hpad : Base64.pad.isScalar = true := by decide
  fun_induction Base64.encode octets with
  | case1 => rfl
  | case2 a => simp [Text.isWellFormed, hletter, hpad]
  | case3 a b => simp [Text.isWellFormed, hletter, hpad]
  | case4 a b c rest ih => simpa [Text.isWellFormed, hletter] using ih

theorem isWellFormed_utcText (c : Civil) : c.utcText.isWellFormed = true := by
  simp only [Civil.utcText, Civil.textAfterYear, Text.isWellFormed_append, isWellFormed_ofString,
    Text.isWellFormed_natural, Text.isWellFormed_padded, and_self]

theorem isWellFormed_utcText? {m : Option Moment} {t : Option Text}
    (h : Moment.utcText? m = .ok t) : Text.WellFormedIfAny t := by
  cases m with
  | none =>
    cases h
    exact Text.wellFormedIfAny_none
  | some m =>
    obtain ⟨u, hu, rfl⟩ := map_eq_ok_iff.mp h
    obtain ⟨c, -, rfl⟩ := map_eq_ok_iff.mp hu
    exact Text.wellFormedIfAny_some (isWellFormed_utcText c)

theorem isWellFormed_nonceImprint {r : Option RevocationFacts} {t : Text}
    (h : nonceImprint r = .ok t) : t.isWellFormed = true := by
  unfold nonceImprint at h
  split at h
  · cases h
    rfl
  · next response _ =>
    obtain ⟨nonce, -, hnonce⟩ := bind_eq_ok_iff.mp h
    cases hnonce
    cases nonce with
    | none => rfl
    | some octets => exact isWellFormed_encode octets

/-! ### Certificates -/

namespace X509

/-- The text of an attribute is decoded from its octets. -/
theorem isWellFormed_of_read {a : Attribute} {t : Text} (h : a.read = .ok (.text t)) :
    t.isWellFormed = true := by
  have hdecoded : ∀ {u : Option Text}, Flaw.readable (u.map AttributeValue.text) = .ok (.text t) →
      u = some t := by
    intro u hu
    obtain ⟨v, hv, htext⟩ := Option.map_eq_some_iff.mp (readable_eq_ok_iff.mp hu)
    cases htext
    exact hv
  unfold Attribute.read at h
  split_ifs at h
  · cases h
  · exact Text.isWellFormed_ofUtf32? (hdecoded h)
  · exact Text.isWellFormed_ofUtf16? (hdecoded h)
  · exact Text.isWellFormed_ofUtf8? (hdecoded h)

theorem isWellFormed_of_mem_attributes {name : Name} {attributes : List NamedValue}
    (h : name.attributes = .ok attributes) {oid : Oid} {t : Text}
    (hmem : (oid, .text t) ∈ attributes) : t.isWellFormed = true := by
  obtain ⟨sets, hsets, hflat⟩ := bind_eq_ok_iff.mp h
  cases hflat
  obtain ⟨values, hvalues, hmem⟩ := List.mem_flatten.mp hmem
  obtain ⟨set, -, hset⟩ := exists_of_mem_mapM hsets hvalues
  obtain ⟨read, hread, hset⟩ := bind_eq_ok_iff.mp hset
  split_ifs at hset
  · cases hset
  · cases hset
    obtain ⟨a, -, ha⟩ := exists_of_mem_mapM hread hmem
    obtain ⟨value, hvalue, heq⟩ := map_eq_ok_iff.mp ha
    cases heq
    exact isWellFormed_of_read hvalue

end X509

theorem wellFormed_firstText? {t : Text} {attributes : List X509.NamedValue}
    (h : subjectOf t = .ok attributes) (oid : X509.Oid) :
    Text.WellFormedIfAny (X509.firstText? oid attributes) := by
  obtain ⟨der, -, h⟩ := bind_eq_ok_iff.mp h
  obtain ⟨certificate, -, hattributes⟩ := bind_eq_ok_iff.mp h
  intro u hu
  unfold X509.firstText? at hu
  split at hu
  · next v hlookup =>
    cases hu
    obtain ⟨before, after, hsplit, -⟩ := List.lookup_eq_some_iff.mp hlookup
    exact X509.isWellFormed_of_mem_attributes hattributes
      (hsplit ▸ List.mem_append_right before List.mem_cons_self)
  · cases hu

theorem isWellFormed_commonName {t name : Text} (h : commonName t = .ok name) :
    name.isWellFormed = true := by
  rcases tolerate_eq_ok h with rfl | hread
  · rfl
  · obtain ⟨attributes, hattributes, rfl⟩ := map_eq_ok_iff.mp hread
    exact (wellFormed_firstText? hattributes _).getD

/-- The texts about a subject are well formed. -/
structure SubjectName.WellFormed (s : SubjectName) : Prop where
  commonName : Text.WellFormedIfAny s.commonName
  serialNumber : Text.WellFormedIfAny s.serialNumber
  givenName : Text.WellFormedIfAny s.givenName
  surname : Text.WellFormedIfAny s.surname

theorem SubjectName.wellFormed_unknown : SubjectName.unknown.WellFormed :=
  ⟨Text.wellFormedIfAny_none, Text.wellFormedIfAny_none, Text.wellFormedIfAny_none,
    Text.wellFormedIfAny_none⟩

theorem wellFormed_subjectName {certificate : Option Text} {s : SubjectName}
    (h : subjectName certificate = .ok s) : s.WellFormed := by
  unfold subjectName at h
  split at h
  · cases h
    exact SubjectName.wellFormed_unknown
  · rcases tolerate_eq_ok h with rfl | hread
    · exact SubjectName.wellFormed_unknown
    · obtain ⟨attributes, hattributes, rfl⟩ := map_eq_ok_iff.mp hread
      have htext := wellFormed_firstText? hattributes
      exact ⟨htext _, htext _, htext _, htext _⟩

/-- The texts about a certificate are well formed. -/
structure CertificateEntry.WellFormed (e : CertificateEntry) : Prop where
  content : e.content.isWellFormed = true
  commonName : e.commonName.isWellFormed = true

theorem isWellFormed_normalizeCertificate {t : Text} (h : t.isWellFormed = true) :
    (normalizeCertificate t).isWellFormed = true := by
  unfold normalizeCertificate
  split
  · exact isWellFormed_encode _
  · exact Text.isWellFormed_trim h

theorem wellFormed_certificateEntries {role : CertificateRole} {texts : List (Option Text)}
    {entries : List CertificateEntry} (h : certificateEntries role texts = .ok entries)
    (htexts : ∀ t ∈ texts, Text.WellFormedIfAny t) : ∀ e ∈ entries, e.WellFormed := by
  intro e he
  obtain ⟨t, ht, hentry⟩ := exists_of_mem_mapM h he
  obtain ⟨present, hpresent, htext⟩ := List.mem_filterMap.mp ht
  obtain ⟨u, hu, hnonempty⟩ := Option.bind_eq_some_iff.mp htext
  obtain ⟨rfl, -⟩ := Text.nonempty?_eq_some_iff.mp hnonempty
  obtain ⟨name, hname, hmade⟩ := bind_eq_ok_iff.mp hentry
  cases hmade
  exact ⟨isWellFormed_normalizeCertificate (htexts present hpresent u hu),
    isWellFormed_commonName hname⟩

theorem wellFormed_classifyCertificates {signing : Option Text} {revocations : List (Option Text)}
    {entries : List CertificateEntry}
    (h : classifyCertificates signing revocations none = .ok entries)
    (hsigning : Text.WellFormedIfAny signing)
    (hrevocations : ∀ t ∈ revocations, Text.WellFormedIfAny t) :
    ∀ e ∈ entries, e.WellFormed := by
  obtain ⟨first, hfirst, h⟩ := bind_eq_ok_iff.mp h
  obtain ⟨second, hsecond, h⟩ := bind_eq_ok_iff.mp h
  obtain ⟨third, hthird, h⟩ := bind_eq_ok_iff.mp h
  cases h
  rw [List.forall_mem_append, List.forall_mem_append]
  refine ⟨⟨wellFormed_certificateEntries hfirst ?_, wellFormed_certificateEntries hsecond
    hrevocations⟩, wellFormed_certificateEntries hthird ?_⟩
  · exact fun t ht => List.mem_singleton.mp ht ▸ hsigning
  · exact fun t ht => List.mem_singleton.mp ht ▸ Text.wellFormedIfAny_none

end ValidationReport
