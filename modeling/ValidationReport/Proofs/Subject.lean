import ValidationReport.Proofs.Fields
import ValidationReport.Proofs.Transport

/-!
# Subjects of certificates

A report names the subject of a certificate by four kinds of attributes, and of each
kind the first counts.  This is told here of certificates as they are encoded.  Around
the subject stands a frame that must be well formed, and whatever it holds it is
skipped: the certificate has a number of its own and its issuer a name of its own, and
neither comes into the report.

Nothing is left out by speaking of frames, since every certificate that is read has one.

## Main definitions

* `X509.SignedFrame`, `X509.CertificateFrame` — what a certificate is made of besides
  its subject.
* `X509.TextAttribute`, `X509.subjectContent` — attributes of text, and the subject that
  has one after the other.
* `X509.TextAttribute.firstText`, `SubjectName.ofTexts` — the first text of a kind, and
  of the four kinds.

## Main results

* `X509.Certificate.ofDer_eq_ok_iff` — the certificates that are read.
* `X509.Name.read?_subjectContent`, `X509.Name.attributes_encoded` — the texts of a
  subject are read back in order.
* `subject_of_certificate` — **what a report says about a subject is told by the first
  attributes of four kinds.**
-/

namespace ValidationReport

namespace X509

open Der

/-! ### The signed part of a certificate -/

/-- The version as it is written, if it is. -/
def versionElement (isThird : Bool) : Option Element :=
  if isThird then some ⟨Tag.integer, [2]⟩ else none

/-- The version as it is counted, from zero. -/
def versionNumber (isThird : Bool) : ℕ := if isThird then 2 else 0

/-- A certificate is of one of the two versions exactly if its version is written like this. -/
theorem version_iff {e? : Option Element} {n : ℕ} :
    e?.elim (some 0) version? = some n ∧ (n = 0 ∨ n = 2) ↔
      ∃ isThird, e? = versionElement isThird ∧ n = versionNumber isThird := by
  have hread : ∀ content, natural? content = some 2 ↔ content = [2] := fun content =>
    natural?_eq_some_iff_of_lt (by decide)
  constructor
  · rintro ⟨hversion, hn⟩
    cases e? with
    | none => exact ⟨false, rfl, (Option.some.inj hversion).symm⟩
    | some e =>
      obtain ⟨tag, content⟩ := e
      change version? _ = _ at hversion
      rw [version?, Option.ite_none_right_eq_some, Option.filter_eq_some_iff] at hversion
      obtain ⟨rfl, hnatural, hrange⟩ := hversion
      obtain rfl : n = 2 := hn.resolve_left fun hzero => by simp [hzero] at hrange
      rw [(hread content).mp hnatural]
      exact ⟨true, rfl, rfl⟩
  · rintro ⟨isThird, rfl, rfl⟩
    cases isThird with
    | false => exact ⟨rfl, Or.inl rfl⟩
    | true => exact ⟨rfl, Or.inr rfl⟩

theorem isEncodable_of_mem_versionElement {isThird : Bool} :
    ∀ e ∈ versionElement isThird, e.IsEncodable := by
  intro e he
  cases isThird with
  | false => cases he
  | true =>
    obtain rfl := Option.some.inj he
    exact ⟨by decide, by decide⟩

theorem tag_of_readExtensions? {e : Element} (h : (readExtensions? e).isSome = true) :
    e.tag = Tag.sequence := by
  unfold readExtensions? at h
  split at h
  · assumption
  · cases h

/-- What the signed part of a certificate of version 1 or 3 is made of besides the subject. -/
structure SignedFrame where
  /-- The version is 3, and written out. -/
  isThird : Bool
  serial : Bytes
  algorithm : Bytes
  issuer : Bytes
  validity : Bytes
  key : Bytes
  issuerId : Option Bytes
  subjectId : Option Bytes
  extensions : Option Element
  isInteger_serial : isInteger serial = true
  isAlgorithm_algorithm : isAlgorithm algorithm = true
  isSome_issuer : (Name.read? issuer).isSome = true
  isSome_validity : (validityFields.of? validity).isSome = true
  isSome_key : (keyFields.of? key).isSome = true
  isBitString_issuerId : issuerId.all isBitString = true
  isBitString_subjectId : subjectId.all isBitString = true
  isSome_extensions : (extensions.all fun e => (readExtensions? e).isSome) = true

namespace SignedFrame

variable (f : SignedFrame)

/-- The fields around the content of a subject. -/
def fields (subject : Bytes) : List Element :=
  Element.optional (Tag.explicit 0) ((versionElement f.isThird).map Element.encode) ++
    ⟨Tag.integer, f.serial⟩ :: ⟨Tag.sequence, f.algorithm⟩ :: ⟨Tag.sequence, f.issuer⟩ ::
    ⟨Tag.sequence, f.validity⟩ :: ⟨Tag.sequence, subject⟩ :: ⟨Tag.sequence, f.key⟩ ::
    (Element.optional (Tag.implicit 1) f.issuerId ++
      (Element.optional (Tag.implicit 2) f.subjectId ++
        Element.optional (Tag.explicit 3) (f.extensions.map Element.encode)))

theorem isEncodable_of_mem_fields {tag : Tag} {subject : Bytes}
    (h : Element.IsEncodable ⟨tag, encodeAll (f.fields subject)⟩) :
    ∀ e ∈ f.fields subject, e.IsEncodable := by
  apply Element.IsEncodable.of_parts h
  unfold fields
  simp only [List.forall_mem_append, List.forall_mem_cons]
  exact ⟨Element.isEncodable_tag_of_mem_optional (by decide), by decide, by decide, by decide,
    by decide, by decide, by decide, Element.isEncodable_tag_of_mem_optional (by decide),
    Element.isEncodable_tag_of_mem_optional (by decide),
    Element.isEncodable_tag_of_mem_optional (by decide)⟩

theorem isEncodable_extensions {tag : Tag} {subject : Bytes}
    (h : Element.IsEncodable ⟨tag, encodeAll (f.fields subject)⟩) :
    ∀ e ∈ f.extensions, e.IsEncodable := by
  have hsubset :
      Element.optional (Tag.explicit 3) (f.extensions.map Element.encode) ⊆ f.fields subject := by
    intro e he
    simp [fields, he]
  refine Element.isEncodable_of_optional_subset (f.isEncodable_of_mem_fields h) hsubset
    fun e he => ?_
  have hsome := f.isSome_extensions
  rw [Option.mem_def.mp he] at hsome
  rw [tag_of_readExtensions? hsome]
  decide

/-- What is kept of a certificate: its version and its subject. -/
def IsReadAs (subject : Bytes) (c : Certificate) : Prop :=
  Name.read? subject = some c.subject ∧ c.version = versionNumber f.isThird

end SignedFrame

theorem signedFrame_iff {tag : Tag} {content : Bytes} (h : Element.IsEncodable ⟨tag, content⟩)
    {c : Certificate} :
    signedFields.of? content = some c ∧ (c.version = 0 ∨ c.version = 2) ↔
      ∃ (f : SignedFrame) (subject : Bytes), content = encodeAll (f.fields subject) ∧
        f.IsReadAs subject c := by
  rw [Fields.of?_eq_some_iff]
  unfold signedFields
  simp only [Fields.bind_eq_some_iff, Fields.explicit_eq_some_iff, Fields.some?_eq_some_iff,
    Fields.take_eq_some_iff, Fields.optional_eq_some_iff, Fields.require_eq_some_iff,
    Fields.pure_eq_some_iff, Bool.and_eq_true]
  constructor
  · -- step by step as the reader goes: it takes all fields before it looks into most of them
    rintro ⟨⟨_, -, rfl, version, _, ⟨rfl, -⟩, n, _, ⟨hn, rfl⟩, hrest⟩, hversion⟩
    obtain ⟨serial, _, rfl, algorithm, _, rfl, issuer, _, rfl, hrest⟩ := hrest
    obtain ⟨validity, _, rfl, subject, _, rfl, key, _, rfl, hrest⟩ := hrest
    obtain ⟨issuerId, _, ⟨rfl, -⟩, subjectId, _, ⟨rfl, -⟩, hrest⟩ := hrest
    obtain ⟨extensions, _, ⟨rfl, -⟩, hrest⟩ := hrest
    obtain ⟨_, _, ⟨⟨⟨hserial, halgorithm⟩, hissuer⟩, rfl⟩, hrest⟩ := hrest
    obtain ⟨_, _, ⟨hvalidity, rfl⟩, name, _, ⟨hname, rfl⟩, _, _, ⟨hkey, rfl⟩, hrest⟩ := hrest
    obtain ⟨_, _, ⟨⟨hissuerId, hsubjectId⟩, rfl⟩, _, _, ⟨hextensions, rfl⟩, rfl, rfl⟩ := hrest
    obtain ⟨isThird, rfl, rfl⟩ := version_iff.mp ⟨hn, hversion⟩
    rw [List.append_nil]
    exact ⟨⟨isThird, serial, algorithm, issuer, validity, key, issuerId, subjectId, extensions,
      hserial, halgorithm, hissuer, Option.isSome_iff_exists.mpr ⟨_, hvalidity⟩,
      Option.isSome_iff_exists.mpr ⟨_, hkey⟩, hissuerId, hsubjectId, hextensions⟩, subject, rfl,
      hname, rfl⟩
  · rintro ⟨f, subject, rfl, hname, hnumber⟩
    obtain ⟨number, name⟩ := c
    obtain ⟨hversion, heither⟩ := version_iff.mpr ⟨f.isThird, rfl, hnumber⟩
    obtain ⟨validity, hvalidity⟩ := Option.isSome_iff_exists.mp f.isSome_validity
    obtain ⟨key, hkey⟩ := Option.isSome_iff_exists.mp f.isSome_key
    refine ⟨⟨f.fields subject, f.isEncodable_of_mem_fields h, rfl, versionElement f.isThird, _,
      ⟨rfl, isEncodable_of_mem_versionElement, fun _ => ?_⟩, _, _, ⟨hversion, rfl⟩, f.serial, _,
      rfl, f.algorithm, _, rfl, f.issuer, _, rfl, f.validity, _, rfl, subject, _, rfl, f.key, _,
      rfl, f.issuerId, _, ⟨rfl, fun _ => ?_⟩, f.subjectId, _, ⟨rfl, fun _ => ?_⟩, f.extensions, [],
      ⟨(List.append_nil _).symm, f.isEncodable_extensions h, fun _ => Fields.lacks_nil _⟩, (), _,
      ⟨⟨⟨f.isInteger_serial, f.isAlgorithm_algorithm⟩, f.isSome_issuer⟩, rfl⟩, validity, _,
      ⟨hvalidity, rfl⟩, name, _, ⟨hname, rfl⟩, key, _, ⟨hkey, rfl⟩, (), _,
      ⟨⟨f.isBitString_issuerId, f.isBitString_subjectId⟩, rfl⟩, (), _,
      ⟨f.isSome_extensions, rfl⟩, rfl, rfl⟩, heither⟩
    -- what stands behind a field that is left out has another tag
    · exact Fields.lacks_cons.mpr (by decide : Tag.integer ≠ Tag.explicit 0)
    · exact Fields.lacks_optional (by decide) (Fields.lacks_optional_last (by decide))
    · exact Fields.lacks_optional_last (by decide)

/-! ### Certificates -/

/-- What a certificate of version 1 or 3 is made of besides its subject. -/
structure CertificateFrame extends SignedFrame where
  signatureAlgorithm : Bytes
  signature : Bytes
  isAlgorithm_signatureAlgorithm : isAlgorithm signatureAlgorithm = true
  isBitString_signature : isBitString signature = true

namespace CertificateFrame

variable (f : CertificateFrame)

/-- The signed part, and what signs it. -/
def parts (subject : Bytes) : List Element :=
  [.made Tag.sequence (f.fields subject), ⟨Tag.sequence, f.signatureAlgorithm⟩,
    ⟨Tag.bitString, f.signature⟩]

/-- The certificate with the content of a subject. -/
def certificate (subject : Bytes) : Element := .made Tag.sequence (f.parts subject)

theorem isEncodable_of_mem_parts {tag : Tag} {subject : Bytes}
    (h : Element.IsEncodable ⟨tag, encodeAll (f.parts subject)⟩) :
    ∀ e ∈ f.parts subject, e.IsEncodable := by
  apply Element.IsEncodable.of_parts h
  unfold parts
  simp only [List.forall_mem_cons]
  exact ⟨(by decide : Tag.sequence.IsEncodable), by decide, by decide, List.forall_mem_nil _⟩

/-- A certificate that is not too long for an encoding has no subject that is. -/
theorem isEncodable_subject {subject : Bytes} (h : (f.certificate subject).IsEncodable) :
    (Element.mk Tag.sequence subject).IsEncodable :=
  f.isEncodable_of_mem_fields (f.isEncodable_of_mem_parts h _ List.mem_cons_self) _
    (by simp [SignedFrame.fields])

end CertificateFrame

theorem certificateFrame_iff {e : Element} (h : e.IsEncodable) {c : Certificate} :
    Certificate.read? e = some c ∧ (c.version = 0 ∨ c.version = 2) ↔
      ∃ (f : CertificateFrame) (subject : Bytes), e = f.certificate subject ∧
        f.IsReadAs subject c := by
  obtain ⟨tag, content⟩ := e
  rw [Certificate.read?, Option.ite_none_right_eq_some, Fields.of?_eq_some_iff]
  unfold certificateFields
  simp only [Fields.bind_eq_some_iff, Fields.some?_eq_some_iff, Fields.take_eq_some_iff,
    Fields.require_eq_some_iff, Bool.and_eq_true]
  constructor
  · rintro ⟨⟨rfl, _, hparts, rfl, signed, _, rfl, algorithm, _, rfl, signature, _, rfl, _, _,
      ⟨⟨halgorithm, hsignature⟩, rfl⟩, hsigned, rfl⟩, hversion⟩
    obtain ⟨f, subject, rfl, hread⟩ :=
      (signedFrame_iff (hparts _ List.mem_cons_self)).mp ⟨hsigned, hversion⟩
    exact ⟨⟨f, algorithm, signature, halgorithm, hsignature⟩, subject, rfl, hread⟩
  · rintro ⟨f, subject, he, hread⟩
    obtain ⟨rfl, rfl⟩ := Element.mk.inj he
    have hparts := f.isEncodable_of_mem_parts h
    obtain ⟨hsigned, hversion⟩ := (signedFrame_iff (hparts _ List.mem_cons_self)).mpr
      ⟨f.toSignedFrame, subject, rfl, hread⟩
    exact ⟨⟨rfl, f.parts subject, hparts, rfl, _, _, rfl, _, _, rfl, _, _, rfl, (), _,
      ⟨⟨f.isAlgorithm_signatureAlgorithm, f.isBitString_signature⟩, rfl⟩, hsigned, rfl⟩, hversion⟩

/-- **A certificate of version 1 or 3 is read exactly if it is made up like this.** -/
theorem Certificate.ofDer_eq_ok_iff {der : Bytes} {c : Certificate} :
    Certificate.ofDer der = .ok c ↔ ∃ (f : CertificateFrame) (subject : Bytes),
      (f.certificate subject).IsEncodable ∧ der = (f.certificate subject).encode ∧
        f.IsReadAs subject c := by
  unfold Certificate.ofDer
  constructor
  · intro h
    split at h
    · cases h
    · next c' hbind =>
      split at h
      · next hversion =>
        obtain rfl : c' = c := Except.ok.inj h
        obtain ⟨e, hsingle, he⟩ := Option.bind_eq_some_iff.mp hbind
        obtain ⟨hencodable, rfl⟩ := single?_eq_some_iff.mp hsingle
        obtain ⟨f, subject, rfl, hread⟩ := (certificateFrame_iff hencodable).mp ⟨he, hversion⟩
        exact ⟨f, subject, hencodable, rfl, hread⟩
      · cases h
  · rintro ⟨f, subject, hencodable, rfl, hread⟩
    obtain ⟨he, hversion⟩ := (certificateFrame_iff hencodable).mpr ⟨f, subject, rfl, hread⟩
    rw [single?_eq_some_iff.mpr ⟨hencodable, rfl⟩, Option.bind_some, he]
    exact if_pos hversion

/-! ### Attributes of text -/

def Attribute.element (a : Attribute) : Element :=
  .made Tag.sequence [⟨Tag.oid, a.oid⟩, a.value]

/-- An attribute is read back. -/
theorem Attribute.read?_element {a : Attribute} (hoid : isOid a.oid = true)
    (hvalue : isAttributeValue a.value = true) (h : a.element.IsEncodable)
    (htag : a.value.tag.IsEncodable) : Attribute.read? a.element = some a := by
  have hparts := Element.IsEncodable.of_parts h (by
    simp only [List.forall_mem_cons]
    exact ⟨(by decide : Tag.oid.IsEncodable), htag, List.forall_mem_nil _⟩)
  unfold Attribute.read?
  rw [if_pos (by rfl)]
  refine Fields.of?_eq_some_iff.mpr ⟨_, hparts, rfl, ?_⟩
  unfold Attribute.fields
  simp only [Fields.bind_eq_some_iff, Fields.take_eq_some_iff, Fields.next_eq_some_iff,
    Fields.require_eq_some_iff, Fields.pure_eq_some_iff]
  refine ⟨_, _, rfl, _, _, rfl, (), _, ⟨?_, rfl⟩, rfl, rfl⟩
  rw [hoid, hvalue]
  rfl

/-- An attribute whose value is a text in UTF-8. -/
structure TextAttribute where
  oid : Oid
  text : Text
  isOid_oid : isOid oid = true
  isWellFormed_text : text.isWellFormed = true

namespace TextAttribute

/-- The attribute with its octets. -/
def encoded (a : TextAttribute) : Attribute := ⟨a.oid, ⟨.universal 12, a.text.utf8⟩⟩

/-- The attribute with its text. -/
def namedValue (a : TextAttribute) : NamedValue := (a.oid, .text a.text)

/-- A set of one attribute is read back. -/
theorem readSet?_encoded {a : TextAttribute}
    (h : (Element.made Tag.set [a.encoded.element]).IsEncodable) :
    readSet? (.made Tag.set [a.encoded.element]) = some [a.encoded] := by
  have hparts := Element.IsEncodable.of_parts h
    (List.forall_mem_singleton.mpr (by decide : Tag.sequence.IsEncodable))
  have hread : Attribute.read? a.encoded.element = some a.encoded :=
    Attribute.read?_element a.isOid_oid rfl (List.forall_mem_singleton.mp hparts)
      (by decide : (Tag.universal 12).IsEncodable)
  have helements := elements?_eq_some_iff.mpr ⟨hparts, rfl⟩
  unfold readSet? Element.made
  rw [helements]
  exact mapM_eq_some_iff.mpr (.cons hread .nil)

/-- The text of an attribute is read back. -/
theorem readAttributes_encoded (a : TextAttribute) :
    readAttributes [a.encoded] = .ok [a.namedValue] := by
  have hread : a.encoded.read = .ok (.text a.text) := by
    show Flaw.readable ((Text.ofUtf8? a.text.utf8).map AttributeValue.text) = _
    rw [Text.ofUtf8?_utf8 a.isWellFormed_text]
    rfl
  have hvalues : [a.encoded].mapM (fun a => a.read.map fun v => (a.oid, v)) =
      .ok [a.namedValue] := by
    refine mapM_eq_ok_iff.mpr (.cons ?_ .nil)
    rw [hread]
    rfl
  unfold readAttributes
  rw [hvalues]
  rfl

end TextAttribute

/-- The content of a name that has one attribute in each of its sets. -/
def subjectContent (attributes : List TextAttribute) : Bytes :=
  (Name.element (attributes.map fun a => [a.encoded])).content

theorem Name.read?_subjectContent {attributes : List TextAttribute}
    (h : (Element.mk Tag.sequence (subjectContent attributes)).IsEncodable) :
    Name.read? (subjectContent attributes) = some (attributes.map fun a => [a.encoded]) := by
  have hsets : subjectContent attributes =
      encodeAll (attributes.map fun a => .made Tag.set [a.encoded.element]) := by
    unfold subjectContent Name.element
    rw [List.map_map]
    rfl
  rw [hsets] at h ⊢
  have hparts := Element.IsEncodable.of_parts h
    (List.forall_mem_map.mpr fun _ _ => (by decide : Tag.set.IsEncodable))
  unfold Name.read?
  rw [elements?_eq_some_iff.mpr ⟨hparts, rfl⟩]
  show List.mapM readSet? _ = _
  rw [mapM_eq_some_iff, List.forall₂_map_left_iff, List.forall₂_map_right_iff, List.forall₂_same]
  intro a ha
  exact a.readSet?_encoded (hparts _ (List.mem_map_of_mem ha))

theorem Name.attributes_encoded (attributes : List TextAttribute) :
    Name.attributes (attributes.map fun a => [a.encoded]) =
      .ok (attributes.map TextAttribute.namedValue) := by
  have hsets : (attributes.map fun a => [a.encoded]).mapM readAttributes =
      .ok (attributes.map fun a => [a.namedValue]) := by
    rw [mapM_eq_ok_iff, List.forall₂_map_left_iff, List.forall₂_map_right_iff, List.forall₂_same]
    exact fun a _ => a.readAttributes_encoded
  unfold Name.attributes
  rw [hsets]
  show Except.ok (attributes.map fun a => [a.namedValue]).flatten = _
  rw [← List.flatMap_def, ← List.map_eq_flatMap]

/-- The text of the first attribute with an object identifier. -/
def TextAttribute.firstText (oid : Oid) (attributes : List TextAttribute) : Option Text :=
  (attributes.find? (·.oid == oid)).map (·.text)

theorem firstText?_namedValue (oid : Oid) (attributes : List TextAttribute) :
    firstText? oid (attributes.map TextAttribute.namedValue) =
      TextAttribute.firstText oid attributes := by
  induction attributes with
  | nil => rfl
  | cons a attributes ih =>
    unfold firstText? TextAttribute.firstText at ih ⊢
    rw [List.map_cons, List.find?_cons, TextAttribute.namedValue,
      List.lookup_cons, Bool.beq_comm]
    cases a.oid == oid with
    | true => rfl
    | false => exact ih

/-- The object identifiers of the attributes that a report shows. -/
def shownOids : List Oid := [Oid.commonName, Oid.serialNumber, Oid.givenName, Oid.surname]

/-- Attributes that are not shown may be left out. -/
theorem TextAttribute.firstText_filter {oid : Oid} (h : oid ∈ shownOids)
    (attributes : List TextAttribute) :
    firstText oid (attributes.filter (·.oid ∈ shownOids)) = firstText oid attributes := by
  unfold firstText
  rw [List.find?_filter]
  congr 2
  funext a
  by_cases ha : a.oid = oid
  · simp [ha, h]
  · simp [ha]

end X509

open X509 Der

/-- The subject that a report shows for attributes of text. -/
def SubjectName.ofTexts (attributes : List TextAttribute) : SubjectName where
  commonName := TextAttribute.firstText Oid.commonName attributes
  serialNumber := TextAttribute.firstText Oid.serialNumber attributes
  givenName := TextAttribute.firstText Oid.givenName attributes
  surname := TextAttribute.firstText Oid.surname attributes

theorem SubjectName.ofAttributes_namedValue (attributes : List TextAttribute) :
    ofAttributes (attributes.map TextAttribute.namedValue) = ofTexts attributes := by
  unfold ofAttributes ofTexts
  simp only [firstText?_namedValue]

theorem SubjectName.ofTexts_filter (attributes : List TextAttribute) :
    ofTexts (attributes.filter (·.oid ∈ shownOids)) = ofTexts attributes := by
  unfold ofTexts
  rw [TextAttribute.firstText_filter (by decide), TextAttribute.firstText_filter (by decide),
    TextAttribute.firstText_filter (by decide), TextAttribute.firstText_filter (by decide)]

/-- A certificate in either form tells the attributes of its subject. -/
theorem answeredWith_of_carries {f : CertificateFrame} {attributes : List TextAttribute}
    (hencodable : (f.certificate (subjectContent attributes)).IsEncodable) {c : Text}
    (hcarries : Carries (f.certificate (subjectContent attributes)).encode c) :
    AnsweredWith c ((TextAttribute.firstText Oid.commonName attributes).getD [])
      (.ofTexts attributes) := by
  have hname := Name.read?_subjectContent (f.isEncodable_subject hencodable)
  have hsubject : subjectOf c = .ok (attributes.map TextAttribute.namedValue) := by
    refine (subjectOf_eq_ok_iff c _).mpr ⟨_, ⟨versionNumber f.isThird, _⟩,
      certificateOctets?_of_carries hcarries, ?_, Name.attributes_encoded attributes⟩
    exact Certificate.ofDer_eq_ok_iff.mpr ⟨f, _, hencodable, rfl, hname, rfl⟩
  have hanswered := answeredWith_of_subjectOf hsubject
  rwa [firstText?_namedValue, SubjectName.ofAttributes_namedValue] at hanswered

/-- **What a report says about a subject is told by the first attributes of four kinds.**  The
frame of the certificate and all other attributes may be exchanged. -/
theorem subject_of_certificate (f : CertificateFrame) (attributes : List TextAttribute) {c : Text}
    (hencodable : (f.certificate (subjectContent attributes)).IsEncodable)
    (hcarries : Carries (f.certificate (subjectContent attributes)).encode c) :
    commonName c = .ok ((TextAttribute.firstText Oid.commonName attributes).getD []) ∧
    subjectName (some c) = .ok (.ofTexts attributes) ∧
    ∀ (f' : CertificateFrame) (attributes' : List TextAttribute) (c' : Text),
      (f'.certificate (subjectContent attributes')).IsEncodable →
      Carries (f'.certificate (subjectContent attributes')).encode c' →
      attributes'.filter (·.oid ∈ shownOids) = attributes.filter (·.oid ∈ shownOids) →
        commonName c' = commonName c ∧ subjectName (some c') = subjectName (some c) := by
  have hanswered := answeredWith_of_carries hencodable hcarries
  refine ⟨hanswered.named, hanswered.described, fun f' attributes' c' hencodable' hcarries' h => ?_⟩
  have hanswered' := answeredWith_of_carries hencodable' hcarries'
  have hsame : SubjectName.ofTexts attributes' = .ofTexts attributes := by
    rw [← SubjectName.ofTexts_filter attributes', h, SubjectName.ofTexts_filter]
  have hname : TextAttribute.firstText Oid.commonName attributes' =
      TextAttribute.firstText Oid.commonName attributes :=
    congrArg SubjectName.commonName hsame
  rw [hanswered.named, hanswered'.named, hanswered.described, hanswered'.described, hname, hsame]
  exact ⟨rfl, rfl⟩

/-- A certificate of version 3 with a serial number, an issuer and no extensions. -/
def sampleFrame : CertificateFrame where
  isThird := true
  serial := [0xF9]
  algorithm := sampleAlgorithm.content
  issuer := (Name.element [[⟨Oid.commonName, ⟨.universal 12, [0x69]⟩⟩]]).content
  validity := encodeAll [⟨Tag.generalizedTime, Text.utf8 "20240101000000Z"⟩,
    ⟨Tag.generalizedTime, Text.utf8 "20240101000000Z"⟩]
  key := encodeAll [.made Tag.sequence [⟨Tag.oid, [0x2A, 0x03]⟩], ⟨Tag.bitString, [0x00, 0x61]⟩]
  issuerId := none
  subjectId := none
  extensions := none
  signatureAlgorithm := sampleAlgorithm.content
  signature := [0x00, 0x61]
  isInteger_serial := by decide
  isAlgorithm_algorithm := by decide
  isSome_issuer := by decide
  isSome_validity := by decide
  isSome_key := by decide
  isBitString_issuerId := by decide
  isBitString_subjectId := by decide
  isSome_extensions := by decide
  isAlgorithm_signatureAlgorithm := by decide
  isBitString_signature := by decide

/-- A subject with two common names and a title, without a surname. -/
def sampleSubject : List TextAttribute := [
  ⟨[0x55, 0x04, 0x0C], "Dr", by decide, by decide⟩,
  ⟨Oid.serialNumber, "38", by decide, by decide⟩,
  ⟨Oid.commonName, "Иванов", by decide, by decide⟩,
  ⟨Oid.givenName, "Иван", by decide, by decide⟩,
  ⟨Oid.commonName, "Petrov", by decide, by decide⟩]

/-- Of the two common names the first is told, and neither the issuer nor the number of the
certificate is mistaken for a name or a number of the subject. -/
theorem subject_of_certificate_sample :
    (sampleFrame.certificate (subjectContent sampleSubject)).IsEncodable ∧
    commonName (Base64.encode (sampleFrame.certificate (subjectContent sampleSubject)).encode) =
      .ok "Иванов" ∧
    subjectName
        (some (Base64.encode (sampleFrame.certificate (subjectContent sampleSubject)).encode)) =
      .ok ⟨some "Иванов", some "38", some "Иван", none⟩ := by
  have hencodable : (sampleFrame.certificate (subjectContent sampleSubject)).IsEncodable :=
    ⟨by decide, by decide +kernel⟩
  obtain ⟨hname, hsubject, -⟩ :=
    subject_of_certificate sampleFrame sampleSubject hencodable (carries_encode _)
  exact ⟨hencodable, hname, hsubject⟩

end ValidationReport
