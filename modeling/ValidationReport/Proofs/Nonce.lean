import ValidationReport.Proofs.Fields
import ValidationReport.Proofs.Transport

/-!
# Time marks

With a time mark the imprint that a report shows is the nonce of the responder's answer.
In the octets of the answer it lies deep: a string of octets in the value of an extension,
among the extensions of the signed part, in a basic answer that is itself the content of a
string of octets.  Every one of these layers begins with a length, which takes more octets
the longer the nonce is.

An answer is taken apart here layer by layer.  On each of them the fields that are read are
told from the fields of a `BasicAnswer`, and the layer inside is left to the step before.

## Main definitions

* `X509.WrittenExtension` — an extension with what is not kept of it.
* `X509.SignedAnswer`, `X509.BasicAnswer` — what an answer is made of.
* `RevocationFacts.MarksWith` — revocation data gives an imprint wherever one is asked for.

## Main results

* `X509.readExtensions?_eq_some_iff` — the extensions that are read.
* `X509.StatusResponse.ofDer?_eq_some_iff` — the answers that are read.
* `X509.nonceOfValue_encode`, `X509.nonceOfValue_of_ne` — the nonce in a value.
* `mark_of_answer` — **the mark of an answer is its nonce.**
-/

namespace ValidationReport

namespace X509

open Der

/-! ### Extensions -/

/-- An extension as it is written. -/
structure WrittenExtension where
  oid : Oid
  isCritical : Bool
  value : Bytes
  isOid_oid : isOid oid = true

/-- The mark of being critical, which is written only when it is true. -/
def criticalMark (isCritical : Bool) : Option Bytes := if isCritical then some [0xFF] else none

theorem all_boolean?_iff {content? : Option Bytes} :
    (content?.all fun c => boolean? c == some true) = true ↔
      ∃ isCritical, content? = criticalMark isCritical := by
  constructor
  · intro h
    cases content? with
    | none => exact ⟨false, rfl⟩
    | some content =>
      refine ⟨true, ?_⟩
      have htrue : boolean? content = some true := beq_iff_eq.mp h
      unfold boolean? at htrue
      split at htrue
      · next b =>
        split at htrue
        · -- a mark that says false is not written
          cases htrue
        · obtain ⟨rfl, -⟩ := Option.ite_none_right_eq_some.mp htrue
          rfl
      · cases htrue
  · rintro ⟨isCritical, rfl⟩
    cases isCritical <;> rfl

namespace WrittenExtension

variable (x : WrittenExtension)

/-- What is kept of an extension. -/
def extension : Extension := ⟨x.oid, x.value⟩

def fields : List Element :=
  ⟨Tag.oid, x.oid⟩ ::
    (Element.optional Tag.boolean (criticalMark x.isCritical) ++ [⟨Tag.octetString, x.value⟩])

def element : Element := .made Tag.sequence x.fields

theorem isEncodable_of_mem_fields {tag : Tag} (h : Element.IsEncodable ⟨tag, encodeAll x.fields⟩) :
    ∀ e ∈ x.fields, e.IsEncodable := by
  apply Element.IsEncodable.of_parts h
  unfold fields
  simp only [List.forall_mem_cons, List.forall_mem_append]
  exact ⟨(by decide : Tag.oid.IsEncodable), Element.isEncodable_tag_of_mem_optional (by decide),
    by decide, List.forall_mem_nil _⟩

end WrittenExtension

theorem Extension.fields_eq_some_iff {es : List Element} {y : Extension} :
    Extension.fields es = some (y, []) ↔
      ∃ x : WrittenExtension, es = x.fields ∧ y = x.extension := by
  unfold Extension.fields
  simp only [Fields.bind_eq_some_iff, Fields.take_eq_some_iff, Fields.optional_eq_some_iff,
    Fields.require_eq_some_iff, Fields.pure_eq_some_iff, Bool.and_eq_true]
  constructor
  · rintro ⟨oid, _, rfl, critical, _, ⟨rfl, -⟩, value, _, rfl, _, _, ⟨⟨hoid, hcritical⟩, rfl⟩,
      rfl, rfl⟩
    obtain ⟨isCritical, rfl⟩ := all_boolean?_iff.mp hcritical
    exact ⟨⟨oid, isCritical, value, hoid⟩, rfl, rfl⟩
  · rintro ⟨x, rfl, rfl⟩
    refine ⟨x.oid, _, rfl, criticalMark x.isCritical, _, ⟨rfl, fun _ => ?_⟩, x.value, _, rfl, (), _,
      ⟨⟨x.isOid_oid, all_boolean?_iff.mpr ⟨_, rfl⟩⟩, rfl⟩, rfl, rfl⟩
    exact Fields.lacks_cons.mpr (by decide : Tag.octetString ≠ Tag.boolean)

/-- An extension is read exactly if it is written like this. -/
theorem readExtension?_eq_some_iff {e : Element} (h : e.IsEncodable) {y : Extension} :
    (if e.tag = Tag.sequence then Extension.fields.of? e.content else none) = some y ↔
      ∃ x : WrittenExtension, e = x.element ∧ y = x.extension := by
  obtain ⟨tag, content⟩ := e
  rw [Option.ite_none_right_eq_some]
  constructor
  · rintro ⟨rfl, hread⟩
    obtain ⟨es, -, rfl, hes⟩ := Fields.of?_eq_some_iff.mp hread
    obtain ⟨x, rfl, rfl⟩ := Extension.fields_eq_some_iff.mp hes
    exact ⟨x, rfl, rfl⟩
  · rintro ⟨x, hx, rfl⟩
    obtain ⟨rfl, rfl⟩ := Element.mk.inj hx
    exact ⟨rfl, Fields.of?_eq_some_iff.mpr ⟨_, x.isEncodable_of_mem_fields h, rfl,
      Extension.fields_eq_some_iff.mpr ⟨x, rfl, rfl⟩⟩⟩

/-- Extensions one after the other. -/
def extensionsElement (xs : List WrittenExtension) : Element :=
  .made Tag.sequence (xs.map WrittenExtension.element)

theorem isEncodable_of_mem_extensions {tag : Tag} {xs : List WrittenExtension}
    (h : Element.IsEncodable ⟨tag, encodeAll (xs.map WrittenExtension.element)⟩) :
    ∀ e ∈ xs.map WrittenExtension.element, e.IsEncodable :=
  Element.IsEncodable.of_parts h
    (List.forall_mem_map.mpr fun _ _ => (by decide : Tag.sequence.IsEncodable))

theorem readExtensions?_eq_some_iff {e : Element} (h : e.IsEncodable) {ys : List Extension} :
    readExtensions? e = some ys ↔
      ∃ xs : List WrittenExtension, e = extensionsElement xs ∧
        ys = xs.map WrittenExtension.extension := by
  obtain ⟨tag, content⟩ := e
  unfold readExtensions?
  rw [Option.ite_none_right_eq_some]
  constructor
  · rintro ⟨rfl, hread⟩
    split at hread
    · cases hread
    · next es hes =>
      obtain ⟨hparts, rfl⟩ := elements?_eq_some_iff.mp hes
      obtain ⟨xs, rfl, rfl⟩ := (mapM_eq_some_iff_of_forall fun e he y =>
        readExtension?_eq_some_iff (hparts e he)).mp hread
      exact ⟨xs, rfl, rfl⟩
  · rintro ⟨xs, he, rfl⟩
    obtain ⟨rfl, rfl⟩ := Element.mk.inj he
    have hparts := isEncodable_of_mem_extensions h
    rw [elements?_eq_some_iff.mpr ⟨hparts, rfl⟩]
    exact ⟨rfl, (mapM_eq_some_iff_of_forall fun e he y =>
      readExtension?_eq_some_iff (hparts e he)).mpr ⟨xs, rfl, rfl⟩⟩

/-- Extensions that may be left out are read as none if they are. -/
theorem readExtensions?_ifAny_iff {e? : Option Element} (h : ∀ e ∈ e?, e.IsEncodable)
    {ys : List Extension} :
    e?.elim (some []) readExtensions? = some ys ↔
      ∃ xs? : Option (List WrittenExtension), e? = xs?.map extensionsElement ∧
        ys = (xs?.getD []).map WrittenExtension.extension := by
  cases e? with
  | none =>
    constructor
    · intro hnone
      exact ⟨none, rfl, (Option.some.inj hnone).symm⟩
    · rintro ⟨xs?, hxs, rfl⟩
      cases xs? with
      | none => rfl
      | some xs => cases hxs
  | some e =>
    refine (readExtensions?_eq_some_iff (h e rfl)).trans ⟨?_, ?_⟩
    · rintro ⟨xs, rfl, rfl⟩
      exact ⟨some xs, rfl, rfl⟩
    · rintro ⟨xs?, hxs, rfl⟩
      cases xs? with
      | none => cases hxs
      | some xs => exact ⟨xs, Option.some.inj hxs, rfl⟩

/-! ### The signed part of an answer -/

/-- What the signed part of an answer is made of. -/
structure SignedAnswer where
  responder : Element
  producedAt : Bytes
  responses : Bytes
  extensions : Option (List WrittenExtension)
  isResponder_responder : isResponder responder = true
  isSome_producedAt : (generalizedTime? producedAt).isSome = true
  areSingleResponses_responses : areSingleResponses responses = true

namespace SignedAnswer

variable (a : SignedAnswer)

def fields : List Element :=
  a.responder :: ⟨Tag.generalizedTime, a.producedAt⟩ :: ⟨Tag.sequence, a.responses⟩ ::
    Element.optional (Tag.explicit 1) ((a.extensions.map extensionsElement).map Element.encode)

/-- What is kept of an answer: its time and its extensions. -/
def IsReadAs (r : StatusResponse) : Prop :=
  generalizedTime? a.producedAt = some r.producedAt ∧
    r.extensions = (a.extensions.getD []).map WrittenExtension.extension

end SignedAnswer

/-- A responder stands in one of two context tags. -/
theorem isEncodable_tag_of_isResponder {e : Element} (h : isResponder e = true) :
    e.tag.IsEncodable := by
  unfold isResponder at h
  split at h
  · cases h
  · split at h
    · next htag =>
      rw [htag]
      decide
    · split at h
      · next htag =>
        rw [htag]
        decide
      · cases h

namespace SignedAnswer

variable (a : SignedAnswer)

theorem isEncodable_of_mem_fields {tag : Tag} (h : Element.IsEncodable ⟨tag, encodeAll a.fields⟩) :
    ∀ e ∈ a.fields, e.IsEncodable := by
  apply Element.IsEncodable.of_parts h
  unfold fields
  simp only [List.forall_mem_cons]
  exact ⟨isEncodable_tag_of_isResponder a.isResponder_responder, by decide, by decide,
    Element.isEncodable_tag_of_mem_optional (by decide)⟩

theorem isEncodable_extensions {tag : Tag} (h : Element.IsEncodable ⟨tag, encodeAll a.fields⟩) :
    ∀ e ∈ a.extensions.map extensionsElement, e.IsEncodable := by
  have hsubset : Element.optional (Tag.explicit 1)
      ((a.extensions.map extensionsElement).map Element.encode) ⊆ a.fields := by
    intro e he
    simp only [fields, List.mem_cons, he, or_true]
  refine Element.isEncodable_of_optional_subset (a.isEncodable_of_mem_fields h) hsubset
    fun e he => ?_
  obtain ⟨xs, -, rfl⟩ := Option.map_eq_some_iff.mp he
  exact (by decide : Tag.sequence.IsEncodable)

end SignedAnswer

theorem signedAnswer_iff {tag : Tag} {content : Bytes} (h : Element.IsEncodable ⟨tag, content⟩)
    {r : StatusResponse} : responseDataFields.of? content = some r ↔
      ∃ a : SignedAnswer, content = encodeAll a.fields ∧ a.IsReadAs r := by
  rw [Fields.of?_eq_some_iff]
  unfold responseDataFields
  simp only [Fields.bind_eq_some_iff, Fields.explicit_eq_some_iff, Fields.some?_eq_some_iff,
    Fields.take_eq_some_iff, Fields.next_eq_some_iff, Fields.require_eq_some_iff,
    Fields.pure_eq_some_iff, Bool.and_eq_true]
  constructor
  · -- the fields are taken first, the checks on them stand at the end
    rintro ⟨_, -, rfl, responder, _, rfl, producedAt, _, rfl, responses, _, rfl, hrest⟩
    obtain ⟨e?, _, ⟨rfl, hencodable, -⟩, _, _, ⟨⟨hresponder, hresponses⟩, rfl⟩, hrest⟩ := hrest
    obtain ⟨time, _, ⟨htime, rfl⟩, ys, _, ⟨hys, rfl⟩, rfl, rfl⟩ := hrest
    obtain ⟨xs?, rfl, rfl⟩ := (readExtensions?_ifAny_iff hencodable).mp hys
    -- the extensions come last, and nothing is left behind them
    rw [List.append_nil]
    exact ⟨⟨responder, producedAt, responses, xs?, hresponder,
      Option.isSome_iff_exists.mpr ⟨_, htime⟩, hresponses⟩, rfl, htime, rfl⟩
  · rintro ⟨a, rfl, htime, hextensions⟩
    have hencodable := a.isEncodable_extensions h
    refine ⟨a.fields, a.isEncodable_of_mem_fields h, rfl, _, _, rfl, _, _, rfl, _, _, rfl,
      a.extensions.map extensionsElement, [],
      ⟨(List.append_nil _).symm, hencodable, fun _ => Fields.lacks_nil _⟩, (), _,
      ⟨⟨a.isResponder_responder, a.areSingleResponses_responses⟩, rfl⟩, _, _, ⟨htime, rfl⟩, _, _,
      ⟨(readExtensions?_ifAny_iff hencodable).mpr ⟨_, rfl, rfl⟩, rfl⟩, ?_, rfl⟩
    rw [← hextensions]

/-! ### Answers -/

theorem tag_of_areCertificates {e : Element} (h : areCertificates e = true) :
    e.tag = Tag.sequence := by
  unfold areCertificates at h
  split at h
  · cases h
  · exact beq_iff_eq.mp (Bool.and_eq_true_iff.mp h).1

/-- What a successful basic answer is made of. -/
structure BasicAnswer extends SignedAnswer where
  algorithm : Bytes
  signature : Bytes
  certificates : Option Element
  isAlgorithm_algorithm : isAlgorithm algorithm = true
  isBitString_signature : isBitString signature = true
  areCertificates_certificates : certificates.all areCertificates = true

namespace BasicAnswer

variable (a : BasicAnswer)

/-- The signed part, and what signs it. -/
def basic : List Element :=
  .made Tag.sequence a.fields :: ⟨Tag.sequence, a.algorithm⟩ :: ⟨Tag.bitString, a.signature⟩ ::
    Element.optional (Tag.explicit 0) (a.certificates.map Element.encode)

/-- The same with its type. -/
def typed : List Element :=
  [⟨Tag.oid, Oid.basicResponse⟩, ⟨Tag.octetString, (Element.made Tag.sequence a.basic).encode⟩]

/-- The same with its status, which is success. -/
def outer : List Element :=
  [⟨Tag.enumerated, [0]⟩, ⟨Tag.explicit 0, (Element.made Tag.sequence a.typed).encode⟩]

def element : Element := .made Tag.sequence a.outer

theorem isEncodable_of_mem_basic {tag : Tag} (h : Element.IsEncodable ⟨tag, encodeAll a.basic⟩) :
    ∀ e ∈ a.basic, e.IsEncodable := by
  apply Element.IsEncodable.of_parts h
  unfold basic
  simp only [List.forall_mem_cons]
  exact ⟨(by decide : Tag.sequence.IsEncodable), by decide, by decide,
    Element.isEncodable_tag_of_mem_optional (by decide)⟩

theorem isEncodable_certificates {tag : Tag} (h : Element.IsEncodable ⟨tag, encodeAll a.basic⟩) :
    ∀ e ∈ a.certificates, e.IsEncodable := by
  have hsubset :
      Element.optional (Tag.explicit 0) (a.certificates.map Element.encode) ⊆ a.basic := by
    intro e he
    simp only [basic, List.mem_cons, he, or_true]
  refine Element.isEncodable_of_optional_subset (a.isEncodable_of_mem_basic h) hsubset
    fun e he => ?_
  have hcertificates := a.areCertificates_certificates
  rw [Option.mem_def.mp he] at hcertificates
  rw [tag_of_areCertificates hcertificates]
  decide

theorem isEncodable_of_mem_typed {tag : Tag} (h : Element.IsEncodable ⟨tag, encodeAll a.typed⟩) :
    ∀ e ∈ a.typed, e.IsEncodable := by
  apply Element.IsEncodable.of_parts h
  unfold typed
  simp only [List.forall_mem_cons]
  exact ⟨(by decide : Tag.oid.IsEncodable), by decide, List.forall_mem_nil _⟩

theorem isEncodable_basic {tag : Tag} (h : Element.IsEncodable ⟨tag, encodeAll a.typed⟩) :
    (Element.made Tag.sequence a.basic).IsEncodable :=
  (a.isEncodable_of_mem_typed h _ (List.mem_cons_of_mem _ List.mem_cons_self)).of_content
    (by decide : Tag.sequence.IsEncodable)

theorem isEncodable_of_mem_outer {tag : Tag} (h : Element.IsEncodable ⟨tag, encodeAll a.outer⟩) :
    ∀ e ∈ a.outer, e.IsEncodable := by
  apply Element.IsEncodable.of_parts h
  unfold outer
  simp only [List.forall_mem_cons]
  exact ⟨(by decide : Tag.enumerated.IsEncodable), by decide, List.forall_mem_nil _⟩

theorem isEncodable_typed {tag : Tag} (h : Element.IsEncodable ⟨tag, encodeAll a.outer⟩) :
    (Element.made Tag.sequence a.typed).IsEncodable :=
  (a.isEncodable_of_mem_outer h _ (List.mem_cons_of_mem _ List.mem_cons_self)).of_content
    (by decide : Tag.sequence.IsEncodable)

/-- An answer that is not too long for an encoding has no extension that is. -/
theorem isEncodable_value (h : a.element.IsEncodable) {xs : List WrittenExtension}
    (hxs : a.extensions = some xs) {x : WrittenExtension} (hx : x ∈ xs) :
    (Element.mk Tag.octetString x.value).IsEncodable := by
  have hbasic := a.isEncodable_of_mem_basic (a.isEncodable_basic (a.isEncodable_typed h))
  have hextensions : (extensionsElement xs).IsEncodable :=
    a.isEncodable_extensions (hbasic _ List.mem_cons_self) _ (by rw [hxs]; rfl)
  -- from the whole inwards, an element cannot be longer than what it stands in
  have hx' : x.element.IsEncodable :=
    isEncodable_of_mem_extensions hextensions _ (List.mem_map_of_mem hx)
  exact x.isEncodable_of_mem_fields hx' _ (by simp [WrittenExtension.fields])

end BasicAnswer

theorem basicAnswer_iff {tag : Tag} {content : Bytes} (h : Element.IsEncodable ⟨tag, content⟩)
    {r : StatusResponse} : basicFields.of? content = some r ↔
      ∃ a : BasicAnswer, content = encodeAll a.basic ∧ a.IsReadAs r := by
  rw [Fields.of?_eq_some_iff]
  unfold basicFields
  simp only [Fields.bind_eq_some_iff, Fields.explicit_eq_some_iff, Fields.some?_eq_some_iff,
    Fields.take_eq_some_iff, Fields.require_eq_some_iff, Bool.and_eq_true]
  constructor
  · rintro ⟨_, hparts, rfl, signed, _, rfl, algorithm, _, rfl, signature, _, rfl, hrest⟩
    obtain ⟨certificates, _, ⟨rfl, -⟩, _, _, ⟨⟨halgorithm, hsignature⟩, rfl⟩, hrest⟩ := hrest
    obtain ⟨_, _, ⟨hcertificates, rfl⟩, hsigned, rfl⟩ := hrest
    obtain ⟨a, rfl, hread⟩ := (signedAnswer_iff (hparts _ List.mem_cons_self)).mp hsigned
    rw [List.append_nil]
    exact ⟨⟨a, algorithm, signature, certificates, halgorithm, hsignature, hcertificates⟩, rfl,
      hread⟩
  · rintro ⟨a, rfl, hread⟩
    have hbasic := a.isEncodable_of_mem_basic h
    have hsigned : responseDataFields.of? (encodeAll a.fields) = some r :=
      (signedAnswer_iff (hbasic _ List.mem_cons_self)).mpr ⟨a.toSignedAnswer, rfl, hread⟩
    exact ⟨a.basic, hbasic, rfl, _, _, rfl, _, _, rfl, _, _, rfl, a.certificates, [],
      ⟨(List.append_nil _).symm, a.isEncodable_certificates h, fun _ => Fields.lacks_nil _⟩, (), _,
      ⟨⟨a.isAlgorithm_algorithm, a.isBitString_signature⟩, rfl⟩, (), _,
      ⟨a.areCertificates_certificates, rfl⟩, hsigned, rfl⟩

theorem typedAnswer_iff {tag : Tag} {content : Bytes} (h : Element.IsEncodable ⟨tag, content⟩)
    {r : StatusResponse} : typedFields.of? content = some r ↔
      ∃ a : BasicAnswer, content = encodeAll a.typed ∧ a.IsReadAs r := by
  rw [Fields.of?_eq_some_iff]
  unfold typedFields
  simp only [Fields.bind_eq_some_iff, Fields.some?_eq_some_iff, Fields.take_eq_some_iff,
    Fields.require_eq_some_iff, beq_iff_eq]
  constructor
  · rintro ⟨_, -, rfl, type, _, rfl, answer, _, rfl, _, _, ⟨rfl, rfl⟩, hrest⟩
    obtain ⟨e, _, ⟨hsingle, rfl⟩, _, _, ⟨htag, rfl⟩, hbasic, rfl⟩ := hrest
    obtain ⟨hencodable, rfl⟩ := single?_eq_some_iff.mp hsingle
    obtain ⟨tag', content'⟩ := e
    obtain rfl : tag' = Tag.sequence := htag
    obtain ⟨a, rfl, hread⟩ := (basicAnswer_iff hencodable).mp hbasic
    exact ⟨a, rfl, hread⟩
  · rintro ⟨a, rfl, hread⟩
    have hencodable := a.isEncodable_basic h
    have hbasic : basicFields.of? (encodeAll a.basic) = some r :=
      (basicAnswer_iff hencodable).mpr ⟨a, rfl, hread⟩
    exact ⟨a.typed, a.isEncodable_of_mem_typed h, rfl, _, _, rfl, _, _, rfl, (), _, ⟨rfl, rfl⟩,
      _, _, ⟨single?_eq_some_iff.mpr ⟨hencodable, rfl⟩, rfl⟩, (), _, ⟨rfl, rfl⟩, hbasic, rfl⟩

theorem outerAnswer_iff {tag : Tag} {content : Bytes} (h : Element.IsEncodable ⟨tag, content⟩)
    {r : StatusResponse} : outerFields.of? content = some r ↔
      ∃ a : BasicAnswer, content = encodeAll a.outer ∧ a.IsReadAs r := by
  have hstatus : ∀ status, natural? status = some 0 ↔ status = [0] := fun status =>
    natural?_eq_some_iff_of_lt (by decide)
  rw [Fields.of?_eq_some_iff]
  unfold outerFields
  simp only [Fields.bind_eq_some_iff, Fields.explicit_eq_some_iff, Fields.some?_eq_some_iff,
    Fields.take_eq_some_iff, Fields.require_eq_some_iff, beq_iff_eq, hstatus]
  constructor
  · rintro ⟨_, -, rfl, status, _, rfl, answer, _, ⟨rfl, hencodable, -⟩, _, _, ⟨rfl, rfl⟩, hrest⟩
    obtain ⟨e, _, ⟨rfl, rfl⟩, _, _, ⟨htag, rfl⟩, htyped, rfl⟩ := hrest
    have he : e.IsEncodable := hencodable e rfl
    obtain ⟨tag', content'⟩ := e
    obtain rfl : tag' = Tag.sequence := htag
    obtain ⟨a, rfl, hread⟩ := (typedAnswer_iff he).mp htyped
    exact ⟨a, rfl, hread⟩
  · rintro ⟨a, rfl, hread⟩
    have hencodable := a.isEncodable_typed h
    have htyped : typedFields.of? (encodeAll a.typed) = some r :=
      (typedAnswer_iff hencodable).mpr ⟨a, rfl, hread⟩
    refine ⟨a.outer, a.isEncodable_of_mem_outer h, rfl, _, _, rfl,
      some (Element.made Tag.sequence a.typed), [], ⟨rfl, ?_, fun _ => Fields.lacks_nil _⟩, (), _,
      ⟨rfl, rfl⟩, _, _, ⟨rfl, rfl⟩, (), _, ⟨rfl, rfl⟩, htyped, rfl⟩
    rintro e ⟨⟩
    exact hencodable

/-- **A successful basic answer is read exactly if it is made up like this.** -/
theorem StatusResponse.ofDer?_eq_some_iff {der : Bytes} {r : StatusResponse} :
    StatusResponse.ofDer? der = some r ↔
      ∃ a : BasicAnswer, a.element.IsEncodable ∧ der = a.element.encode ∧ a.IsReadAs r := by
  unfold StatusResponse.ofDer?
  constructor
  · intro h
    split at h
    · cases h
    · next e hsingle =>
      obtain ⟨hencodable, rfl⟩ := single?_eq_some_iff.mp hsingle
      obtain ⟨tag, content⟩ := e
      obtain ⟨rfl, houter⟩ := Option.ite_none_right_eq_some.mp h
      obtain ⟨a, rfl, hread⟩ := (outerAnswer_iff hencodable).mp houter
      exact ⟨a, hencodable, rfl, hread⟩
  · rintro ⟨a, hencodable, rfl, hread⟩
    rw [single?_eq_some_iff.mpr ⟨hencodable, rfl⟩]
    exact (outerAnswer_iff hencodable).mpr ⟨a, rfl, hread⟩

/-! ### The nonce -/

theorem nonceOfValue_encode {n : Bytes} (h : Element.IsEncodable ⟨Tag.octetString, n⟩) :
    nonceOfValue (Element.mk Tag.octetString n).encode = n := by
  unfold nonceOfValue
  rw [single?_eq_some_iff.mpr ⟨h, rfl⟩]
  rfl

/-- A value that is no string of octets counts as a whole. -/
theorem nonceOfValue_of_ne {value : Bytes}
    (h : ∀ n, value ≠ (Element.mk Tag.octetString n).encode) : nonceOfValue value = value := by
  unfold nonceOfValue
  split
  · next e hsingle =>
    obtain ⟨tag, content⟩ := e
    refine if_neg fun htag => ?_
    obtain rfl : tag = Tag.octetString := htag
    exact h content (single?_eq_some_iff.mp hsingle).2
  · rfl

end X509

/-- A blank may stand at the end. -/
theorem Spaced.append_blank (t : Text) {c : Code} (hc : c.isBlank = true) :
    Spaced t (t ++ [c]) := by
  induction t with
  | nil => exact .blank c hc .nil
  | cons a t ih => exact .letter a ih

/-- Answers are read from base64 among blanks. -/
theorem statusResponse?_of_spaced {r : RevocationFacts} {octets : Bytes} {t : Text}
    (hresponse : r.response = some t) (ht : Spaced (Base64.encode octets) t) :
    statusResponse? r = X509.StatusResponse.ofDer? octets := by
  have hsqueeze : t.squeeze = Base64.encode octets := by
    rw [ht.squeeze_eq]
    exact Text.squeeze_of_no_blank fun c hc =>
      Base64.isBlank_eq_false_of_isWritten (Base64.isWritten_of_mem_encode hc)
  rw [statusResponse?_eq hresponse, hsqueeze, Base64.decode?_encode, Option.bind_some]

/-- A format that asks for the nonce shows it. -/
theorem Format.imprint_of_consultsNonce {format : Format} {s : SignatureFacts}
    (h : format.ConsultsNonce s) : format.imprint s = nonceImprint s.firstRevocation := by
  cases format with
  | timemark => exact if_pos h
  | digidoc => rfl
  | generic | detached =>
    unfold Format.imprint SignatureFacts.firstTimestamp
    rw [show s.timestamps = [] from h]
    rfl

/-- Revocation data gives a time mark: asking for its nonce is answered, and so is asking for the
imprint of a signature that it is the first of, in every format that asks for a nonce. -/
structure RevocationFacts.MarksWith (r : RevocationFacts) (imprint : Text) : Prop where
  imprinted : nonceImprint (some r) = .ok imprint
  shown : ∀ (format : Format) (s : SignatureFacts), format.ConsultsNonce s →
    s.firstRevocation = some r → format.imprint s = .ok imprint

/-- Among distinct extensions the one for the nonce tells the mark. -/
theorem marksWith_of_answer {r : RevocationFacts} {t : Text} {a : X509.BasicAnswer}
    {xs : List X509.WrittenExtension} {x : X509.WrittenExtension}
    (hencodable : a.element.IsEncodable)
    (hresponse : r.response = some t) (ht : Spaced (Base64.encode a.element.encode) t)
    (hxs : a.extensions = some xs) (hdistinct : (xs.map (·.oid)).Nodup) (hx : x ∈ xs)
    (hnonce : x.oid = X509.Oid.nonce) :
    r.MarksWith (Base64.encode (X509.nonceOfValue x.value)) := by
  obtain ⟨time, htime⟩ := Option.isSome_iff_exists.mp a.isSome_producedAt
  have hread : (some r).bind statusResponse? =
      some ⟨time, xs.map X509.WrittenExtension.extension⟩ := by
    rw [Option.bind_some, statusResponse?_of_spaced hresponse ht,
      X509.StatusResponse.ofDer?_eq_some_iff]
    exact ⟨a, hencodable, rfl, htime, by rw [hxs]; rfl⟩
  -- with distinct extensions the look-up finds the one that is meant
  have hoids : ((xs.map X509.WrittenExtension.extension).map (·.oid)).Nodup := by
    rw [List.map_map]
    exact hdistinct
  have hfind := X509.find?_oid hoids (List.mem_map_of_mem (f := X509.WrittenExtension.extension) hx)
  have hoid : x.extension.oid = X509.Oid.nonce := hnonce
  have himprint : nonceImprint (some r) = .ok (Base64.encode (X509.nonceOfValue x.value)) := by
    rw [nonceImprint_of_distinct hread hoids, ← hoid, hfind]
    rfl
  refine ⟨himprint, fun format s hasked hfirst => ?_⟩
  rw [Format.imprint_of_consultsNonce hasked, hfirst, himprint]

/-- **The mark of an answer is its nonce.**  It is read from under six lengths, each of which may be
written in any of its forms, and nothing else in the answer has an influence on it. -/
theorem mark_of_answer {r : RevocationFacts} {t : Text} {a : X509.BasicAnswer}
    {xs : List X509.WrittenExtension} {x : X509.WrittenExtension}
    (hencodable : a.element.IsEncodable)
    (hresponse : r.response = some t) (ht : Spaced (Base64.encode a.element.encode) t)
    (hxs : a.extensions = some xs) (hdistinct : (xs.map (·.oid)).Nodup) (hx : x ∈ xs)
    (hnonce : x.oid = X509.Oid.nonce) :
    (∀ n, x.value = (Der.Element.mk Der.Tag.octetString n).encode →
      r.MarksWith (Base64.encode n)) ∧
    ((∀ n, x.value ≠ (Der.Element.mk Der.Tag.octetString n).encode) →
      r.MarksWith (Base64.encode x.value)) := by
  have hmarks := marksWith_of_answer hencodable hresponse ht hxs hdistinct hx hnonce
  constructor
  · intro n hn
    have hvalue := a.isEncodable_value hencodable hxs hx
    rw [hn] at hvalue hmarks
    have hoctets : Der.Element.IsEncodable ⟨Der.Tag.octetString, n⟩ :=
      hvalue.of_content (by decide : Der.Tag.octetString.IsEncodable)
    rwa [X509.nonceOfValue_encode hoctets] at hmarks
  · intro hne
    rwa [X509.nonceOfValue_of_ne hne] at hmarks

namespace X509

open Der

/-- An answer about one certificate with two extensions, of which the second is a nonce. -/
def sampleBasicAnswer : BasicAnswer where
  responder := .made (Tag.explicit 2) [⟨Tag.octetString, [0x33, 0x33]⟩]
  producedAt := Text.utf8 "20240301100001Z"
  responses := encodeAll [.made Tag.sequence [
    .made Tag.sequence [
      .made Tag.sequence [⟨Tag.oid, [0x2B, 0x0E, 0x03, 0x02, 0x1A]⟩],
      ⟨Tag.octetString, [0x11]⟩, ⟨Tag.octetString, [0x22]⟩, ⟨Tag.integer, [0x12]⟩],
    ⟨Tag.implicit 0, []⟩,
    ⟨Tag.generalizedTime, Text.utf8 "20240301095959Z"⟩]]
  extensions := some [⟨[0x2A, 0x03], true, [0x05, 0x00], by decide⟩,
    ⟨Oid.nonce, false, Element.encode ⟨Tag.octetString, [0x6E, 0x31]⟩, by decide⟩]
  algorithm := encodeAll [⟨Tag.oid, [0x2A, 0x86, 0x48, 0xCE, 0x3D, 0x04, 0x03, 0x03]⟩]
  signature := [0x00, 0x62]
  certificates := none
  isResponder_responder := by decide
  isSome_producedAt := by decide
  areSingleResponses_responses := by decide
  isAlgorithm_algorithm := by decide
  isBitString_signature := by decide
  areCertificates_certificates := by decide

end X509

/-- The answer in base64 with a line feed at the end. -/
def markedRevocation : RevocationFacts :=
  ⟨none, none, some (Base64.encode X509.sampleBasicAnswer.element.encode ++ "\n")⟩

/-- The two octets of the nonce are the mark, not the four of its value. -/
theorem mark_of_answer_sample :
    X509.sampleBasicAnswer.element.IsEncodable ∧
      Base64.encode [0x6E, 0x31] = "bjE=" ∧ markedRevocation.MarksWith "bjE=" := by
  have hencodable : X509.sampleBasicAnswer.element.IsEncodable := ⟨by decide, by decide +kernel⟩
  have hspaced := Spaced.append_blank (Base64.encode X509.sampleBasicAnswer.element.encode)
    (by decide : Code.isBlank '\n' = true)
  have hdistinct : [([0x2A, 0x03] : X509.Oid), X509.Oid.nonce].Nodup := by decide
  obtain ⟨hmark, -⟩ := mark_of_answer hencodable (rfl : markedRevocation.response = _) hspaced
    (rfl : X509.sampleBasicAnswer.extensions = _) hdistinct
    (List.mem_cons_of_mem _ List.mem_cons_self) rfl
  exact ⟨hencodable, by decide, hmark [0x6E, 0x31] rfl⟩

end ValidationReport
