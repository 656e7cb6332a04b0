import ValidationReport.Proofs.Transport

/-!
# Certificates read again

What a report shows of a certificate can be handed in as a certificate again.  There
are three ways in which a text comes into a report, as an armoured block, as base64
among blanks, or as it is, and the text that comes out need not take the same way
the second time: a block comes out as base64 on one line.  Nothing changes for all
that, because the text that comes out carries the octets of the one that went in,
and no octets if that carried none.

## Main results

* `certificateOctets?_normalizeCertificate` — **the text in a report carries the
  octets of the one handed in.**
* `normalizeCertificate_normalizeCertificate` — it is shown as it is.
* `certificateEntry_of_content` — **a certificate in a report describes its own
  text.**
-/

namespace ValidationReport

/-- Blanks around a text carry nothing. -/
theorem certificateOctets?_trim (t : Text) : certificateOctets? t.trim = certificateOctets? t := by
  unfold certificateOctets?
  rw [Text.trim_trim]

theorem normalizeCertificate_of_octets {t : Text} {octets : Bytes}
    (h : certificateOctets? t = some octets) :
    normalizeCertificate t = Base64.encode octets := by
  unfold normalizeCertificate
  rw [h]

theorem normalizeCertificate_of_none {t : Text} (h : certificateOctets? t = none) :
    normalizeCertificate t = t.trim := by
  unfold normalizeCertificate
  rw [h]

theorem certificateOctets?_encode (octets : Bytes) :
    certificateOctets? (Base64.encode octets) = some octets :=
  certificateOctets?_of_carries (carries_encode octets)

/-- **The text in a report carries the octets of the one handed in, or none like that.** -/
theorem certificateOctets?_normalizeCertificate (t : Text) :
    certificateOctets? (normalizeCertificate t) = certificateOctets? t := by
  cases hread : certificateOctets? t with
  | some octets => rw [normalizeCertificate_of_octets hread, certificateOctets?_encode]
  | none => rw [normalizeCertificate_of_none hread, certificateOctets?_trim, hread]

/-- A text that comes out of a report comes out of it again as it is. -/
theorem normalizeCertificate_normalizeCertificate (t : Text) :
    normalizeCertificate (normalizeCertificate t) = normalizeCertificate t := by
  cases hread : certificateOctets? t with
  | some octets =>
    rw [normalizeCertificate_of_octets hread,
      normalizeCertificate_of_octets (certificateOctets?_encode octets)]
  | none =>
    have htrimmed : certificateOctets? t.trim = none := (certificateOctets?_trim t).trans hread
    rw [normalizeCertificate_of_none hread, normalizeCertificate_of_none htrimmed, Text.trim_trim]

theorem subjectOf_normalizeCertificate (t : Text) :
    subjectOf (normalizeCertificate t) = subjectOf t := by
  unfold subjectOf
  rw [certificateOctets?_normalizeCertificate]

theorem commonName_normalizeCertificate (t : Text) :
    commonName (normalizeCertificate t) = commonName t := by
  unfold commonName
  rw [subjectOf_normalizeCertificate]

theorem certificateEntry_normalizeCertificate (role : CertificateRole) (t : Text) :
    certificateEntry role (normalizeCertificate t) = certificateEntry role t := by
  unfold certificateEntry
  rw [normalizeCertificate_normalizeCertificate, commonName_normalizeCertificate]

/-- A certificate that can be entered is shown in its text and with its name. -/
theorem certificateEntry_eq_ok_iff {role : CertificateRole} {t : Text} {e : CertificateEntry} :
    certificateEntry role t = .ok e ↔
      e.role = role ∧ e.content = normalizeCertificate t ∧ commonName t = .ok e.commonName := by
  unfold certificateEntry
  rw [bind_eq_ok_iff]
  constructor
  · rintro ⟨name, hname, hentry⟩
    cases hentry
    exact ⟨rfl, rfl, hname⟩
  · rintro ⟨rfl, hcontent, hname⟩
    refine ⟨e.commonName, hname, ?_⟩
    rw [← hcontent]
    rfl

/-- **A certificate in a report describes its own text.**  The text can be handed in again: it is
shown as it is, and what is said about the certificate, or that the processing stops, is said about
this text as well. -/
theorem certificateEntry_of_content (t : Text) :
    normalizeCertificate (normalizeCertificate t) = normalizeCertificate t ∧
      commonName (normalizeCertificate t) = commonName t ∧
      subjectName (some (normalizeCertificate t)) = subjectName (some t) ∧
      ∀ (role : CertificateRole) (e : CertificateEntry), certificateEntry role t = .ok e →
        certificateEntry role e.content = .ok e ∧ commonName e.content = .ok e.commonName := by
  refine ⟨normalizeCertificate_normalizeCertificate t, commonName_normalizeCertificate t, ?_, ?_⟩
  · rw [subjectName_some, subjectName_some, subjectOf_normalizeCertificate]
  · intro role e h
    obtain ⟨-, hcontent, hname⟩ := certificateEntry_eq_ok_iff.mp h
    rw [hcontent, certificateEntry_normalizeCertificate, commonName_normalizeCertificate]
    exact ⟨h, hname⟩

/-- A block that comes out as base64, and a text that comes out without the blanks around it. -/
theorem certificateEntry_of_content_samples :
    certificateEntry .signing sampleBlock.text = .ok ⟨"AQIDBA==", [], .signing⟩ ∧
      certificateEntry .signing "AQIDBA==" = .ok ⟨"AQIDBA==", [], .signing⟩ ∧
      certificateEntry .revocation " A=B " = .ok ⟨"A=B", [], .revocation⟩ ∧
      certificateEntry .revocation "A=B" = .ok ⟨"A=B", [], .revocation⟩ := by
  have hblock : certificateEntry .signing sampleBlock.text = .ok ⟨"AQIDBA==", [], .signing⟩ := by
    decide
  have hforeign : certificateEntry .revocation " A=B " = .ok ⟨"A=B", [], .revocation⟩ := by
    decide
  obtain ⟨-, -, -, hagain⟩ := certificateEntry_of_content sampleBlock.text
  obtain ⟨-, -, -, hagain'⟩ := certificateEntry_of_content " A=B "
  exact ⟨hblock, (hagain .signing _ hblock).1, hforeign, (hagain' .revocation _ hforeign).1⟩

end ValidationReport
