import Mathlib.Data.List.Forall2
import ValidationReport.DataFiles
import ValidationReport.Proofs.Transcripts
import ValidationReport.Proofs.Transport
import ValidationReport.Proofs.Verdict

/-!
# Data files taken out of a container

The data files of a digidoc container are given out one by one, as the engine
handed them over.  Only the size may have to be found: where the engine gives none
it is the number of octets in the content, if the content is base64, and zero if it
is not.  What counts as base64 is left to the strict reader, so a content with
padding behind its complete groups gets a size though it is not base64 at all.

The format of the container is looked at by its name, as it is when signatures are
reported, but in a place of its own.  Both look at the same name.

## Main definitions

* `InBase64`, `InOverpaddedBase64` — contents that the reader reads, among blanks.
* `DataFile.GivenOutAs` — what is given out of a data file.

## Main results

* `DataFile.givenOutAs_entry` — **what is given out of every data file.**
* `Facts.dataFileEntries_eq` — the format that gives its data files out is the one
  whose signatures are reported as digidoc ones.
* `outcome_of_dataFileReport` — **the data files of every payload, or its refusal.**
-/

namespace ValidationReport

/-! ### Contents -/

/-- Base64 of octets with blanks put in anywhere. -/
def InBase64 (d : Bytes) (content : Text) : Prop := ∃ t, Base64.Transcribes d t ∧ Spaced t content

/-- Overpadded base64 with blanks put in anywhere. -/
def InOverpaddedBase64 (d : Bytes) (content : Text) : Prop :=
  ∃ t, Base64.Overpads d t ∧ Spaced t content

/-- A text is what is left of it with its blanks put back in. -/
theorem spaced_squeeze (t : Text) : Spaced t.squeeze t := by
  induction t with
  | nil => exact .nil
  | cons c t ih =>
    cases hc : c.isBlank with
    | true =>
      have hskip : Text.squeeze (c :: t) = Text.squeeze t := by simp [Text.squeeze, hc]
      rw [hskip]
      exact .blank c hc ih
    | false =>
      have hkeep : Text.squeeze (c :: t) = c :: Text.squeeze t := by simp [Text.squeeze, hc]
      rw [hkeep]
      exact .letter c ih

/-- Letters and padding among blanks are what is left without the blanks. -/
theorem Spaced.squeeze_eq_of_isWritten {t u : Text} (h : Spaced t u)
    (ht : ∀ c ∈ t, Base64.isWritten c = true) : u.squeeze = t := by
  rw [h.squeeze_eq]
  exact Text.squeeze_of_no_blank fun c hc => Base64.isBlank_eq_false_of_isWritten (ht c hc)

theorem decode?_squeeze_eq_some_iff {d : Bytes} {content : Text} :
    Base64.decode? content.squeeze = some d ↔
      InBase64 d content ∨ InOverpaddedBase64 d content := by
  rw [Base64.decode?_eq_some_iff_transcribes]
  constructor
  · exact Or.imp (fun h => ⟨_, h, spaced_squeeze content⟩) fun h => ⟨_, h, spaced_squeeze content⟩
  · rintro (⟨t, ht, hspaced⟩ | ⟨t, ht, hspaced⟩)
    · rw [hspaced.squeeze_eq_of_isWritten ht.allWritten]
      exact Or.inl ht
    · rw [hspaced.squeeze_eq_of_isWritten ht.allWritten]
      exact Or.inr ht

theorem InOverpaddedBase64.not_inBase64 {d : Bytes} {content : Text}
    (h : InOverpaddedBase64 d content) (d' : Bytes) : ¬ InBase64 d' content := by
  obtain ⟨t, ht, hspaced⟩ := h
  rintro ⟨t', ht', hspaced'⟩
  have hsame : t = t' := by
    rw [← hspaced.squeeze_eq_of_isWritten ht.allWritten,
      hspaced'.squeeze_eq_of_isWritten ht'.allWritten]
  exact ht.not_transcribes d' (hsame ▸ ht')

theorem InOverpaddedBase64.ne_nil {d : Bytes} {content : Text}
    (h : InOverpaddedBase64 d content) : d ≠ [] := by
  obtain ⟨-, ⟨-, -, -, hne, -⟩, -⟩ := h
  exact hne

/-- What is read has the size of its octets. -/
theorem contentSize_of_decode? {d : Bytes} {content : Text}
    (h : Base64.decode? content.squeeze = some d) : contentSize content = d.length := by
  unfold contentSize
  rw [h]

/-- What is not read has no size. -/
theorem contentSize_of_foreign {content : Text}
    (h : ∀ d, ¬ InBase64 d content ∧ ¬ InOverpaddedBase64 d content) : contentSize content = 0 := by
  unfold contentSize
  cases hread : Base64.decode? content.squeeze with
  | none => rfl
  | some d =>
    rcases decode?_squeeze_eq_some_iff.mp hread with hd | hd
    · exact absurd hd (h d).1
    · exact absurd hd (h d).2

/-! ### Data files -/

/-- What is given out of a data file: everything as the engine handed it over, and for an unknown
size the number of octets in the content.  Overpadded content counts like the groups in it; any
other content that is not base64 has the size zero. -/
structure DataFile.GivenOutAs (f : DataFile) (e : DataFileEntry) : Prop where
  filename : e.filename = f.name
  mimeType : e.mimeType = f.mimeType.getD []
  content : e.content = f.content.getD []
  size_known : ∀ n, f.size = some n → e.size = n
  size_inBase64 : f.size = none → ∀ d, InBase64 d (f.content.getD []) → e.size = d.length
  size_overpadded : f.size = none → ∀ d, InOverpaddedBase64 d (f.content.getD []) →
    e.size = d.length ∧ e.size ≠ 0 ∧ ∀ d', ¬ InBase64 d' (f.content.getD [])
  size_foreign : f.size = none →
    (∀ d, ¬ InBase64 d (f.content.getD []) ∧ ¬ InOverpaddedBase64 d (f.content.getD [])) →
      e.size = 0

theorem DataFile.givenOutAs_entry (f : DataFile) : f.GivenOutAs f.entry := by
  have hsize : f.size = none → f.entry.size = contentSize (f.content.getD []) := by
    intro hnone
    unfold entry
    rw [hnone]
    rfl
  refine ⟨rfl, rfl, rfl, ?_, ?_, ?_, ?_⟩
  · intro n hn
    unfold entry
    rw [hn]
    rfl
  · intro hnone d hd
    rw [hsize hnone, contentSize_of_decode? (decode?_squeeze_eq_some_iff.mpr (Or.inl hd))]
  · intro hnone d hd
    have hlength : f.entry.size = d.length := by
      rw [hsize hnone, contentSize_of_decode? (decode?_squeeze_eq_some_iff.mpr (Or.inr hd))]
    have hpos : 0 < d.length := List.length_pos_iff.mpr hd.ne_nil
    exact ⟨hlength, by omega, hd.not_inBase64⟩
  · intro hnone hforeign
    rw [hsize hnone, contentSize_of_foreign hforeign]
    rfl

/-! ### Containers -/

/-- The name that is looked at is the one by which signatures are reported as digidoc ones. -/
theorem Facts.format_eq_digidoc_iff (f : Facts) :
    f.format = .digidoc ↔ normalized f.documentFormat = "DDOC" := by
  rcases f.format_cases with ⟨hname, hformat⟩ | ⟨hname, -, hformat⟩ | ⟨hname, -, hformat⟩
  · simp [hname, hformat]
  · simp [hname, hformat]
  · rcases hformat with hformat | hformat <;> simp [hname, hformat]

/-- The format that gives its data files out is the one whose signatures are reported as digidoc
ones. -/
theorem Facts.dataFileEntries_eq (f : Facts) :
    f.dataFileEntries = if f.format = .digidoc then .ok (f.dataFiles.map DataFile.entry)
      else .error (.refused .notDigidoc) := by
  have hname := f.format_eq_digidoc_iff
  unfold dataFileEntries
  by_cases hformat : f.format = .digidoc
  · rw [if_pos hformat, if_pos (hname.mp hformat)]
  · rw [if_neg hformat, if_neg (mt hname.mpr hformat)]

theorem dataFileReport_of_load {p : Payload} {f : Facts} (h : p.load = .ok f) :
    dataFileReport p = f.dataFileEntries := by
  unfold dataFileReport Payload.facts
  rw [h]
  rfl

theorem dataFileReport_of_fault {p : Payload} {fault : Json.Fault} (h : p.load = .error fault) :
    dataFileReport p = .error (.ofFault fault) := by
  unfold dataFileReport Payload.facts
  rw [h]
  rfl

/-- **The data files of every payload, or its refusal.**  They are given out exactly if the facts
can be read and their signatures would be reported as digidoc ones.  A fault of the facts is passed
on, another format has a refusal of its own, and nothing in the data files is an obstacle: there is
an entry for each, in order. -/
theorem outcome_of_dataFileReport (p : Payload) :
    ((∃ files, dataFileReport p = .ok files) ↔ ∃ f, p.load = .ok f ∧ f.format = .digidoc) ∧
    (∀ fault, p.load = .error fault → dataFileReport p = .error (.ofFault fault)) ∧
    (∀ f, p.load = .ok f → f.format ≠ .digidoc →
      dataFileReport p = .error (.refused .notDigidoc)) ∧
    ∀ f, p.load = .ok f → f.format = .digidoc →
      ∃ files, dataFileReport p = .ok files ∧
        List.Forall₂ DataFile.GivenOutAs f.dataFiles files := by
  have hother : ∀ f, p.load = .ok f → f.format ≠ .digidoc →
      dataFileReport p = .error (.refused .notDigidoc) := by
    intro f hload hformat
    rw [dataFileReport_of_load hload, f.dataFileEntries_eq, if_neg hformat]
  have hdigidoc : ∀ f, p.load = .ok f → f.format = .digidoc →
      dataFileReport p = .ok (f.dataFiles.map DataFile.entry) := by
    intro f hload hformat
    rw [dataFileReport_of_load hload, f.dataFileEntries_eq, if_pos hformat]
  refine ⟨⟨?_, ?_⟩, fun fault => dataFileReport_of_fault, hother, ?_⟩
  · rintro ⟨files, hfiles⟩
    cases hload : p.load with
    | error fault =>
      rw [dataFileReport_of_fault hload] at hfiles
      cases hfiles
    | ok f =>
      refine ⟨f, rfl, ?_⟩
      by_contra hformat
      rw [hother f hload hformat] at hfiles
      cases hfiles
  · rintro ⟨f, hload, hformat⟩
    exact ⟨_, hdigidoc f hload hformat⟩
  · intro f hload hformat
    refine ⟨_, hdigidoc f hload hformat, ?_⟩
    rw [List.forall₂_map_right_iff, List.forall₂_same]
    exact fun file _ => file.givenOutAs_entry

/-- A digidoc container with three files: the size of the first is known, the content of the second
is base64 among blanks with bits left over, and in that of the third a letter is missing. -/
def Payload.threeFiles : Payload := .value (.obj [("documentFormat", .str " ddoc"),
  ("dataFiles", .arr [.obj [("name", .str "a"), ("size", .int 0), ("content", .str "AAAA")],
    .obj [("name", .str "b"), ("content", .str "A B=\n=")],
    .obj [("name", .str "c"), ("content", .str "AA=A")]])])

/-- The three sizes are the one that is known, the one of the content, and none. -/
theorem outcome_of_dataFileReport_threeFiles :
    InBase64 [0] "A B=\n=" ∧ ∃ a b c, dataFileReport .threeFiles = .ok [a, b, c] ∧
      a.size = 0 ∧ b.size = 1 ∧ b.content = "A B=\n=" ∧ c.size = 0 := by
  have hload : Payload.threeFiles.load = .ok { Facts.ofSignatures " ddoc" [] [] with
      dataFiles := [⟨"a", none, some 0, none, some "AAAA"⟩,
        ⟨"b", none, none, none, some "A B=\n="⟩, ⟨"c", none, none, none, some "AA=A"⟩] } := by
    decide +kernel
  have hblanks : InBase64 [0] "A B=\n=" :=
    ⟨"AB==", .one 0 (by decide : 1 < 16), .letter _ (.blank _ (by decide)
      (.letter _ (.letter _ (.blank _ (by decide) (.letter _ .nil)))))⟩
  have hforeign : ∀ d, ¬ InBase64 d "AA=A" ∧ ¬ InOverpaddedBase64 d "AA=A" := by
    intro d
    rw [← not_or, ← decode?_squeeze_eq_some_iff]
    simp [show Base64.decode? (Text.squeeze "AA=A") = none by decide]
  obtain ⟨-, -, -, hfiles⟩ := outcome_of_dataFileReport .threeFiles
  obtain ⟨files, hreport, hgiven⟩ := hfiles _ hload (by decide)
  obtain _ | ⟨ha, _ | ⟨hb, _ | ⟨hc, ⟨⟩⟩⟩⟩ := hgiven
  exact ⟨hblanks, _, _, _, hreport, ha.size_known 0 rfl, hb.size_inBase64 rfl [0] hblanks,
    hb.content, hc.size_foreign rfl hforeign⟩

/-- Padding after a complete group is counted out, though the content is no base64. -/
theorem dataFileReport_of_overpadded :
    (∀ d, ¬ InBase64 d "AAAA=") ∧
      dataFileReport (.value (.obj [("documentFormat", .str "DDOC"), ("dataFiles", .arr
        [.obj [("name", .str "t"), ("content", .str "AAAA=")]])])) =
          .ok [⟨"t", [], "AAAA=", 3⟩] := by
  have hoverpadded : InOverpaddedBase64 [0, 0, 0] "AAAA=" :=
    ⟨"AAAA=", ⟨"AAAA", 1, .group 0 0 0 .nil, by decide, rfl, by decide, by decide⟩,
      spaced_squeeze "AAAA="⟩
  refine ⟨hoverpadded.not_inBase64, ?_⟩
  decide +kernel

end ValidationReport
