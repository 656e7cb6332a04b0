import Mathlib.Data.List.Basic
import ValidationReport.Facts.Writer
import ValidationReport.Proofs.Failure
import ValidationReport.Proofs.IsoText

/-!
# Facts in normal form

Reading is lenient: a number may be given as text, a truth value as a word, a time in
many forms, a field under two names or not at all.  Writing is not, and what is written
is read as what it was written from.  So one pass of reading and writing brings facts
into a form in which they stay.

Every reader is `Stable` with its writer.  For values this is shown once for each kind,
for lists and tables it carries over from their items, and for a record it carries over
from its fields as soon as no two names of fields can be mistaken for each other.

## Main definitions

* `Stable` — what is read is read again from what it is written as.
* `Apart` — two names of fields that share no spelling.

## Main results

* `field?_record` — a field of a written record is found under its name.
* `Stable.required`, `Stable.optional`, `Stable.defaulted` — a field that was read is
  read again.
* `load_writeFacts` — **facts that are read, written with every field in either
  spelling, are read again as the same facts.**
-/

namespace ValidationReport

/-! ### Stable readers -/

/-- Whatever is read is read again from what it is written as. -/
def Stable {α : Type} (read : Reads α) (write : α → Json) : Prop :=
  ∀ j a, read j = some a → read (write a) = some a

theorem stable_text : Stable readText .str := fun _ _ _ => rfl

theorem stable_integer : Stable readInteger .int := fun _ _ _ => rfl

theorem stable_boolean : Stable readBoolean .bool := fun _ _ _ => rfl

theorem stable_object : Stable readObject .obj := fun _ _ _ => rfl

/-- Times are read from their text, since only offsets of whole minutes are read at all. -/
theorem stable_moment : Stable Moment.ofJson? writeMoment := fun _ _ h =>
  Moment.ofText?_isoText (Moment.wholeMinutes_of_ofJson? h)

/-- Stated for a step of a reader as it is written: once it is `Option.bind`, a congruence lemma
visits what follows it over and over. -/
theorem bind_eq_some_iff {α β : Type} {x : Option α} {f : α → Option β} {b : β} :
    (x >>= f) = some b ↔ ∃ a, x = some a ∧ f a = some b :=
  Option.bind_eq_some_iff

theorem mapM_map_of_mapM {α β : Type} {read : β → Option α} {write : α → β}
    (h : ∀ b a, read b = some a → read (write a) = some a) :
    ∀ {items : List β} {as : List α}, items.mapM read = some as →
      (as.map write).mapM read = some as := by
  intro items
  induction items with
  | nil =>
    intro as has
    cases has
    rfl
  | cons b items ih =>
    intro as has
    simp only [List.mapM_cons, bind_eq_some_iff, Option.pure_def, Option.some.injEq] at has
    obtain ⟨a, hread, as, hreads, rfl⟩ := has
    simp only [List.map_cons, List.mapM_cons, h b a hread, ih hreads, Option.bind_eq_bind,
      Option.bind_some, Option.pure_def]

theorem Stable.list {α : Type} {read : Reads α} {write : α → Json} (h : Stable read write) :
    Stable (readList read) (writeList write) := by
  intro j as has
  cases j with
  | arr items => exact mapM_map_of_mapM h has
  | _ => cases has

/-- The keys of a table are data, and stay what they are. -/
theorem Stable.table {α : Type} {read : Reads α} {write : α → Json} (h : Stable read write) :
    Stable (readTable read) fun entries => .obj (entries.map fun (key, a) => (key, write a)) := by
  intro j entries hentries
  cases j with
  | obj members =>
    refine mapM_map_of_mapM (fun (key, value) (key', a) hread => ?_) hentries
    obtain ⟨a, hvalue, heq⟩ := Option.map_eq_some_iff.mp hread
    cases heq
    exact congrArg (Option.map _) (h value a hvalue)
  | _ => cases hentries

/-! ### Names of fields -/

/-- No spelling of one name is a spelling of the other. -/
def Apart (n m : Text) : Prop := ∀ s s' : Spelling, s.spell n ≠ s'.spell m

theorem apart_iff {n m : Text} :
    Apart n m ↔ n ≠ m ∧ n ≠ camelCase m ∧ camelCase n ≠ m ∧ camelCase n ≠ camelCase m := by
  constructor
  · intro h
    exact ⟨h .underscores .underscores, h .underscores .camel, h .camel .underscores,
      h .camel .camel⟩
  · rintro ⟨h, h', h'', h'''⟩ s s'
    cases s <;> cases s' <;> assumption

instance (n m : Text) : Decidable (Apart n m) := decidable_of_iff' _ apart_iff

theorem Apart.symm {n m : Text} (h : Apart n m) : Apart m n := fun s s' => (h s' s).symm

/-- The members of a record: a value for every field, under a spelling of its name. -/
def spelled (s : Spelling) (fields : Object) : Object :=
  fields.map fun (name, value) => (s.spell name, value)

theorem get?_spelled_eq_none {s s' : Spelling} {name : Text} : ∀ {fields : Object},
    (∀ m ∈ fields.map Prod.fst, Apart name m) →
      Object.get? (s'.spell name) (spelled s fields) = none := by
  intro fields
  induction fields with
  | nil => intro _; rfl
  | cons field fields ih =>
    intro h
    rw [spelled, List.map_cons, Object.get?, List.lookup_cons,
      beq_eq_false_iff_ne.mpr (h field.1 (by simp) s' s)]
    exact ih fun m hm => h m (List.mem_cons_of_mem _ hm)

/-- Among names that are apart, a spelling of one finds the value of that one or nothing. -/
theorem get?_spelled (s s' : Spelling) {name : Text} {value : Json} :
    ∀ {fields : Object} {i : Nat}, (fields.map Prod.fst).Pairwise Apart →
      fields[i]? = some (name, value) → Object.get? (s'.spell name) (spelled s fields) =
        if s'.spell name = s.spell name then some value else none := by
  intro fields
  induction fields with
  | nil => intro i _ h; cases h
  | cons field fields ih =>
    intro i hapart h
    obtain ⟨hfirst, hrest⟩ := List.pairwise_cons.mp hapart
    rw [spelled, List.map_cons, Object.get?, List.lookup_cons]
    cases i with
    | zero =>
      cases h
      split
      · next heq => rw [if_pos (beq_iff_eq.mp heq)]
      · next hne =>
        rw [if_neg (beq_eq_false_iff_ne.mp hne)]
        exact get?_spelled_eq_none hfirst
    | succ i =>
      have hname : name ∈ fields.map Prod.fst :=
        List.mem_map.mpr ⟨_, List.mem_of_getElem? h, rfl⟩
      rw [beq_eq_false_iff_ne.mpr ((hfirst name hname).symm s' s)]
      exact ih hrest h

/-- Every field of a record is found under its name, whichever way the names are spelt. -/
theorem field?_spelled (s : Spelling) {fields : Object}
    (hapart : (fields.map Prod.fst).Pairwise Apart) {i : Nat} {name : Text} {value : Json}
    (h : fields[i]? = some (name, value)) : field? name (spelled s fields) = some value := by
  have hcamel := get?_spelled s .camel hapart h
  have hunderscores := get?_spelled s .underscores hapart h
  unfold field?
  -- the name in camel case is asked for first, and finds this field or nothing
  cases s with
  | camel =>
    rw [if_pos rfl] at hcamel
    rw [show camelCase name = Spelling.camel.spell name from rfl, hcamel]
  | underscores =>
    rw [if_pos rfl] at hunderscores
    rw [show camelCase name = Spelling.camel.spell name from rfl, hcamel]
    split
    · next value' heq =>
      split at heq
      · exact heq.symm
      · cases heq
    · exact hunderscores

/-! ### Fields -/

section Fields

variable {α : Type} {read : Reads α} {write : α → Json} {name : Text} {o o' : Object}

theorem Stable.required (h : Stable read write) {a : α} (hread : required name read o = some a)
    (hfield : field? name o' = some (write a)) : required name read o' = some a := by
  obtain ⟨j, -, hj⟩ := Option.bind_eq_some_iff.mp hread
  rw [ValidationReport.required, hfield]
  exact h j a hj

/-- A value that may be absent is written as null only when it is absent, since null is read as
no value. -/
theorem Stable.optional (h : Stable read write) (hnull : read .null = none) {a : Option α}
    (hread : optional name read o = some a)
    (hfield : field? name o' = some (writeOptional write a)) :
    optional name read o' = some a := by
  cases a with
  | none =>
    rw [ValidationReport.optional, hfield]
    rfl
  | some a =>
    -- what was read cannot be written as null, or it would not be read again
    have hagain : read (write a) = some a := by
      unfold ValidationReport.optional at hread
      split at hread
      · cases hread
      · cases hread
      · next j _ _ =>
        obtain ⟨a', hj, heq⟩ := Option.map_eq_some_iff.mp hread
        cases heq
        exact h j a hj
    unfold ValidationReport.optional
    rw [hfield]
    split
    · next heq => cases heq
    · next heq =>
      rw [show write a = .null from Option.some.inj heq, hnull] at hagain
      cases hagain
    · next heq =>
      cases heq
      exact congrArg (Option.map some) hagain

/-- A default is read again from what it is written as. -/
theorem Stable.defaulted (h : Stable read write) {standard : α}
    (hstandard : read (write standard) = some standard) {a : α}
    (hread : defaulted name standard read o = some a)
    (hfield : field? name o' = some (write a)) : defaulted name standard read o' = some a := by
  rw [ValidationReport.defaulted, hfield]
  unfold ValidationReport.defaulted at hread
  split at hread
  · cases hread
    exact hstandard
  · exact h _ a hread

/-- A text that may be absent. -/
theorem optional_text {t : Option Text} (hread : optional name readText o = some t)
    (hfield : field? name o' = some (Json.optional t)) : optional name readText o' = some t := by
  have hwritten : Json.optional t = writeOptional .str t := by cases t <;> rfl
  exact stable_text.optional rfl hread (hfield.trans (congrArg some hwritten))

end Fields

/-! ### Records

What a record is read from is told by its fields one by one. -/

/-- A record is stable if it is read again from any object that holds its fields. -/
theorem stable_record {α : Type} {read : Object → Option α} {fields : α → Object} {s : Spelling}
    (names : List Text) (hapart : names.Pairwise Apart)
    (hnames : ∀ a, (fields a).map Prod.fst = names)
    (h : ∀ o a o', read o = some a → (∀ {i : Nat} {name : Text} {value : Json},
      (fields a)[i]? = some (name, value) → field? name o' = some value) → read o' = some a) :
    Stable (readRecord read) fun a => record s (fields a) := by
  intro j a hread
  cases j with
  | obj members => exact h members a _ hread fun hi => field?_spelled s (hnames a ▸ hapart) hi
  | _ => cases hread

/-- The names of the fields of each record. -/
def recordNames : List (List Text) := [
  ["message", "code"],
  ["certificate", "creation_time", "message_imprint"],
  ["certificate", "creation_time", "response"],
  ["country_name", "state_or_province", "city", "postal_code"],
  ["id", "indication", "sub_indication", "qualification", "profile", "signature_format",
   "signature_method", "claimed_signing_time", "best_signature_time", "signing_certificate",
   "revocations", "timestamps", "references", "signer_roles", "production_place", "errors",
   "warnings"],
  ["indication", "sub_indication", "qualification"],
  ["name", "mime_type", "size", "declared_size", "content"],
  ["document_format", "container_type", "format_version", "hashcode", "signatures",
   "simple_reports", "container_errors", "container_warnings", "data_files",
   "validation_process", "diagnostic_data"]]

/-- The names in a record are apart. -/
theorem apart_of_recordNames {i : Nat} {names : List Text} (h : recordNames[i]? = some names) :
    names.Pairwise Apart := by
  have hall : ∀ names ∈ recordNames, names.Pairwise Apart := by decide +kernel
  exact hall names (List.mem_of_getElem? h)

theorem readIssue_eq_some_iff {o : Object} {i : Issue} :
    readIssue o = some i ↔ required "message" readText o = some i.message ∧
      optional "code" readInteger o = some i.code := by
  cases i
  simp only [readIssue, bind_eq_some_iff, Option.pure_def, Option.some.injEq,
    Issue.mk.injEq, existsAndEq, and_true]

theorem stable_issue (s : Spelling) : Stable (readRecord readIssue) (writeIssue s) := by
  refine stable_record _ (apart_of_recordNames (i := 0) rfl) (fun _ => rfl) ?_
  intro o i o' h hfield
  obtain ⟨hmessage, hcode⟩ := readIssue_eq_some_iff.mp h
  exact readIssue_eq_some_iff.mpr ⟨stable_text.required hmessage (hfield (i := 0) rfl),
    stable_integer.optional rfl hcode (hfield (i := 1) rfl)⟩

theorem readTimestamp_eq_some_iff {o : Object} {t : TimestampFacts} :
    readTimestamp o = some t ↔ optional "certificate" readText o = some t.certificate ∧
      optional "creation_time" Moment.ofJson? o = some t.creationTime ∧
      optional "message_imprint" readText o = some t.messageImprint := by
  cases t
  simp only [readTimestamp, bind_eq_some_iff, Option.pure_def, Option.some.injEq,
    TimestampFacts.mk.injEq, existsAndEq, and_true]

theorem stable_timestamp (s : Spelling) :
    Stable (readRecord readTimestamp) (writeTimestamp s) := by
  refine stable_record _ (apart_of_recordNames (i := 1) rfl) (fun _ => rfl) ?_
  intro o t o' h hfield
  obtain ⟨hcertificate, htime, himprint⟩ := readTimestamp_eq_some_iff.mp h
  exact readTimestamp_eq_some_iff.mpr
    ⟨optional_text hcertificate (hfield (i := 0) rfl),
      stable_moment.optional rfl htime (hfield (i := 1) rfl),
      optional_text himprint (hfield (i := 2) rfl)⟩

theorem readRevocation_eq_some_iff {o : Object} {r : RevocationFacts} :
    readRevocation o = some r ↔ optional "certificate" readText o = some r.certificate ∧
      optional "creation_time" Moment.ofJson? o = some r.creationTime ∧
      optional "response" readText o = some r.response := by
  cases r
  simp only [readRevocation, bind_eq_some_iff, Option.pure_def, Option.some.injEq,
    RevocationFacts.mk.injEq, existsAndEq, and_true]

theorem stable_revocation (s : Spelling) :
    Stable (readRecord readRevocation) (writeRevocation s) := by
  refine stable_record _ (apart_of_recordNames (i := 2) rfl) (fun _ => rfl) ?_
  intro o r o' h hfield
  obtain ⟨hcertificate, htime, hresponse⟩ := readRevocation_eq_some_iff.mp h
  exact readRevocation_eq_some_iff.mpr
    ⟨optional_text hcertificate (hfield (i := 0) rfl),
      stable_moment.optional rfl htime (hfield (i := 1) rfl),
      optional_text hresponse (hfield (i := 2) rfl)⟩

theorem readProductionPlace_eq_some_iff {o : Object} {p : ProductionPlace} :
    readProductionPlace o = some p ↔
      defaulted "country_name" [] readText o = some p.countryName ∧
      defaulted "state_or_province" [] readText o = some p.stateOrProvince ∧
      defaulted "city" [] readText o = some p.city ∧
      defaulted "postal_code" [] readText o = some p.postalCode := by
  cases p
  simp only [readProductionPlace, bind_eq_some_iff, Option.pure_def, Option.some.injEq,
    ProductionPlace.mk.injEq, existsAndEq, and_true]

theorem stable_productionPlace (s : Spelling) :
    Stable (readRecord readProductionPlace) (writeProductionPlace s) := by
  refine stable_record _ (apart_of_recordNames (i := 3) rfl) (fun _ => rfl) ?_
  intro o p o' h hfield
  obtain ⟨hcountry, hstate, hcity, hcode⟩ := readProductionPlace_eq_some_iff.mp h
  exact readProductionPlace_eq_some_iff.mpr
    ⟨stable_text.defaulted rfl hcountry (hfield (i := 0) rfl),
      stable_text.defaulted rfl hstate (hfield (i := 1) rfl),
      stable_text.defaulted rfl hcity (hfield (i := 2) rfl),
      stable_text.defaulted rfl hcode (hfield (i := 3) rfl)⟩

theorem readSignature_eq_some_iff {o : Object} {g : SignatureFacts} :
    readSignature o = some g ↔
      required "id" readText o = some g.id ∧
      defaulted "indication" defaultIndication readText o = some g.indication ∧
      optional "sub_indication" readText o = some g.subIndication ∧
      optional "qualification" readText o = some g.qualification ∧
      optional "profile" readText o = some g.profile ∧
      optional "signature_format" readText o = some g.signatureFormat ∧
      defaulted "signature_method" [] readText o = some g.signatureMethod ∧
      optional "claimed_signing_time" Moment.ofJson? o = some g.claimedSigningTime ∧
      optional "best_signature_time" Moment.ofJson? o = some g.bestSignatureTime ∧
      optional "signing_certificate" readText o = some g.signingCertificate ∧
      defaulted "revocations" [] (readList (readRecord readRevocation)) o = some g.revocations ∧
      defaulted "timestamps" [] (readList (readRecord readTimestamp)) o = some g.timestamps ∧
      defaulted "references" [] (readList readText) o = some g.references ∧
      defaulted "signer_roles" [] (readList readText) o = some g.signerRoles ∧
      optional "production_place" (readRecord readProductionPlace) o = some g.productionPlace ∧
      defaulted "errors" [] (readList (readRecord readIssue)) o = some g.errors ∧
      defaulted "warnings" [] (readList (readRecord readIssue)) o = some g.warnings := by
  cases g
  simp only [readSignature, bind_eq_some_iff, Option.pure_def, Option.some.injEq,
    SignatureFacts.mk.injEq, existsAndEq, and_true]

theorem stable_signature (s : Spelling) :
    Stable (readRecord readSignature) (writeSignature s) := by
  refine stable_record _ (apart_of_recordNames (i := 4) rfl) (fun _ => rfl) ?_
  intro o g o' h hfield
  obtain ⟨hid, hindication, hsub, hqualification, hprofile, hformat, hmethod, hclaimed, hbest,
    hcertificate, hrevocations, htimestamps, hreferences, hroles, hplace, herrors,
    hwarnings⟩ := readSignature_eq_some_iff.mp h
  exact readSignature_eq_some_iff.mpr
    ⟨stable_text.required hid (hfield (i := 0) rfl),
      stable_text.defaulted rfl hindication (hfield (i := 1) rfl),
      optional_text hsub (hfield (i := 2) rfl),
      optional_text hqualification (hfield (i := 3) rfl),
      optional_text hprofile (hfield (i := 4) rfl),
      optional_text hformat (hfield (i := 5) rfl),
      stable_text.defaulted rfl hmethod (hfield (i := 6) rfl),
      stable_moment.optional rfl hclaimed (hfield (i := 7) rfl),
      stable_moment.optional rfl hbest (hfield (i := 8) rfl),
      optional_text hcertificate (hfield (i := 9) rfl),
      (stable_revocation s).list.defaulted rfl hrevocations (hfield (i := 10) rfl),
      (stable_timestamp s).list.defaulted rfl htimestamps (hfield (i := 11) rfl),
      stable_text.list.defaulted rfl hreferences (hfield (i := 12) rfl),
      stable_text.list.defaulted rfl hroles (hfield (i := 13) rfl),
      (stable_productionPlace s).optional rfl hplace (hfield (i := 14) rfl),
      (stable_issue s).list.defaulted rfl herrors (hfield (i := 15) rfl),
      (stable_issue s).list.defaulted rfl hwarnings (hfield (i := 16) rfl)⟩

theorem readSimpleEntry_eq_some_iff {o : Object} {e : SimpleEntry} :
    readSimpleEntry o = some e ↔ required "indication" readText o = some e.indication ∧
      optional "sub_indication" readText o = some e.subIndication ∧
      optional "qualification" readText o = some e.qualification := by
  cases e
  simp only [readSimpleEntry, bind_eq_some_iff, Option.pure_def, Option.some.injEq,
    SimpleEntry.mk.injEq, existsAndEq, and_true]

theorem stable_simpleEntry (s : Spelling) :
    Stable (readRecord readSimpleEntry) (writeSimpleEntry s) := by
  refine stable_record _ (apart_of_recordNames (i := 5) rfl) (fun _ => rfl) ?_
  intro o e o' h hfield
  obtain ⟨hindication, hsub, hqualification⟩ := readSimpleEntry_eq_some_iff.mp h
  exact readSimpleEntry_eq_some_iff.mpr
    ⟨stable_text.required hindication (hfield (i := 0) rfl),
      optional_text hsub (hfield (i := 1) rfl),
      optional_text hqualification (hfield (i := 2) rfl)⟩

theorem readDataFile_eq_some_iff {o : Object} {f : DataFile} :
    readDataFile o = some f ↔ required "name" readText o = some f.name ∧
      optional "mime_type" readText o = some f.mimeType ∧
      optional "size" readInteger o = some f.size ∧
      optional "declared_size" readInteger o = some f.declaredSize ∧
      optional "content" readText o = some f.content := by
  cases f
  simp only [readDataFile, bind_eq_some_iff, Option.pure_def, Option.some.injEq,
    DataFile.mk.injEq, existsAndEq, and_true]

theorem stable_dataFile (s : Spelling) : Stable (readRecord readDataFile) (writeDataFile s) := by
  refine stable_record _ (apart_of_recordNames (i := 6) rfl) (fun _ => rfl) ?_
  intro o f o' h hfield
  obtain ⟨hname, htype, hsize, hdeclared, hcontent⟩ := readDataFile_eq_some_iff.mp h
  exact readDataFile_eq_some_iff.mpr
    ⟨stable_text.required hname (hfield (i := 0) rfl),
      optional_text htype (hfield (i := 1) rfl),
      stable_integer.optional rfl hsize (hfield (i := 2) rfl),
      stable_integer.optional rfl hdeclared (hfield (i := 3) rfl),
      optional_text hcontent (hfield (i := 4) rfl)⟩

theorem readFacts_eq_some_iff {o : Object} {f : Facts} :
    readFacts o = some f ↔
      required "document_format" readText o = some f.documentFormat ∧
      optional "container_type" readText o = some f.containerType ∧
      optional "format_version" readText o = some f.formatVersion ∧
      defaulted "hashcode" false readBoolean o = some f.hashcode ∧
      defaulted "signatures" [] (readList (readRecord readSignature)) o = some f.signatures ∧
      defaulted "simple_reports" [] (readTable (readRecord readSimpleEntry)) o =
        some f.simpleReports ∧
      defaulted "container_errors" [] (readList (readRecord readIssue)) o =
        some f.containerErrors ∧
      defaulted "container_warnings" [] (readList (readRecord readIssue)) o =
        some f.containerWarnings ∧
      defaulted "data_files" [] (readList (readRecord readDataFile)) o = some f.dataFiles ∧
      optional "validation_process" readObject o = some f.validationProcess ∧
      optional "diagnostic_data" readObject o = some f.diagnosticData := by
  cases f
  simp only [readFacts, bind_eq_some_iff, Option.pure_def, Option.some.injEq,
    Facts.mk.injEq, existsAndEq, and_true]

theorem stable_facts (s : Spelling) : Stable (readRecord readFacts) (writeFacts s) := by
  refine stable_record _ (apart_of_recordNames (i := 7) rfl) (fun _ => rfl) ?_
  intro o f o' h hfield
  obtain ⟨hformat, htype, hversion, hhashcode, hsignatures, hreports, herrors, hwarnings, hfiles,
    hprocess, hdata⟩ := readFacts_eq_some_iff.mp h
  exact readFacts_eq_some_iff.mpr
    ⟨stable_text.required hformat (hfield (i := 0) rfl),
      optional_text htype (hfield (i := 1) rfl),
      optional_text hversion (hfield (i := 2) rfl),
      stable_boolean.defaulted rfl hhashcode (hfield (i := 3) rfl),
      (stable_signature s).list.defaulted rfl hsignatures (hfield (i := 4) rfl),
      (stable_simpleEntry s).table.defaulted rfl hreports (hfield (i := 5) rfl),
      (stable_issue s).list.defaulted rfl herrors (hfield (i := 6) rfl),
      (stable_issue s).list.defaulted rfl hwarnings (hfield (i := 7) rfl),
      (stable_dataFile s).list.defaulted rfl hfiles (hfield (i := 8) rfl),
      stable_object.optional rfl hprocess (hfield (i := 9) rfl),
      stable_object.optional rfl hdata (hfield (i := 10) rfl)⟩

/-! ### Payloads -/

theorem ofValue_eq_ok_iff {j : Json} {f : Facts} :
    Payload.ofValue j = .ok f ↔ readRecord readFacts j = some f := by
  unfold Payload.ofValue
  cases readRecord readFacts j with
  | none => exact ⟨fun h => (by cases h), fun h => (by cases h)⟩
  | some f' => simp only [Except.ok.injEq, Option.some.injEq]

theorem load_obj_eq_ok_iff {o : Object} {f : Facts} :
    (Payload.value (.obj o)).load = .ok f ↔ readRecord readFacts (.obj o) = some f :=
  ofValue_eq_ok_iff

/-- Facts in a payload, of whatever kind it is, are read from a value. -/
theorem exists_of_load {p : Payload} {f : Facts} (h : p.load = .ok f) :
    ∃ j, readRecord readFacts j = some f := by
  have htext : ∀ {t : Text}, Payload.ofText t = .ok f → ∃ j, readRecord readFacts j = some f := by
    intro t ht
    obtain ⟨j, -, hj⟩ := bind_eq_ok_iff.mp ht
    exact ⟨j, ofValue_eq_ok_iff.mp hj⟩
  unfold Payload.load at h
  split at h
  · split at h
    · exact htext h
    · cases h
  · exact htext h
  · exact htext h
  · exact ⟨_, ofValue_eq_ok_iff.mp h⟩

/-- Facts in lenient forms: both spellings of names and a name that is no field, a truth value and
numbers as text, and times with a fraction, with an offset and as a number. -/
def Object.lenient : Object := [
  ("documentFormat", .str "DDOC"), ("hashcode", .str "Yes"), ("unknown", .int 1),
  ("signatures", .arr [.obj [("id", .str "S0"),
    ("claimed_signing_time", .str "2024-03-01t12:30:05,0000019-0130"),
    ("bestSignatureTime", .int 1709294401),
    ("errors", .arr [.obj [("message", .str "late"), ("code", .str "+0_7.0")]])]]),
  ("data_files", .arr [.obj [("name", .str "a"), ("size", .str " 08.00 "),
    ("declaredSize", .bool true), ("declared_size", .null)]]),
  ("diagnostic_data", .obj [("size", .str " 08.00 ")])]

/-- The time that is given with a fraction and an offset. -/
def Moment.westOfUtc : Moment where
  civil := ⟨2024, 3, 1, 12, 30, 5, 1, by decide, by decide⟩
  offset := some (-5400000000)
  hasYear := by decide
  offsetExists := by decide

/-- The time that is given as a number. -/
def Moment.sinceEpoch : Moment where
  civil := ⟨2024, 3, 1, 12, 0, 1, 0, by decide, by decide⟩
  offset := some 0
  hasYear := by decide
  offsetExists := by decide

/-- The same facts as they are read. -/
def Facts.lenient : Facts where
  documentFormat := "DDOC"
  containerType := none
  formatVersion := none
  hashcode := true
  signatures := [{
    id := "S0"
    indication := defaultIndication
    subIndication := none
    qualification := none
    profile := none
    signatureFormat := none
    signatureMethod := []
    claimedSigningTime := some .westOfUtc
    bestSignatureTime := some .sinceEpoch
    signingCertificate := none
    revocations := []
    timestamps := []
    references := []
    signerRoles := []
    productionPlace := none
    errors := [⟨"late", some 7⟩]
    warnings := [] }]
  simpleReports := []
  containerErrors := []
  containerWarnings := []
  dataFiles := [⟨"a", none, some 8, some 1, none⟩]
  validationProcess := none
  diagnosticData := some [("size", .str " 08.00 ")]

/-- **Facts that are read from a payload, and written with every field in either spelling, are read
again as the same facts.** -/
theorem load_writeFacts {p : Payload} {f : Facts} (h : p.load = .ok f) (s : Spelling) :
    (Payload.value (writeFacts s f)).load = .ok f := by
  obtain ⟨j, hj⟩ := exists_of_load h
  exact load_obj_eq_ok_iff.mpr (stable_facts s j f hj)

/-- Lenient forms are given up in the first pass. -/
theorem load_writeFacts_lenient : (Payload.value (.obj Object.lenient)).load = .ok .lenient ∧
    (Payload.value (writeFacts .underscores .lenient)).load = .ok .lenient ∧
    (Payload.value (writeFacts .camel .lenient)).load = .ok .lenient := by
  have hread : readRecord readFacts (.obj Object.lenient) = some .lenient := by
    decide +kernel
  have hload : (Payload.value (.obj Object.lenient)).load = .ok .lenient :=
    load_obj_eq_ok_iff.mpr hread
  exact ⟨hload, load_writeFacts hload .underscores, load_writeFacts hload .camel⟩

end ValidationReport
