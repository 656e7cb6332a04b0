import ValidationReport.Proofs.Answers
import ValidationReport.Proofs.Arrival
import ValidationReport.Proofs.DataFiles
import ValidationReport.Proofs.Keys
import ValidationReport.Proofs.Sendable
import ValidationReport.Proofs.Unreadable

/-!
# The endpoints agree

The same contents can be posted to all endpoints.  They are refused by all of them
alike, and what is answered otherwise is made of one conclusion.  What the printed
protocol can show is not always fit to be sent, though: text may hold half of a
surrogate pair, and data of the engine may be nested too deep.  Then the layer
breaks down and the protocol does not.

## Main definitions

* `Facts.HasPlainData` — the data of the engine has finite numbers and well-formed
  text only.
* `layerBody` — what is sent for a layer.
* `Round` — requests with the same contents to every endpoint.

## Main results

* `layerResponse_layersAt` — **a layer is sent if the conclusion is plain and the
  data of the engine is not too deep**, and breaks down otherwise.
* `Round.answers_of_load` — the answers on facts that can be read.
* `endpoints_agree` — **all endpoints refuse the same requests with the same words,
  and report the same conclusion otherwise.**
-/

namespace ValidationReport

/-! ### Data of the engine -/

/-- The data of the engine has finite numbers and well-formed text only. -/
def Facts.HasPlainData (f : Facts) : Prop :=
  ∀ data, f.validationProcess = some data ∨ f.diagnosticData = some data →
    (Json.obj data).isPlain = true

/-- Data of the engine as it was given, and null for none. -/
def givenData (data : Option Object) : Json := data.elim .null .obj

/-- What a layer adds to the conclusion. -/
def Facts.added (f : Facts) : ReportType → Object
  | .simple => []
  | .detailed => [("validationProcess", givenData f.validationProcess)]
  | .diagnostic => [("diagnosticData", givenData f.diagnosticData)]

/-- What is sent for a layer. -/
def layerBody (f : Facts) (type : ReportType) (c : Conclusion) : Json :=
  .obj [("validationReport", .obj ((conclusionKey, writeConclusion c) :: f.added type))]

/-- Plain data with distinct keys is written as it was given, or is too deep. -/
theorem writeEngineData_eq {data : Option Object}
    (h : ∀ o, data = some o → (Json.obj o).isPlain = true ∧ (o.map Prod.fst).Nodup) :
    writeEngineData data = if (givenData data).depth ≤ Json.depthLimit + 1 then
      .ok (givenData data) else .error (.unreportable .depth) := by
  cases data with
  | none => rfl
  | some o =>
    obtain ⟨hplain, hkeys⟩ := h o rfl
    -- the object itself is one level, and its members may take up the others
    have hdepth : (givenData (some o)).depth ≤ Json.depthLimit + 1 ↔
        Json.depthOfMembers o ≤ Json.depthLimit := by
      rw [givenData, Option.elim_some, Json.depth, Nat.add_le_add_iff_right]
    unfold writeEngineData
    simp only [Object.reported_of_isPlain hplain hkeys, hdepth]
    split <;> rfl

theorem isPlain_added {f : Facts} (h : f.HasPlainData) (type : ReportType) :
    ∀ m ∈ f.added type, m.1.isWellFormed = true ∧ m.2.isPlain = true := by
  have hgiven : ∀ data : Option Object, (∀ o, data = some o → (Json.obj o).isPlain = true) →
      (givenData data).isPlain = true := by
    intro data hdata
    cases data with
    | none => rfl
    | some o => exact hdata o rfl
  cases type with
  | simple => exact fun m hm => by cases hm
  | detailed =>
    exact List.forall_mem_singleton.mpr
      ⟨isWellFormed_ofString _, hgiven _ fun o ho => h o (Or.inl ho)⟩
  | diagnostic =>
    exact List.forall_mem_singleton.mpr
      ⟨isWellFormed_ofString _, hgiven _ fun o ho => h o (Or.inr ho)⟩

/-! ### Layers -/

/-- A body can be sent if the conclusion is plain and what is added to it is not too deep.  Two
objects stand around what is added. -/
theorem plain_layerBody {f : Facts} (h : f.HasPlainData) (type : ReportType) (c : Conclusion) :
    Response.plain 200 (layerBody f type c) =
      if (writeConclusion c).isPlain = true ∧
        Json.depthOfMembers (f.added type) < Json.depthLimit then
        .object 200 (layerBody f type c) else .broken := by
  have hplain : (layerBody f type c).isPlain = true ↔ (writeConclusion c).isPlain = true := by
    unfold layerBody
    rw [Json.isPlain_obj_iff, List.forall_mem_singleton, Json.isPlain_obj_iff,
      List.forall_mem_cons, and_iff_left (isPlain_added h type)]
    simp only [conclusionKey, isWellFormed_ofString, true_and]
  have hdepth : (layerBody f type c).depth ≤ Json.depthLimit + 1 ↔
      Json.depthOfMembers (f.added type) < Json.depthLimit := by
    have hconclusion := depth_writeConclusion_le c
    unfold layerBody
    simp only [Json.depth, Json.depthOfMembers, Json.depthLimit]
    omega
  unfold Response.plain
  simp only [Bool.and_eq_true, decide_eq_true_eq, hplain, hdepth]

section

variable {a : Assembly} (hplain : a.facts.HasPlainData)
  (hkeys : ∀ data, a.facts.validationProcess = some data ∨ a.facts.diagnosticData = some data →
    (data.map Prod.fst).Nodup) (text : Text)

include hplain hkeys

/-- A layer has the conclusion and what is added to it, unless that is too deep. -/
theorem write_layersAt (type : ReportType) : (a.layersAt text type).write type =
    if Json.depthOfMembers (a.facts.added type) ≤ Json.depthLimit + 1 then
      .ok (.obj ((conclusionKey, writeConclusion (a.conclusionAt text)) :: a.facts.added type))
    else .error (.unreportable .depth) := by
  cases type with
  | simple => rfl
  | detailed =>
    have hwrite := writeEngineData_eq fun o ho => ⟨hplain o (Or.inl ho), hkeys o (Or.inl ho)⟩
    simp only [Layers.write, DetailedReport.write, Assembly.layersAt, if_true, hwrite, Facts.added,
      Json.depthOfMembers, Nat.max_zero]
    split <;> rfl
  | diagnostic =>
    have hwrite := writeEngineData_eq fun o ho => ⟨hplain o (Or.inr ho), hkeys o (Or.inr ho)⟩
    simp only [Layers.write, DiagnosticReport.write, Assembly.layersAt, if_true, hwrite,
      Facts.added, Json.depthOfMembers, Nat.max_zero]
    split <;> rfl

/-- **A layer is sent if the conclusion is plain and the data of the engine is not too deep**, and
breaks down otherwise. -/
theorem layerResponse_layersAt (type : ReportType) :
    Endpoint.layerResponse type (.ok (a.layersAt text type)) =
      if (writeConclusion (a.conclusionAt text)).isPlain = true ∧
        Json.depthOfMembers (a.facts.added type) < Json.depthLimit then
        .object 200 (layerBody a.facts type (a.conclusionAt text)) else .broken := by
  unfold Endpoint.layerResponse
  simp only [Except.bind, write_layersAt hplain hkeys]
  by_cases hdepth : Json.depthOfMembers (a.facts.added type) ≤ Json.depthLimit + 1
  · rw [if_pos hdepth, ← plain_layerBody hplain]
    rfl
  · -- data that is too deep to be reported is too deep to be sent
    rw [if_neg hdepth, if_neg fun h => hdepth (by omega)]
    rfl

end

/-- The time of a conclusion can always be sent. -/
theorem isPlain_writeConclusion_at_iff {c : Conclusion} {text : Text}
    (hold : c.validationTime.isWellFormed = true) (hnew : text.isWellFormed = true) :
    (writeConclusion { c with validationTime := text }).isPlain = true ↔
      (writeConclusion c).isPlain = true := by
  have htime : ∀ t : Text, t.isWellFormed = true →
      ((validationTimeKey.isWellFormed = true ∧ (Json.str t).isPlain = true) ↔ True) := fun t ht =>
    iff_true_intro ⟨isWellFormed_ofString _, ht⟩
  unfold writeConclusion
  simp only [Json.isPlain_obj_iff, List.forall_mem_cons, htime _ hold, htime _ hnew]
  exact Iff.rfl

/-! ### Refusals -/

/-- A refusal can be told if its words can be sent. -/
theorem Response.ofObstacle_refused {refusal : Refusal}
    (h : refusal.message.isWellFormed = true) :
    ofObstacle (.refused refusal) = .object 400 refusal.object := by
  have hcode : refusal.code.isWellFormed = true := by
    cases refusal <;> exact isWellFormed_ofString _
  have hplain : refusal.object.isPlain = true := by
    rw [Refusal.object, Json.isPlain_obj_iff]
    simp only [List.forall_mem_cons, isWellFormed_ofString, true_and]
    exact ⟨hcode, h, rfl, by simp⟩
  unfold ofObstacle plain
  exact if_pos (by rw [hplain]; rfl)

/-- Refusals that are told alike have the same words. -/
theorem Refusal.message_eq_of_object_eq {refusal refusal' : Refusal}
    (h : refusal.object = refusal'.object) : refusal.message = refusal'.message := by
  obtain ⟨-, hrest⟩ := List.cons.inj (Json.obj.inj h)
  obtain ⟨hmessage, -⟩ := List.cons.inj hrest
  exact Json.str.inj (Prod.mk.inj hmessage).2

/-- An identifier is shown as it was given, or is the default. -/
theorem isWellFormed_identifierShown {given standard : Text} (hgiven : given.isWellFormed = true)
    (hstandard : standard.isWellFormed = true) :
    (identifierShown (some given) standard).isWellFormed = true := by
  unfold identifierShown policyKey
  dsimp only [Option.getD_some]
  split_ifs
  · exact hstandard
  · exact Text.isWellFormed_trim hgiven
  · exact hgiven

/-! ### Rounds -/

/-- Requests with the same contents to every endpoint, each at a time of its own. -/
structure Round (c : Contents) where
  /-- What is posted for a layer of the report. -/
  forms : ReportType → Form
  asksFor : ∀ type, (forms type).AsksFor c type
  times : ReportType → Moment
  timesInRange : ∀ type, (times type).InRange
  /-- What is posted for the protocol. -/
  printedForm : Form
  brings : printedForm.Brings c
  printedTime : Moment
  printedInRange : printedTime.InRange
  /-- What is posted for the data files. -/
  listedForm : Form
  bringsFacts : listedForm.BringsFacts c.facts
  listedTime : Moment

namespace Round

variable {c : Contents} (r : Round c) (settings : Settings) (layout : PageLayout)

/-- The answer to the request for a layer. -/
def layer (type : ReportType) : Response :=
  Endpoint.validate.posted settings layout (r.times type) (r.forms type)

/-- The answer to the request for the protocol. -/
def printed : Response := Endpoint.report.posted settings layout r.printedTime r.printedForm

/-- The answer to the request for the data files. -/
def listed : Response := Endpoint.dataFiles.posted settings layout r.listedTime r.listedForm

/-- All requests for a report get the same answer. -/
def AllAnswer (answer : Response) : Prop :=
  (∀ type, r.layer settings layout type = answer) ∧ r.printed settings layout = answer

variable {settings} {layout}

theorem allAnswer_of_error {obstacle : Obstacle} (h : ∀ time type,
    validate settings standardPolicies time (c.request type) = .error obstacle) :
    r.AllAnswer settings layout (.ofObstacle obstacle) := by
  constructor
  · intro type
    rw [layer, (r.asksFor type).posted, h]
    rfl
  · rw [printed, r.brings.posted, h]
    rfl

/-- Facts that cannot be read are refused, or break every endpoint down. -/
theorem allAnswer_of_fault {policy : Policy} {fault : Json.Fault}
    (hpolicy : standardPolicies.lookup (policyKey (some c.policy) settings.defaultPolicy) =
      some policy)
    (hload : (Payload.bytes c.facts).load = .error fault) :
    r.AllAnswer settings layout (if fault = .malformed then .malformed else .broken) := by
  rw [← Response.ofObstacle_ofFault]
  exact r.allAnswer_of_error fun _ _ => validate_of_fault hpolicy hload

variable (layout) in
/-- **The answers on facts that can be read.**  All are made of one conclusion.  Its protocol is
answered if it can be set on pages. -/
theorem answers_of_load {policy : Policy} {f : Facts}
    (hpolicy : standardPolicies.lookup (policyKey (some c.policy) settings.defaultPolicy) =
      some policy)
    (hload : (Payload.bytes c.facts).load = .ok f) (hplain : f.HasPlainData) :
    ∃ conclusion, (Assembly.ofFacts f c.named policy settings.reportSignatureEnabled).conclusion
        r.printedTime = .ok conclusion ∧
      r.printed settings layout =
        (if layout conclusion.protocol then .page conclusion.protocol else .broken) ∧
      ∀ type, ∃ text, (r.times type).utcText = .ok text ∧
        r.layer settings layout type = if (writeConclusion conclusion).isPlain = true ∧
          Json.depthOfMembers (f.added type) < Json.depthLimit then
          .object 200 (layerBody f type { conclusion with validationTime := text })
          else .broken := by
  have hfacts : (Payload.bytes c.facts).facts = .ok f := by
    unfold Payload.facts
    rw [hload]
    rfl
  have hanswer : ∀ {time : Moment} {text : Text}, time.utcText = .ok text → ∀ type,
      validate settings standardPolicies time (c.request type) = .ok ((Assembly.ofFacts f c.named
        policy settings.reportSignatureEnabled).layersAt text type) := by
    intro time text htext type
    apply validate_eq_ok (resolvePolicy_eq_ok_iff.mpr hpolicy) hfacts
    rw [Assembly.layers_eq, htext]
    rfl
  obtain ⟨printedAt, -, hprinted⟩ := r.printedInRange.exists_utcText
  refine ⟨(Assembly.ofFacts f c.named policy settings.reportSignatureEnabled).conclusionAt
    printedAt.utcText, ?_, ?_, fun type => ?_⟩
  · unfold Assembly.conclusion
    rw [hprinted]
    rfl
  · rw [printed, r.brings.posted, hanswer hprinted]
    rfl
  · obtain ⟨at', -, htime⟩ := (r.timesInRange type).exists_utcText
    refine ⟨at'.utcText, htime, ?_⟩
    rw [layer, (r.asksFor type).posted, hanswer htime, layerResponse_layersAt hplain
      fun data hdata => (keyed_of_load hload hdata).nodup]
    -- every request has a time of its own, which decides nothing about sending
    have hsame := isPlain_writeConclusion_at_iff (c := (Assembly.ofFacts f c.named policy
      settings.reportSignatureEnabled).conclusionAt printedAt.utcText)
      (isWellFormed_utcText printedAt) (isWellFormed_utcText at')
    exact if_congr (and_congr_left' hsame) rfl rfl

/-- The data files are answered whatever the policy, and only for a digidoc container. -/
theorem listed_of_load {f : Facts} (hload : (Payload.bytes c.facts).load = .ok f) :
    r.listed settings layout = if f.format = .digidoc then
      .plain 200 (writeDataFiles (f.dataFiles.map DataFile.entry))
      else .object 400 Refusal.notDigidoc.object := by
  rw [listed, r.bringsFacts.posted, dataFileReport_of_load hload, f.dataFileEntries_eq]
  split <;> rfl

theorem listed_of_fault {fault : Json.Fault} (hload : (Payload.bytes c.facts).load = .error fault) :
    r.listed settings layout = if fault = .malformed then .malformed else .broken := by
  rw [listed, r.bringsFacts.posted, ← Response.ofObstacle_ofFault, dataFileReport_of_fault hload]
  rfl

/-- Malformed facts have words of their own. -/
theorem listed_eq_malformed_iff :
    r.listed settings layout = .malformed ↔ (Payload.bytes c.facts).load = .error .malformed := by
  cases hload : (Payload.bytes c.facts).load with
  | error fault =>
    rw [r.listed_of_fault hload]
    cases fault <;> simp [Response.malformed]
  | ok f =>
    refine iff_of_false ?_ (by simp)
    rw [r.listed_of_load hload]
    split
    · intro h
      have hstatus := congrArg Response.status h
      unfold Response.plain at hstatus
      split at hstatus <;> cases hstatus
    · intro h
      have hwords : Refusal.notDigidoc.message ≠ Refusal.malformedFacts.message := by
        decide +kernel
      obtain ⟨-, hobject⟩ := Response.object.inj h
      exact hwords (Refusal.message_eq_of_object_eq hobject)

end Round

/-! ### Conclusions -/

theorem wellFormed_of_lookup_standardPolicies {key : Text} {policy : Policy}
    (h : standardPolicies.lookup key = some policy) : policy.name.isWellFormed = true ∧
      policy.description.isWellFormed = true ∧ policy.url.isWellFormed = true := by
  obtain ⟨before, after, hsplit, -⟩ := List.lookup_eq_some_iff.mp h
  have hmem : (key, policy) ∈ standardPolicies :=
    hsplit ▸ List.mem_append_right before List.mem_cons_self
  obtain ⟨policy', hpolicy', hpair⟩ := List.mem_map.mp hmem
  cases hpair
  rcases List.mem_pair.mp hpolicy' with rfl | rfl
  · simp only [adesPolicy, isWellFormed_ofString, and_self]
  · simp only [qesPolicy, isWellFormed_ofString, and_self]

/-- The conclusion on facts that hold no surrogates can be sent, for neither the document nor the
policy adds one. -/
theorem Round.isPlain_writeConclusion {c : Contents} (r : Round c) {settings : Settings}
    {policy : Policy} {f : Facts} {conclusion : Conclusion}
    (hpolicy : standardPolicies.lookup (policyKey (some c.policy) settings.defaultPolicy) =
      some policy) (hf : f.WellFormed)
    (h : (Assembly.ofFacts f c.named policy settings.reportSignatureEnabled).conclusion
      r.printedTime = .ok conclusion) : (writeConclusion conclusion).isPlain = true := by
  have hcontents := r.brings.wellFormed
  have hfilename : c.named.filename.isWellFormed = true := by
    rw [c.filename_named]
    split
    · exact isWellFormed_ofString _
    · exact hcontents.filename
  have hassembly := hf.ofFacts (d := c.named) hfilename hcontents.dataFiles
    (wellFormed_of_lookup_standardPolicies hpolicy) settings.reportSignatureEnabled
  obtain ⟨text, htext, hconclusion⟩ := bind_eq_ok_iff.mp h
  cases hconclusion
  obtain ⟨time, -, rfl⟩ := map_eq_ok_iff.mp htext
  exact ValidationReport.isPlain_writeConclusion hassembly (isWellFormed_utcText time)

/-! ### Samples -/

/-- A path that ends where a name would begin. -/
def Upload.nameless : Upload := ⟨"C:\\", [0x78], none⟩

/-- What arrives of it. -/
def Contents.ofFacts (facts : Bytes) : Contents := ⟨⟨[], [0x78], none⟩, facts, [], []⟩

/-- A form with facts about a document without a name. -/
def Form.ofFacts (facts : Bytes) (type : ReportType) : Form :=
  [("document", .upload .nameless), ("facts", .upload ⟨"facts", facts, none⟩),
    ("report_type", .text type.text)]

/-- The form that arrives. -/
def Form.arrived (facts : Bytes) (type : ReportType) : Form :=
  [("document", .upload ⟨[], [0x78], none⟩), ("facts", .upload ⟨"facts", facts, none⟩),
    ("report_type", .text type.text)]

/-- A file of facts arrives as it is sent, whatever the facts. -/
theorem read_facts (facts : Bytes) :
    Part.read ((Part.upload ⟨"facts", facts, none⟩).octets "facts") =
      .ok ("facts", .upload ⟨"facts", facts, none⟩) := by
  have hempty : Part.read ((Part.upload ⟨"facts", [], none⟩).octets "facts") =
      .ok ("facts", .upload ⟨"facts", [], none⟩) := by decide +kernel
  have hbehind : (Part.upload ⟨"facts", facts, none⟩).octets "facts" =
      (Part.upload ⟨"facts", [], none⟩).octets "facts" ++ facts := by
    simp only [Part.octets, Part.head, Part.content, List.append_nil, List.append_assoc]
  rw [hbehind, Part.read_append hempty]
  rfl

theorem arrive_ofFacts (facts : Bytes) (type : ReportType) :
    (Form.ofFacts facts type).arrive = .ok (.arrived facts type) := by
  have hdocument : Part.read ((Part.upload .nameless).octets "document") =
      .ok ("document", .upload ⟨[], [0x78], none⟩) := by decide +kernel
  have htype : Part.read ((Part.text type.text).octets "report_type") =
      .ok ("report_type", .text type.text) := by cases type <;> decide +kernel
  have hshort : (Part.text type.text).content.length ≤ textLimit * 1024 := by
    cases type <;> decide +kernel
  rw [Form.ofFacts, Form.arrive_of_mem_upload List.mem_cons_self,
    Form.arriveAfter_upload hdocument (by decide),
    Form.arriveAfter_upload (read_facts facts) (by decide),
    Form.arriveAfter_text htype (by decide) hshort]
  rfl

theorem holds_arrived (facts : Bytes) (type : ReportType) :
    (Form.arrived facts type).Holds (.ofFacts facts) where
  document := rfl
  facts := ⟨⟨"facts", facts, none⟩, rfl, rfl⟩
  policy := rfl
  dataFiles := rfl

theorem brings_ofFacts (facts : Bytes) (type : ReportType) :
    (Form.ofFacts facts type).Brings (.ofFacts facts) :=
  ⟨_, arrive_ofFacts facts type, holds_arrived facts type⟩

/-- Requests at noon with facts about a document without a name. -/
def Round.ofFacts (facts : Bytes) : Round (.ofFacts facts) where
  forms := Form.ofFacts facts
  asksFor := fun type => ⟨_, arrive_ofFacts facts type, holds_arrived facts type,
    by cases type <;> rfl⟩
  times := fun _ => .noon
  timesInRange := fun _ => by decide
  printedForm := Form.ofFacts facts .simple
  brings := brings_ofFacts facts .simple
  printedTime := .noon
  printedInRange := by decide
  listedForm := Form.ofFacts facts .simple
  bringsFacts := (brings_ofFacts facts .simple).bringsFacts
  listedTime := .noon

/-- Without a policy the qualified one is asked for. -/
theorem lookup_standard : standardPolicies.lookup
    (policyKey (some []) Settings.standard.defaultPolicy) = some qesPolicy := rfl

/-- Arrays that stand inside each other. -/
def Json.nested : ℕ → Json
  | 0 => .arr []
  | n + 1 => .arr [nested n]

theorem Json.isPlain_nested (n : ℕ) : (nested n).isPlain = true := by
  induction n with
  | zero => rfl
  | succ n ih => rw [nested, isPlain_arr_iff, List.forall_mem_singleton, ih]

theorem Json.depth_nested (n : ℕ) : (nested n).depth = n + 1 := by
  induction n with
  | zero => rfl
  | succ n ih => rw [nested, depth, depthOfItems, ih, depthOfItems, Nat.max_zero]

/-- Facts without signatures, with arrays in the course of the validation. -/
def Facts.nested (n : ℕ) : Facts :=
  { Facts.ofSignatures "PDF" [] [] with validationProcess := some [("a", .nested n)] }

/-- The facts as they are sent. -/
def Facts.nestedOctets (n : ℕ) : Bytes :=
  (("\x7b\"documentFormat\":\"PDF\",\"validationProcess\":\x7b\"a\":" : Text) ++
    List.replicate (n + 1) ('[' : Code) ++ List.replicate (n + 1) (']' : Code) ++
    ("\x7d\x7d" : Text)).utf8

theorem Facts.hasPlainData_nested (n : ℕ) : (Facts.nested n).HasPlainData := by
  rintro data (hdata | hdata)
  · cases hdata
    exact Json.isPlain_obj_iff.mpr (List.forall_mem_singleton.mpr
      ⟨isWellFormed_ofString "a", Json.isPlain_nested n⟩)
  · cases hdata

theorem Facts.wellFormed_nested (n : ℕ) : (Facts.nested n).WellFormed where
  containerType := Text.wellFormedIfAny_none
  formatVersion := Text.wellFormedIfAny_none
  signatures := fun _ h => by cases h
  simpleReports := fun _ h => by cases h
  messages := fun _ h => by cases h
  dataFiles := fun _ h => by cases h

/-- The arrays stand in the detailed layer, inside one object. -/
theorem Facts.depth_added_nested (n : ℕ) :
    Json.depthOfMembers ((Facts.nested n).added .detailed) = n + 2 := by
  simp [added, givenData, nested, Json.depthOfMembers, Json.depth, Json.depth_nested]

theorem load_nestedOctets_one :
    (Payload.bytes (Facts.nestedOctets 1)).load = .ok (.nested 1) := by decide +kernel

theorem load_nestedOctets_deep :
    (Payload.bytes (Facts.nestedOctets 300)).load = .ok (.nested 300) := by decide +kernel

/-! ### Agreement -/

/-- **All endpoints refuse the same requests with the same words, and report the same conclusion
otherwise.**  The layers show it with the data that they are for, and the protocol is printed from
it.  A layer that cannot be sent breaks down, which is so if text in the conclusion holds half of a
surrogate pair or data of the engine is nested too deep; the protocol is answered even then.  It
breaks down itself if the layout cannot set it on pages. -/
theorem endpoints_agree (settings : Settings) (layout : PageLayout) {c : Contents} (r : Round c)
    (hplain : ∀ f, (Payload.bytes c.facts).load = .ok f → f.HasPlainData) :
    (policyKey (some c.policy) settings.defaultPolicy ∉ standardPolicies.map Prod.fst →
      r.AllAnswer settings layout (.ofObstacle (.refused (.unknownPolicy
        (identifierShown (some c.policy) settings.defaultPolicy)))) ∧
      (settings.defaultPolicy.isWellFormed = true → r.AllAnswer settings layout (.object 400
        (Refusal.unknownPolicy (identifierShown (some c.policy)
          settings.defaultPolicy)).object))) ∧
    (∀ policy, standardPolicies.lookup (policyKey (some c.policy) settings.defaultPolicy) =
        some policy →
      (r.AllAnswer settings layout .malformed ↔
        (Payload.bytes c.facts).load = .error .malformed) ∧
      ((Payload.bytes c.facts).load = .error .integerTooLong →
        r.AllAnswer settings layout .broken) ∧
      ∀ f, (Payload.bytes c.facts).load = .ok f → ∃ conclusion,
        (Assembly.ofFacts f c.named policy settings.reportSignatureEnabled).conclusion
          r.printedTime = .ok conclusion ∧
        conclusion.document.filename = (if c.document.filename = [] then
          Text.ofString "document" else c.document.filename) ∧
        (f.WellFormed → (writeConclusion conclusion).isPlain = true) ∧
        r.printed settings layout =
          (if layout conclusion.protocol then .page conclusion.protocol else .broken) ∧
        ∀ type, ∃ text, (r.times type).utcText = .ok text ∧
          r.layer settings layout type = if (writeConclusion conclusion).isPlain = true ∧
            Json.depthOfMembers (f.added type) < Json.depthLimit then
            .object 200 (layerBody f type { conclusion with validationTime := text })
            else .broken) ∧
    (r.listed settings layout = .malformed ↔ (Payload.bytes c.facts).load = .error .malformed) ∧
    ((Payload.bytes c.facts).load = .error .integerTooLong → r.listed settings layout = .broken) ∧
    ∀ f, (Payload.bytes c.facts).load = .ok f → r.listed settings layout =
      if f.format = .digidoc then .plain 200 (writeDataFiles (f.dataFiles.map DataFile.entry))
      else .object 400 Refusal.notDigidoc.object := by
  refine ⟨fun hunknown => ?_, fun policy hpolicy => ⟨⟨?_, ?_⟩, ?_, fun f hload => ?_⟩,
    r.listed_eq_malformed_iff, fun hload => r.listed_of_fault hload, fun f => r.listed_of_load⟩
  · -- the policy is looked up before the facts are read
    have hanswer : r.AllAnswer settings layout (.ofObstacle (.refused (.unknownPolicy
        (identifierShown (some c.policy) settings.defaultPolicy)))) :=
      r.allAnswer_of_error fun _ _ => validate_of_unknownPolicy hunknown
    refine ⟨hanswer, fun hdefault => ?_⟩
    have hmessage : (Refusal.unknownPolicy (identifierShown (some c.policy)
        settings.defaultPolicy)).message.isWellFormed = true :=
      Text.isWellFormed_append.mpr ⟨isWellFormed_ofString _,
        isWellFormed_identifierShown r.brings.wellFormed.policy hdefault⟩
    rw [← Response.ofObstacle_refused hmessage]
    exact hanswer
  · -- the protocol alone tells malformed facts from a breakdown and from a page
    rintro ⟨-, hprinted⟩
    cases hload : (Payload.bytes c.facts).load with
    | error fault =>
      have hanswer : r.printed settings layout = _ := (r.allAnswer_of_fault hpolicy hload).2
      cases fault with
      | malformed => rfl
      | integerTooLong =>
        rw [hprinted] at hanswer
        cases hanswer
    | ok f =>
      obtain ⟨conclusion, -, hpage, -⟩ :=
        r.answers_of_load layout hpolicy hload (hplain f hload)
      rw [hprinted] at hpage
      split at hpage <;> cases hpage
  · exact fun hload => r.allAnswer_of_fault hpolicy hload
  · exact fun hload => r.allAnswer_of_fault hpolicy hload
  · obtain ⟨conclusion, hconclusion, hpage, hlayers⟩ :=
      r.answers_of_load layout hpolicy hload (hplain f hload)
    refine ⟨conclusion, hconclusion, ?_, fun hf => r.isPlain_writeConclusion hpolicy hf hconclusion,
      hpage, hlayers⟩
    rw [← c.filename_named]
    obtain ⟨text, -, hmade⟩ := bind_eq_ok_iff.mp hconclusion
    cases hmade
    unfold validatedDocument
    split <;> rfl

/-- A document without a name is called a document in all layers and in the protocol. -/
theorem endpoints_agree_nameless :
    (∀ f, (Payload.bytes (Facts.nestedOctets 1)).load = .ok f → f.HasPlainData) ∧
      ∃ conclusion : Conclusion, conclusion.document.filename = Text.ofString "document" ∧
        (Round.ofFacts (Facts.nestedOctets 1)).printed .standard .unlimited =
          .page conclusion.protocol ∧
        (∀ type, ∃ text, (Round.ofFacts (Facts.nestedOctets 1)).layer .standard .unlimited type =
          .object 200 (layerBody (.nested 1) type { conclusion with validationTime := text })) ∧
        (Round.ofFacts (Facts.nestedOctets 1)).listed .standard .unlimited =
          .object 400 Refusal.notDigidoc.object := by
  have hplain : ∀ f, (Payload.bytes (Facts.nestedOctets 1)).load = .ok f → f.HasPlainData := by
    intro f hload
    cases hload.symm.trans load_nestedOctets_one
    exact Facts.hasPlainData_nested 1
  obtain ⟨-, hknown, -, -, hlisted⟩ := endpoints_agree .standard .unlimited
    (Round.ofFacts (Facts.nestedOctets 1)) hplain
  obtain ⟨-, -, hanswers⟩ := hknown qesPolicy lookup_standard
  obtain ⟨conclusion, -, hfilename, hsent, hprinted, hlayers⟩ := hanswers _ load_nestedOctets_one
  refine ⟨hplain, conclusion, hfilename, hprinted, fun type => ?_, hlisted _ load_nestedOctets_one⟩
  obtain ⟨text, -, hlayer⟩ := hlayers type
  have hdepth : Json.depthOfMembers ((Facts.nested 1).added type) < Json.depthLimit := by
    cases type <;> decide
  rw [if_pos ⟨hsent (Facts.wellFormed_nested 1), hdepth⟩] at hlayer
  exact ⟨text, hlayer⟩

/-- Arrays that are nested too deep break the detailed layer down, although they are plain, the
simple layer is sent and the protocol is printed. -/
theorem detailed_broken_of_nested :
    (∀ f, (Payload.bytes (Facts.nestedOctets 300)).load = .ok f → f.HasPlainData) ∧
      ((Round.ofFacts (Facts.nestedOctets 300)).printed .standard .unlimited).status = 200 ∧
      ((Round.ofFacts (Facts.nestedOctets 300)).layer .standard .unlimited .simple).status = 200 ∧
      ((Round.ofFacts (Facts.nestedOctets 300)).layer .standard .unlimited .detailed).status =
        500 := by
  obtain ⟨conclusion, hconclusion, hprinted, hlayers⟩ :=
    (Round.ofFacts (Facts.nestedOctets 300)).answers_of_load .unlimited lookup_standard
      load_nestedOctets_deep (Facts.hasPlainData_nested 300)
  have hsent := (Round.ofFacts (Facts.nestedOctets 300)).isPlain_writeConclusion lookup_standard
    (Facts.wellFormed_nested 300) hconclusion
  obtain ⟨text, -, hsimple⟩ := hlayers .simple
  obtain ⟨text', -, hdetailed⟩ := hlayers .detailed
  rw [if_pos ⟨hsent, by decide⟩] at hsimple
  have hdeep : ¬ Json.depthOfMembers ((Facts.nested 300).added .detailed) < Json.depthLimit := by
    rw [Facts.depth_added_nested]
    decide
  rw [if_neg fun h => hdeep h.2] at hdetailed
  refine ⟨fun f hload => ?_, ?_, ?_, ?_⟩
  · cases hload.symm.trans load_nestedOctets_deep
    exact Facts.hasPlainData_nested 300
  · rw [hprinted]
    rfl
  · rw [hsimple]
    rfl
  · rw [hdetailed]
    rfl

end ValidationReport
